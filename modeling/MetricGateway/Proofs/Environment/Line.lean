import MetricGateway.Environment

/-!
# What a line defines

The values of variables get into the value that a line defines, and nowhere else. Whether a line can
be read, and which name it defines, is decided by the line alone (`outline_readLine`): what a
reference stands for is put into the value as it is and never read for marks of its own. Nothing
else matters of how lines are read (`LineParser`).
-/

namespace MetricGateway.Environment

/-! ## Readings -/

namespace Reading

/-- A reading without the value so far. -/
def course (reading : Reading) : Reading := { reading with seen := [] }

variable {reading other : Reading} (isAlphanumeric : Char → Bool) (values others : String → String)

/-- Readings of one course differ in the value so far at most. -/
theorem eq_of_course_eq (h : reading.course = other.course) :
    other = { reading with seen := other.seen } := by
  obtain ⟨mode, escaped, reference, seen⟩ := reading
  obtain ⟨mode', escaped', reference', seen'⟩ := other
  cases h
  rfl

/-- Which character comes behind a backslash decides how the reading goes on. -/
theorem course_nextEscaped (reading : Reading) (seen : List Char) (c : Char) :
    (reading.nextEscaped c).map course =
      (({ reading with seen } : Reading).nextEscaped c).map course := by
  unfold nextEscaped
  dsimp only
  split
  · rfl
  · split <;> rfl

/-- So does a character behind the name of a reference. -/
theorem course_nextBare (reading : Reading) (seen name : List Char) (c : Char) :
    (reading.nextBare isAlphanumeric values name c).course =
      (({ reading with seen } : Reading).nextBare isAlphanumeric others name c).course := by
  unfold nextBare
  split
  · rfl
  split
  · rfl
  split <;> rfl

/-- So does a character in braces. -/
theorem course_nextBraced (reading : Reading) (seen name : List Char) (c : Char) :
    (reading.nextBraced values name c).course =
      (({ reading with seen } : Reading).nextBraced others name c).course := by
  unfold nextBraced
  split <;> rfl

/-- So does a character of its own. -/
theorem course_nextPlain (reading : Reading) (seen : List Char) (c : Char) :
    (reading.nextPlain c).course = (({ reading with seen } : Reading).nextPlain c).course := by
  unfold nextPlain
  split
  · rfl
  split
  · rfl
  split
  · rfl
  split
  · rfl
  split
  · rfl
  split <;> rfl

/-- How a reading goes on depends neither on the values of variables nor on the value so far. -/
theorem course_next (h : reading.course = other.course) (c : Char) :
    (reading.next isAlphanumeric values c).map course =
      (other.next isAlphanumeric others c).map course := by
  rw [eq_of_course_eq h]
  obtain ⟨mode, escaped, reference, seen⟩ := reading
  unfold next
  dsimp only
  split
  · exact course_nextEscaped _ _ c
  split
  · split <;> rfl
  cases reference with
  | bare name => exact congrArg some (course_nextBare isAlphanumeric values others _ _ name c)
  | braced name => exact congrArg some (course_nextBraced values others _ _ name c)
  | none => exact congrArg some (course_nextPlain _ _ c)

/-- Nor does whether it may end here. -/
theorem isSome_finish (h : reading.course = other.course) :
    (reading.finish values).isSome = (other.finish others).isSome := by
  rw [eq_of_course_eq h]
  obtain ⟨mode, escaped, reference, seen⟩ := reading
  unfold finish
  cases reference with
  | none =>
    dsimp only
    split <;> rfl
  | bare name =>
    dsimp only
    split <;> rfl
  | braced name => rfl

end Reading

/-- Whether a value can be read depends on its text alone. -/
theorem isSome_readValueFrom (isAlphanumeric : Char → Bool) (values others : String → String)
    {reading other : Reading} (h : reading.course = other.course) (text : List Char) :
    (readValueFrom isAlphanumeric values reading text).isSome =
      (readValueFrom isAlphanumeric others other text).isSome := by
  -- The induction is on the text: on equal courses both readings take the same step.
  induction text generalizing reading other with
  | nil => exact Reading.isSome_finish values others h
  | cons c rest ih =>
    have hmode : other.mode = reading.mode := by rw [Reading.eq_of_course_eq h]
    have hnext := Reading.course_next isAlphanumeric values others h c
    rw [readValueFrom, readValueFrom, hmode]
    split
    · split
      · exact ih h
      · split
        · exact Reading.isSome_finish values others h
        · rfl
    · -- Both readings go on, or neither does.
      cases hone : reading.next isAlphanumeric values c with
      | none =>
        rw [hone] at hnext
        rw [Option.map_eq_none_iff.1 hnext.symm]
      | some going =>
        rw [hone] at hnext
        obtain ⟨otherGoing, htwo, hcourse⟩ := Option.map_eq_some_iff.1 hnext.symm
        rw [htwo]
        exact ih hcourse.symm

/-! ## Lines -/

/-- What a line says, but for the value that it gives. -/
inductive Outline where
  | silent
  | defines (name : String)
  | malformed
  deriving DecidableEq, Repr

/-- What a line says, but for the value. -/
def Line.outline : Line → Outline
  | silent => .silent
  | definition name _ => .defines name
  | malformed => .malformed

/-- What a line says but for its value does not depend on the values of variables. -/
theorem outline_readLine (isAlphanumeric : Char → Bool) (values others : String → String)
    (line : String) :
    (readLine isAlphanumeric values line).outline =
      (readLine isAlphanumeric others line).outline := by
  unfold readLine
  dsimp only
  split
  · rfl
  split
  · rfl
  next name rest _ =>
  split
  · rfl
  have hread : (readValueFrom isAlphanumeric values {} (rest.dropWhile Text.isBlank)).isSome =
      (readValueFrom isAlphanumeric others {} (rest.dropWhile Text.isBlank)).isSome :=
    isSome_readValueFrom isAlphanumeric values others rfl _
  -- The outline says only whether the value can be read, which both readings agree on.
  cases hone : readValueFrom isAlphanumeric values {} (rest.dropWhile Text.isBlank) with
  | none =>
    rw [hone] at hread
    rw [Option.not_isSome_iff_eq_none.1 (Bool.eq_false_iff.1 hread.symm)]
  | some value =>
    rw [hone] at hread
    obtain ⟨other, hother⟩ := Option.isSome_iff_exists.1 hread.symm
    rw [hother]
    rfl

/-- A way of reading lines in which the values of variables get into values only. -/
structure LineParser where
  read : LineReader
  outline_eq : ∀ (values others : String → String) (line : String),
    (read values line).outline = (read others line).outline

/-- Lines are read in such a way, whichever characters are letters or digits. -/
def lineParser (isAlphanumeric : Char → Bool) : LineParser where
  read := readLine isAlphanumeric
  outline_eq := outline_readLine isAlphanumeric

end MetricGateway.Environment
