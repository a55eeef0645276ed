import Mathlib.Data.List.Induction
import MetricGateway.Proofs.Environment.Line

/-!
# What environment files define

Environment files are read into the environment that they change, line by line, and what a line says
may refer to what the lines before it have done. In the end each variable has the text that it had
at first, or else the first one that a line gives to it (`loads`). A file counts up to its first
line that cannot be read. Which lines count, and which names they define, is the same whatever the
environment is; so when the files are loaded once more, all these names have texts, and nothing
changes (`loadLines_of_isSet`). However lines are read, the program stops at a definition that no
variable can take, and nowhere else (`Blocks`).

The proof carries that the variables known beforehand and the definitions so far tell the whole
environment (`Stands`); each line that counts preserves this (`stands_setIfAbsent`), unless it
blocks.
-/

namespace MetricGateway.Environment

variable (parser : LineParser)

/-! ## Lines that count -/

namespace LineParser

/-- What a line says, but for the value that it gives. One that is no text cannot be read. -/
def outlineOf (line : Option String) : Outline := (readLine? parser.read (fun _ => "") line).outline

/-- It is the same whatever the values of variables are. -/
theorem outline_readLine? (values : String → String) (line : Option String) :
    (readLine? parser.read values line).outline = parser.outlineOf line := by
  cases line with
  | none => rfl
  | some line => exact parser.outline_eq _ _ line

/-- The lines that count: those before the first one that cannot be read. -/
def counting (lines : List (Option String)) : List (Option String) :=
  lines.takeWhile fun line => parser.outlineOf line ≠ .malformed

/-- A line that can be read counts. -/
theorem counting_cons {line : Option String} (h : parser.outlineOf line ≠ .malformed)
    (rest : List (Option String)) : parser.counting (line :: rest) = line :: parser.counting rest :=
  List.takeWhile_cons_of_pos (decide_eq_true h)

/-- Behind a line that cannot be read, no line counts. -/
theorem counting_cons_of_malformed {line : Option String} (h : parser.outlineOf line = .malformed)
    (rest : List (Option String)) : parser.counting (line :: rest) = [] :=
  List.takeWhile_cons_of_neg (by simp [h])

/-- The lines that count of all environment files, in the order in which they are read. A file that
there is not has no lines. -/
def allLines (content : String → Option Text.Bytes) : List (Option String) :=
  fileNames.flatMap fun name => parser.counting ((content name).elim [] linesOf)

end LineParser

/-! ## Definitions -/

/-- What a variable is known to be: the text that it had beforehand, or else what it was defined to
be first. -/
def known (initial : Environment) (defined : List (String × String)) (name : String) :
    Option String :=
  (initial.get? name).or (defined.lookup name)

/-- What references stand for, given the definitions so far. -/
def values (initial : Environment) (defined : List (String × String)) (name : String) : String :=
  (known initial defined name).getD ""

/-- The definitions so far with the one that a line adds to them, if it adds one. -/
def define (initial : Environment) (defined : List (String × String)) (line : Option String) :
    List (String × String) :=
  match readLine? parser.read (values initial defined) line with
  | .definition name value => defined ++ [(name, value)]
  | _ => defined

/-- What lines define, one after the other. -/
def definitions (initial : Environment) (lines : List (Option String)) : List (String × String) :=
  lines.foldl (define parser initial) []

/-- No variable can have this name, or none can have this text: one of them holds a character that
would end it. -/
def IsUnsettable (name value : String) : Prop :=
  name = "" ∨ '=' ∈ name.toList ∨ '\x00' ∈ name.toList ∨ '\x00' ∈ value.toList

/-- The program stops at a line: it defines a variable that is not known to be anything yet, and
that cannot be set to this. -/
def Blocks (initial : Environment) (defined : List (String × String)) (line : Option String) :
    Prop :=
  ∃ name value, readLine? parser.read (values initial defined) line = .definition name value ∧
    known initial defined name = none ∧ IsUnsettable name value

section

variable {parser} {initial environment : Environment} {defined : List (String × String)}
  {lines : List (Option String)} {line : Option String} {name value : String}

/-- A line that can be read gives a value to the name that it defines. -/
theorem exists_definition (values : String → String) (h : parser.outlineOf line = .defines name) :
    ∃ value, readLine? parser.read values line = .definition name value := by
  rw [← parser.outline_readLine? values line] at h
  cases hread : readLine? parser.read values line with
  | silent =>
    rw [hread] at h
    cases h
  | definition given value =>
    rw [hread] at h
    cases h
    exact ⟨value, rfl⟩
  | malformed =>
    rw [hread] at h
    cases h

/-- A definition is added to those before it. -/
theorem define_of_definition
    (h : readLine? parser.read (values initial defined) line = .definition name value) :
    define parser initial defined line = defined ++ [(name, value)] := by
  unfold define
  rw [h]

/-- A line that defines nothing adds nothing. -/
theorem define_of_not_defines (h : ∀ name, parser.outlineOf line ≠ .defines name) :
    define parser initial defined line = defined := by
  unfold define
  split
  · next name value hread =>
    exact absurd (parser.outline_readLine? _ line ▸ congrArg Line.outline hread) (h name)
  · rfl

/-- A line that defines nothing does not block. -/
theorem not_blocks_of_not_defines (h : ∀ name, parser.outlineOf line ≠ .defines name) :
    ¬Blocks parser initial defined line := by
  rintro ⟨name, value, hread, -⟩
  exact h name (parser.outline_readLine? _ line ▸ congrArg Line.outline hread)

/-- The definitions so far stay in front. -/
theorem prefix_foldl_define (defined : List (String × String)) (lines : List (Option String)) :
    defined <+: lines.foldl (define parser initial) defined := by
  induction lines generalizing defined with
  | nil => exact List.prefix_rfl
  | cons line rest ih =>
    refine List.IsPrefix.trans ?_ (ih _)
    unfold define
    split
    · exact List.prefix_append _ _
    · exact List.prefix_rfl

/-- More lines leave the definitions so far in front. -/
theorem prefix_definitions (initial : Environment) (before after : List (Option String)) :
    definitions parser initial before <+: definitions parser initial (before ++ after) := by
  unfold definitions
  rw [List.foldl_append]
  exact prefix_foldl_define _ after

/-- The last line adds to what the lines before it define. -/
theorem definitions_concat :
    definitions parser initial (lines ++ [line]) =
      define parser initial (definitions parser initial lines) line := by
  unfold definitions
  rw [List.foldl_append]
  rfl

/-- One entry more counts for its own key, if there was none. -/
theorem lookup_concat {α : Type} (entries : List (String × α)) (name key : String) (value : α) :
    (entries ++ [(key, value)]).lookup name =
      (entries.lookup name).or (if name = key then some value else none) := by
  rw [List.lookup_append, List.lookup_cons, List.lookup_nil]
  by_cases hname : name = key
  · rw [if_pos hname, beq_iff_eq.2 hname]
  · rw [if_neg hname, beq_eq_false_iff_ne.2 hname]

/-- A name has no definition if and only if no line defines it. -/
theorem lookup_definitions_eq_none_iff :
    (definitions parser initial lines).lookup name = none ↔
      ∀ line ∈ lines, parser.outlineOf line ≠ .defines name := by
  -- The induction is from the last line, which meets the definitions of all before it.
  induction lines using List.reverseRecOn with
  | nil => exact ⟨fun _ => nofun, fun _ => rfl⟩
  | append_singleton lines line ih =>
    rw [definitions_concat]
    simp only [List.forall_mem_append, List.forall_mem_singleton, ← ih]
    by_cases hdefines : ∃ key, parser.outlineOf line = .defines key
    · obtain ⟨key, hkey⟩ := hdefines
      obtain ⟨value, hvalue⟩ :=
        exists_definition (values initial (definitions parser initial lines)) hkey
      rw [define_of_definition hvalue, lookup_concat, hkey, Option.or_eq_none_iff]
      refine and_congr_right fun _ => ?_
      by_cases hname : name = key
      · simp [hname]
      · simp [hname, Ne.symm hname]
    · rw [define_of_not_defines fun key hkey => hdefines ⟨key, hkey⟩]
      exact ⟨fun h => ⟨h, fun hkey => hdefines ⟨name, hkey⟩⟩, And.left⟩

/-- The definition of a name is the one that the first line with this name gives. -/
theorem lookup_definitions_eq_some_iff :
    (definitions parser initial lines).lookup name = some value ↔
      ∃ before line after, lines = before ++ line :: after ∧
        (∀ other ∈ before, parser.outlineOf other ≠ .defines name) ∧
        readLine? parser.read (values initial (definitions parser initial before)) line =
          .definition name value := by
  constructor
  · -- The induction is from the last line, since earlier definitions of the name go before it.
    intro h
    induction lines using List.reverseRecOn with
    | nil => cases h
    | append_singleton lines line ih =>
      cases hbefore : (definitions parser initial lines).lookup name with
      | some earlier =>
        rw [(prefix_definitions initial lines [line]).lookup_eq_some hbefore] at h
        cases h
        obtain ⟨before, first, after, rfl, hothers, hfirst⟩ := ih hbefore
        exact ⟨before, first, after ++ [line], by simp, hothers, hfirst⟩
      | none =>
        refine ⟨lines, line, [], rfl, lookup_definitions_eq_none_iff.1 hbefore, ?_⟩
        rw [definitions_concat] at h
        unfold define at h
        split at h
        · next key given hread =>
          rw [lookup_concat, hbefore, Option.none_or] at h
          obtain ⟨rfl, hvalue⟩ := Option.ite_none_right_eq_some.1 h
          cases hvalue
          exact hread
        · rw [hbefore] at h
          cases h
  · rintro ⟨before, line, after, rfl, hothers, hread⟩
    have hfirst : (definitions parser initial (before ++ [line])).lookup name = some value := by
      rw [definitions_concat, define_of_definition hread, lookup_concat,
        lookup_definitions_eq_none_iff.2 hothers, Option.none_or, if_pos rfl]
    rw [List.append_cons]
    exact (prefix_definitions initial (before ++ [line]) after).lookup_eq_some hfirst

/-! ## Lines that block -/

/-- No line blocks, given the definitions before the lines. -/
def Clear (parser : LineParser) (initial : Environment) (defined : List (String × String))
    (lines : List (Option String)) : Prop :=
  ∀ before line after, lines = before ++ line :: after →
    ¬Blocks parser initial (before.foldl (define parser initial) defined) line

/-- Lines are clear if the first one is, and the others are after it. -/
theorem clear_cons_iff {rest : List (Option String)} :
    Clear parser initial defined (line :: rest) ↔
      ¬Blocks parser initial defined line ∧
        Clear parser initial (define parser initial defined line) rest := by
  constructor
  · intro h
    refine ⟨h [] line rest rfl, fun before other after hrest => ?_⟩
    exact h (line :: before) other after (congrArg (line :: ·) hrest)
  · rintro ⟨hline, hrest⟩ before other after heq
    cases before with
    | nil =>
      cases heq
      exact hline
    | cons first before =>
      cases heq
      exact hrest before other after rfl

/-- Lines are clear part by part. -/
theorem clear_append_iff {before after : List (Option String)} :
    Clear parser initial defined (before ++ after) ↔
      Clear parser initial defined before ∧
        Clear parser initial (before.foldl (define parser initial) defined) after := by
  induction before generalizing defined with
  | nil => exact ⟨fun h => ⟨fun _ _ _ heq => by simp at heq, h⟩, And.right⟩
  | cons line rest ih =>
    rw [List.cons_append, clear_cons_iff, clear_cons_iff, ih, List.foldl_cons, and_assoc]

end

/-! ## The environment while lines are loaded -/

section

variable {parser} {initial environment next : Environment}
  {defined given : List (String × String)} {name value : String}

/-- A variable has a text if and only if it is set to it. -/
theorem get?_eq_some_iff :
    environment.get? name = some value ↔ environment.lookup name = some (.text value) := by
  unfold get?
  cases environment.lookup name with
  | none => simp
  | some other => cases other <;> simp [EnvironmentValue.text?]

/-- Setting a variable changes nothing else. -/
theorem lookup_set (environment : Environment) (key text name : String) :
    (environment.set key text).lookup name =
      if name = key then some (.text text) else environment.lookup name := by
  have hothers : (environment.filter fun entry => entry.1 ≠ key).lookup name =
      if name = key then none else environment.lookup name := by
    induction environment with
    | nil => exact (ite_self _).symm
    | cons entry rest ih =>
      obtain ⟨other, given⟩ := entry
      -- An entry of the key is left out; any other one is found or passed over as before.
      by_cases hother : other = key
      · rw [List.filter_cons_of_neg (by simpa using hother), ih, List.lookup_cons, hother]
        split
        · rfl
        · next hname => rw [beq_eq_false_iff_ne.2 hname]
      · rw [List.filter_cons_of_pos (by simpa using hother), List.lookup_cons, List.lookup_cons, ih]
        by_cases hname : name = other
        · have hkey : ¬name = key := fun hkey => hother (hname ▸ hkey)
          rw [beq_iff_eq.2 hname, if_neg hkey, if_neg hkey]
        · rw [beq_eq_false_iff_ne.2 hname]
  unfold set
  rw [lookup_concat, hothers]
  split
  · rfl
  · exact Option.or_none

/-- Whether a variable can be set to a text is decided by their characters. -/
theorem isSettable_eq_false_iff : isSettable name value = false ↔ IsUnsettable name value := by
  have hchars (p : Char → Bool) (text : String) :
      text.toList.all p = false ↔ ∃ c ∈ text.toList, p c = false := by simp
  unfold isSettable IsUnsettable
  rw [Bool.and_eq_false_iff, Bool.and_eq_false_iff, hchars, hchars]
  simp only [decide_eq_false_iff_not, not_not, Bool.and_eq_false_iff, ne_eq]
  constructor
  · rintro ((hname | ⟨c, hc, rfl | rfl⟩) | ⟨c, hc, rfl⟩)
    · exact .inl hname
    · exact .inr (.inl hc)
    · exact .inr (.inr (.inl hc))
    · exact .inr (.inr (.inr hc))
  · rintro (hname | hc | hc | hc)
    · exact .inl (.inl hname)
    · exact .inl (.inr ⟨_, hc, .inl rfl⟩)
    · exact .inl (.inr ⟨_, hc, .inr rfl⟩)
    · exact .inr ⟨_, hc, rfl⟩

/-- A variable that has a text is not set anew. -/
theorem setIfAbsent_of_isSet {key : String} (h : environment.get? key ≠ none) (value : String) :
    environment.setIfAbsent key value = some environment := by
  unfold setIfAbsent
  split
  · rfl
  · next hnone => exact absurd hnone h

/-- The environment is what is known: the texts set beforehand, and the definitions so far. What
nothing has defined is what it was. -/
structure Stands (initial : Environment) (defined : List (String × String))
    (environment : Environment) : Prop where
  get?_eq : ∀ name, environment.get? name = known initial defined name
  lookup_eq : ∀ name, defined.lookup name = none →
    environment.lookup name = initial.lookup name

/-- Before anything is defined, the environment is what it is. -/
theorem stands_initial (initial : Environment) : Stands initial [] initial where
  get?_eq name := by
    unfold known
    rw [List.lookup_nil, Option.or_none]
  lookup_eq _ _ := rfl

/-- A definition that does not block is added to what stands. -/
theorem stands_setIfAbsent (h : Stands initial defined environment)
    (hset : environment.setIfAbsent name value = some next) :
    Stands initial (defined ++ [(name, value)]) next := by
  unfold setIfAbsent at hset
  cases hget : environment.get? name with
  | some there =>
    rw [hget] at hset
    cases hset
    refine ⟨fun other => ?_, fun other hother => ?_⟩
    · -- What has a text already keeps it, and the variable in question may be this one.
      rw [h.get?_eq other, known, known, lookup_concat, ← Option.or_assoc]
      split
      · next hother => rw [hother, ← known, ← h.get?_eq, hget, Option.some_or]
      · exact Option.or_none.symm
    · rw [lookup_concat, Option.or_eq_none_iff] at hother
      exact h.lookup_eq other hother.1
  | none =>
    rw [hget] at hset
    obtain ⟨-, hnext⟩ := Option.ite_none_right_eq_some.1 hset
    cases hnext
    refine ⟨fun other => ?_, fun other hother => ?_⟩
    · unfold get?
      rw [lookup_set, known, lookup_concat, ← Option.or_assoc]
      split
      · next hother => rw [hother, ← known, ← h.get?_eq, hget, Option.none_or]; rfl
      · rw [Option.or_none]
        exact h.get?_eq other
    · rw [lookup_concat, Option.or_eq_none_iff] at hother
      have hname : other ≠ name := fun heq => by simp [heq] at hother
      rw [lookup_set, if_neg hname]
      exact h.lookup_eq other hother.1

/-- A definition is taken if and only if it does not block. -/
theorem setIfAbsent_eq_none_iff (h : Stands initial defined environment) :
    environment.setIfAbsent name value = none ↔
      known initial defined name = none ∧ IsUnsettable name value := by
  rw [← h.get?_eq, ← isSettable_eq_false_iff]
  unfold setIfAbsent
  cases environment.get? name with
  | some there => simp
  | none => simp

/-- A definition that is taken does not block. -/
theorem not_blocks_of_setIfAbsent {line : Option String} (h : Stands initial defined environment)
    (hread : readLine? parser.read (values initial defined) line = .definition name value)
    (hset : environment.setIfAbsent name value = some next) :
    ¬Blocks parser initial defined line := by
  rintro ⟨other, given, hother, hblocks⟩
  cases hread.symm.trans hother
  rw [(setIfAbsent_eq_none_iff h).2 hblocks] at hset
  cases hset

/-- What a file gives to a variable is set at once: the environment has whatever is given. -/
theorem lookup_given_cons (h : Stands initial defined environment)
    (hnext : Stands initial (defined ++ [(name, value)]) next)
    (hgiven : ∀ name, environment.get? name = none → given.lookup name = none) (other : String)
    (hother : next.get? other = none) : List.lookup other ((name, value) :: given) = none := by
  rw [hnext.get?_eq, known, lookup_concat, ← Option.or_assoc, Option.or_eq_none_iff, ← known,
    ← h.get?_eq] at hother
  have hname : other ≠ name := fun heq => by simp [heq] at hother
  rw [List.lookup_cons, beq_eq_false_iff_ne.2 hname]
  exact hgiven other hother.1

/-- References stand for what is known. What else the file has given to a variable counts for
nothing, since the variable was set at once. -/
theorem valueOf_eq (h : Stands initial defined environment)
    (hgiven : ∀ name, environment.get? name = none → given.lookup name = none) :
    valueOf environment given = values initial defined := by
  funext name
  unfold valueOf values
  rw [← h.get?_eq name]
  cases hget : environment.get? name with
  | some value => rw [Option.some_or]
  | none => rw [hgiven name hget, Option.none_or]

/-- Loading comes to an environment that stands if lines are clear, and to none if they are not. -/
def Comes (parser : LineParser) (initial : Environment) (defined : List (String × String))
    (lines : List (Option String)) (result : Option Environment) : Prop :=
  Clear parser initial defined lines ∧
      (∃ final, result = some final ∧
        Stands initial (lines.foldl (define parser initial) defined) final) ∨
    ¬Clear parser initial defined lines ∧ result = none

/-- No lines leave what stands as it is. -/
theorem comes_nil (h : Stands initial defined environment) :
    Comes parser initial defined [] (some environment) :=
  .inl ⟨fun _ _ _ heq => by simp at heq, environment, rfl, h⟩

/-- Behind a line that does not block, what comes of the other lines comes of all. -/
theorem comes_cons {line : Option String} {rest : List (Option String)}
    {result : Option Environment}
    (hline : ¬Blocks parser initial defined line)
    (hrest : Comes parser initial (define parser initial defined line) rest result) :
    Comes parser initial defined (line :: rest) result := by
  unfold Comes
  rw [clear_cons_iff, List.foldl_cons]
  exact hrest.imp (And.imp_left fun h => ⟨hline, h⟩) (And.imp_left fun h hclear => h hclear.2)

/-- At a line that blocks, it is over. -/
theorem comes_cons_of_blocks {line : Option String} (rest : List (Option String))
    (hline : Blocks parser initial defined line) :
    Comes parser initial defined (line :: rest) none :=
  .inr ⟨fun hclear => (clear_cons_iff.1 hclear).1 hline, rfl⟩

/-- What comes of some lines decides what comes of those after them. -/
theorem comes_append {before after : List (Option String)} {result : Option Environment}
    {load : Environment → Option Environment} (hbefore : Comes parser initial defined before result)
    (hafter : ∀ middle, Stands initial (before.foldl (define parser initial) defined) middle →
      Comes parser initial (before.foldl (define parser initial) defined) after (load middle)) :
    Comes parser initial defined (before ++ after) (result.bind load) := by
  unfold Comes
  rw [clear_append_iff, List.foldl_append]
  rcases hbefore with ⟨hclear, middle, rfl, hmiddle⟩ | ⟨hblocked, rfl⟩
  · exact (hafter middle hmiddle).imp (And.imp_left fun h => ⟨hclear, h⟩)
      (And.imp_left fun h hboth => h hboth.2)
  · exact .inr ⟨fun hboth => hblocked hboth.1, rfl⟩

/-- Lines are loaded up to the first one that cannot be read or that blocks. -/
theorem comes_loadLines (h : Stands initial defined environment)
    (hgiven : ∀ name, environment.get? name = none → given.lookup name = none)
    (lines : List (Option String)) :
    Comes parser initial defined (parser.counting lines)
      (loadLines parser.read environment given lines) := by
  induction lines generalizing environment defined given with
  | nil => exact comes_nil h
  | cons line rest ih =>
    -- What kind of line it is does not depend on the values, so it counts whatever is known.
    have houtline := parser.outline_readLine? (values initial defined) line
    rw [loadLines, valueOf_eq h hgiven]
    cases hread : readLine? parser.read (values initial defined) line with
    | silent =>
      rw [hread] at houtline
      have hsilent : ∀ name, parser.outlineOf line ≠ .defines name := fun name => houtline ▸ nofun
      rw [parser.counting_cons (houtline ▸ nofun)]
      refine comes_cons (not_blocks_of_not_defines hsilent) ?_
      rw [define_of_not_defines hsilent]
      exact ih h hgiven
    | definition name value =>
      rw [hread] at houtline
      rw [parser.counting_cons (houtline ▸ nofun)]
      dsimp only
      cases hset : environment.setIfAbsent name value with
      | none =>
        exact comes_cons_of_blocks _ ⟨name, value, hread, (setIfAbsent_eq_none_iff h).1 hset⟩
      | some next =>
        refine comes_cons (not_blocks_of_setIfAbsent h hread hset) ?_
        rw [define_of_definition hread]
        have hnext := stands_setIfAbsent h hset
        exact ih hnext (lookup_given_cons h hnext hgiven)
    | malformed =>
      rw [hread] at houtline
      rw [parser.counting_cons_of_malformed houtline.symm]
      exact comes_nil h

/-- So is a file, if there is one. -/
theorem comes_loadFile (h : Stands initial defined environment) (content : Option Text.Bytes) :
    Comes parser initial defined (parser.counting (content.elim [] linesOf))
      (environment.loadFile parser.read content) := by
  cases content with
  | none => exact comes_nil h
  | some content => exact comes_loadLines h (fun _ _ => rfl) (linesOf content)

/-- What comes of all files is what comes of all their lines that count. The induction is on the
files. -/
theorem comes_loadFiles (parser : LineParser) (initial : Environment)
    (content : String → Option Text.Bytes) :
    Comes parser initial [] (parser.allLines content) (initial.loadFiles parser.read content) := by
  have hfiles : ∀ (names : List String) (defined : List (String × String))
      (environment : Environment), Stands initial defined environment →
      Comes parser initial defined
        (names.flatMap fun name => parser.counting ((content name).elim [] linesOf))
        (names.foldlM (fun environment name => environment.loadFile parser.read (content name))
          environment) := by
    intro names
    induction names with
    | nil => exact fun defined environment h => comes_nil h
    | cons name rest ih =>
      intro defined environment h
      rw [List.flatMap_cons, List.foldlM_cons]
      exact comes_append (comes_loadFile h (content name)) fun middle hmiddle => ih _ _ hmiddle
  exact hfiles fileNames [] initial (stands_initial initial)

/-! ## Loading once more -/

/-- Lines that define no more than what has a text leave the environment as it is. -/
theorem loadLines_of_isSet {lines : List (Option String)}
    (h : ∀ line ∈ parser.counting lines, ∀ name, parser.outlineOf line = .defines name →
      environment.get? name ≠ none) (given : List (String × String)) :
    loadLines parser.read environment given lines = some environment := by
  -- The values given so far change from line to line, but no outline depends on them.
  induction lines generalizing given with
  | nil => rfl
  | cons line rest ih =>
    have houtline := parser.outline_readLine? (valueOf environment given) line
    rw [loadLines]
    cases hread : readLine? parser.read (valueOf environment given) line with
    | silent =>
      rw [hread] at houtline
      rw [parser.counting_cons (houtline ▸ nofun), List.forall_mem_cons] at h
      exact ih h.2 given
    | definition name value =>
      rw [hread] at houtline
      rw [parser.counting_cons (houtline ▸ nofun), List.forall_mem_cons] at h
      dsimp only
      rw [setIfAbsent_of_isSet (h.1 name houtline.symm), Option.bind_some]
      exact ih h.2 _
    | malformed => rfl

/-- Files that define no more than what has a text leave the environment as it is. -/
theorem loadFiles_of_isSet {content : String → Option Text.Bytes}
    (h : ∀ line ∈ parser.allLines content, ∀ name, parser.outlineOf line = .defines name →
      environment.get? name ≠ none) :
    environment.loadFiles parser.read content = some environment := by
  have hfile : ∀ name ∈ fileNames,
      environment.loadFile parser.read (content name) = some environment := by
    intro name hname
    have hlines : ∀ line ∈ parser.counting ((content name).elim [] linesOf),
        line ∈ parser.allLines content :=
      fun line hline => List.mem_flatMap.2 ⟨name, hname, hline⟩
    cases hcontent : content name with
    | none => rfl
    | some text =>
      rw [hcontent] at hlines
      exact loadLines_of_isSet (fun line hline => h line (hlines line hline)) []
  change (environment.loadFile parser.read (content ".env")).bind (fun environment =>
    (environment.loadFile parser.read (content ".env-creds")).bind some) = some environment
  rw [hfile _ (by decide), Option.bind_some, hfile _ (by decide), Option.bind_some]

/-! ## All files -/

/-- What loading the environment files makes of an environment. A variable that is set to what is no
text is one that the files may set. -/
structure Loads (parser : LineParser) (initial : Environment)
    (content : String → Option Text.Bytes) (final : Environment) : Prop where
  /-- A variable that has a text stays as it is. -/
  kept : ∀ name value, initial.get? name = some value → final.lookup name = some (.text value)
  /-- Any other variable has the text that the first line gives which defines it. References in this
  line stand for what is known from the lines before it. -/
  first_iff : ∀ name value, initial.get? name = none → (final.get? name = some value ↔
    ∃ before line after, parser.allLines content = before ++ line :: after ∧
      (∀ other ∈ before, parser.outlineOf other ≠ .defines name) ∧
      readLine? parser.read (values initial (definitions parser initial before)) line =
        .definition name value)
  /-- A variable that no line defines stays as it is, set or not. -/
  unchanged : ∀ name, (∀ line ∈ parser.allLines content, parser.outlineOf line ≠ .defines name) →
    final.lookup name = initial.lookup name
  /-- Loading the files once more changes nothing. -/
  again : final.loadFiles parser.read content = some final

end

end MetricGateway.Environment
