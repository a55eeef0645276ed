import Mathlib.Computability.RegularExpressions
import MetricGateway.Proofs.PromQL.Alternatives

/-!
# What the pattern of a set matches

A label is compared with a set through a quoted pattern. Reading it takes two rounds: in a quoted
text two backslashes stand for one (`unquote`), and in a pattern a backslash makes the character
behind it stand for itself (`read`). Both readers know only what they need: a text that uses
anything else, such as repetitions, classes, anchors or other escapes, is not read at all.

The pattern of a set is a group for each member. The marks of a member are escaped once, and the
backslashes in front of them are doubled (`toList_alternatives`), so reading the text of a member in
a group gives back its characters one by one (`readFrom_group`). Hence the pattern matches the
members and nothing else (`matches_iff_mem`), as long as they hold none of the marks that are not
escaped.
-/

namespace MetricGateway.PromQL.Pattern

open RegularExpression (char)

/-! ## Reading a pattern -/

/-- The characters that stand for something else than themselves in a pattern. -/
def isMark (c : Char) : Bool :=
  c ∈ ['\\', '.', '*', '+', '?', '(', ')', '|', '[', ']', '\x7b', '\x7d', '^', '$']

/-- Whether a backslash makes a character stand for itself: behind it, letters and digits have
meanings of their own. -/
def isEscapable (c : Char) : Bool := c.toNat < 128 && !c.isAlphanum

/-- What has been read of a group, or of the whole pattern. -/
structure Level where
  /-- The alternatives in front of the last bar; none of them matches anything at first. -/
  closed : RegularExpression Char := 0
  /-- What stands behind the last bar. -/
  current : RegularExpression Char := 1

namespace Level

/-- The alternatives of a level. -/
def whole (level : Level) : RegularExpression Char := level.closed + level.current

/-- A level with one more item behind the last bar. -/
def add (level : Level) (item : RegularExpression Char) : Level :=
  { level with current := level.current * item }

/-- A level with one more bar. -/
def bar (level : Level) : Level := { closed := level.whole }

end Level

/-- Reads a pattern whose open groups have the given levels, the innermost one first. -/
def readFrom : Level → List Level → List Char → Option (RegularExpression Char)
  | level, [], [] => some level.whole
  | _, _ :: _, [] => none
  | level, around, '(' :: rest => readFrom {} (level :: around) rest
  | _, [], ')' :: _ => none
  | level, outer :: around, ')' :: rest => readFrom (outer.add level.whole) around rest
  | level, around, '|' :: rest => readFrom level.bar around rest
  | level, around, '\\' :: c :: rest =>
    if isEscapable c then readFrom (level.add (char c)) around rest else none
  | level, around, c :: rest =>
    if isMark c then none else readFrom (level.add (char c)) around rest

/-- Reads a pattern. -/
def read (text : List Char) : Option (RegularExpression Char) := readFrom {} [] text

/-- Reads a text up to the double quote at its end. -/
def unquote : List Char → Option (List Char)
  | ['"'] => some []
  | '\\' :: '\\' :: rest => (unquote rest).map ('\\' :: ·)
  | c :: rest =>
    if c = '"' ∨ c = '\\' ∨ c = '\n' then none else (unquote rest).map (c :: ·)
  | [] => none

/-- Reads what a label matcher says behind its equals sign, if it is a pattern. The pattern has to
match the whole of a label's text. -/
def readLiteral (literal : String) : Option (RegularExpression Char) :=
  match literal.toList with
  | '~' :: '"' :: quoted => (unquote quoted).bind read
  | _ => none

/-! ## Escaped texts -/

/-- A text with a backslash in front of its pattern marks. -/
def escaped (text : List Char) : List Char :=
  text.flatMap fun c => if Condition.Value.isPatternMark c then ['\\', c] else [c]

/-- A text is escaped character by character. -/
theorem escaped_cons (c : Char) (text : List Char) : escaped (c :: text) =
    (if Condition.Value.isPatternMark c then ['\\', c] else [c]) ++ escaped text :=
  List.flatMap_cons

/-- A text with its backslashes doubled. -/
def doubled (text : List Char) : List Char :=
  text.flatMap fun c => if c = '\\' then ['\\', '\\'] else [c]

/-- Backslashes are doubled one by one. -/
theorem doubled_cons (c : Char) (text : List Char) : doubled (c :: text) =
    (if c = '\\' then ['\\', '\\'] else [c]) ++ doubled text :=
  List.flatMap_cons

/-- Backslashes are doubled part by part. -/
theorem doubled_append (first later : List Char) :
    doubled (first ++ later) = doubled first ++ doubled later :=
  List.flatMap_append

/-- The characters that are not escaped although they have a meaning in a pattern or in a quoted
text. -/
def unescapedMarks : List Char :=
  ['\\', '"', '\n', '.', '[', ']', '\x7b', '\x7d', '^', '$']

/-- The level that reads the characters of a text one by one. -/
def Level.addText (level : Level) (text : List Char) : Level :=
  text.foldl (fun level c => level.add (char c)) level

/-- The level reads them behind what it has read before. -/
theorem matches'_current_addText (level : Level) (text : List Char) :
    (level.addText text).current.matches' = level.current.matches' * {text} := by
  have hcat (first second : List Char) :
      ({first} : Language Char) * {second} = {first ++ second} := Set.image2_singleton
  induction text generalizing level with
  | nil => exact (mul_one _).symm
  | cons c rest ih =>
    calc ((level.add (char c)).addText rest).current.matches'
        = (level.current * char c).matches' * {rest} := ih _
      _ = level.current.matches' * ({[c]} * {rest}) := by
        rw [RegularExpression.matches'_mul, RegularExpression.matches'_char, mul_assoc]
      _ = level.current.matches' * {c :: rest} := by rw [hcat, List.singleton_append]

/-- Characters leave the alternatives in front as they are. -/
@[simp] theorem closed_addText (level : Level) (text : List Char) :
    (level.addText text).closed = level.closed := by
  induction text generalizing level with
  | nil => rfl
  | cons c rest ih => exact ih _

/-- A character that is no mark stands for itself. -/
theorem readFrom_cons_of_not_isMark {c : Char} (h : isMark c = false) (level : Level)
    (around : List Level) (rest : List Char) :
    readFrom level around (c :: rest) = readFrom (level.add (char c)) around rest := by
  have hne {mark : Char} (hmark : isMark mark = true) : c ≠ mark := by
    rintro rfl
    exact absurd (h.symm.trans hmark) Bool.false_ne_true
  rw [readFrom, h]
  · rfl
  -- None of the rows for marks applies.
  · exact hne rfl
  · exact hne rfl
  · exact fun _ _ hbackslash _ => hne rfl hbackslash
  · exact fun _ => hne rfl
  · exact fun _ _ _ => hne rfl

/-- All marks are either escaped or among those that texts must not hold. -/
theorem isMark_eq_false {c : Char} (hmark : Condition.Value.isPatternMark c = false)
    (h : c ∉ unescapedMarks) : isMark c = false := by
  unfold Condition.Value.isPatternMark at hmark
  unfold unescapedMarks at h
  unfold isMark
  simp_all

/-- A backslash makes a pattern mark stand for itself. -/
theorem isEscapable_of_isPatternMark {c : Char} (h : Condition.Value.isPatternMark c = true) :
    isEscapable c = true := by
  simp only [Condition.Value.isPatternMark, Bool.or_eq_true, decide_eq_true_eq] at h
  rcases h with ((((rfl | rfl) | rfl) | rfl) | rfl) | rfl <;> rfl

/-- An escaped text is read as its characters. -/
theorem readFrom_escaped {text : List Char} (h : ∀ c ∈ text, c ∉ unescapedMarks) (level : Level)
    (around : List Level) (rest : List Char) :
    readFrom level around (escaped text ++ rest) = readFrom (level.addText text) around rest := by
  induction text generalizing level with
  | nil => rfl
  | cons c text ih =>
    obtain ⟨hc, htext⟩ := List.forall_mem_cons.1 h
    rw [escaped_cons]
    cases hmark : Condition.Value.isPatternMark c with
    | true =>
      -- A mark stands for itself behind its backslash.
      simp only [if_true, List.cons_append, List.nil_append]
      rw [readFrom, if_pos (isEscapable_of_isPatternMark hmark), ih htext]
      rfl
    | false =>
      -- What has no backslash in front of it is no mark.
      simp only [Bool.false_eq_true, if_false, List.cons_append, List.nil_append]
      rw [readFrom_cons_of_not_isMark (isMark_eq_false hmark hc), ih htext]
      rfl

/-! ## Groups -/

/-- A text as a group of its own. -/
def group (text : List Char) : List Char := '(' :: escaped text ++ [')']

/-- The pattern that reads a group. -/
def groupPattern (text : List Char) : RegularExpression Char := (Level.addText {} text).whole

/-- A group matches its text and nothing else. -/
theorem matches'_groupPattern (text : List Char) : (groupPattern text).matches' = {text} := by
  unfold groupPattern Level.whole
  rw [RegularExpression.matches'_add, matches'_current_addText, closed_addText]
  simp

/-- A group is read as an item that matches its text. -/
theorem readFrom_group {text : List Char} (h : ∀ c ∈ text, c ∉ unescapedMarks) (level : Level)
    (around : List Level) (rest : List Char) :
    readFrom level around (group text ++ rest) =
      readFrom (level.add (groupPattern text)) around rest := by
  have hgroup : group text ++ rest = '(' :: (escaped text ++ ')' :: rest) := by
    unfold group
    simp
  rw [hgroup, readFrom, readFrom_escaped h, readFrom]
  rfl

/-- The pattern of some texts: their groups, with bars between them. -/
def patternText (texts : List String) : List Char :=
  ['|'].intercalate (texts.map fun text => group text.toList)

/-- The pattern of one text is its group. -/
theorem patternText_singleton (text : String) : patternText [text] = group text.toList :=
  List.intercalate_singleton

/-- The groups of several texts are joined by bars. -/
theorem patternText_cons_cons (first second : String) (rest : List String) :
    patternText (first :: second :: rest) =
      group first.toList ++ '|' :: patternText (second :: rest) := by
  have hjoin : patternText (first :: second :: rest) =
      group first.toList ++ ['|'] ++ patternText (second :: rest) := List.intercalate_cons_cons
  rw [hjoin, List.append_assoc, List.singleton_append]

/-- A pattern of groups is read, and matches their texts besides what the alternatives in front of
it match. The induction is on the texts: a bar adds the first one to the alternatives in front. -/
theorem exists_readFrom_patternText {texts : List String} (hne : texts ≠ [])
    (h : ∀ text ∈ texts, ∀ c ∈ text.toList, c ∉ unescapedMarks)
    (closed : RegularExpression Char) :
    ∃ pattern, readFrom { closed } [] (patternText texts) = some pattern ∧
      ∀ x, x ∈ pattern.matches' ↔ x ∈ closed.matches' ∨ ∃ text ∈ texts, x = text.toList := by
  -- The induction is on the texts; `closed` matches those before.
  induction texts generalizing closed with
  | nil => exact absurd rfl hne
  | cons first rest ih =>
    obtain ⟨hfirst, hrest⟩ := List.forall_mem_cons.1 h
    have hwhole (x : List Char) :
        x ∈ (Level.add { closed } (groupPattern first.toList)).whole.matches' ↔
          x ∈ closed.matches' ∨ x = first.toList := by
      unfold Level.add Level.whole
      rw [RegularExpression.matches'_add, RegularExpression.matches'_mul, matches'_groupPattern,
        RegularExpression.matches'_epsilon, one_mul]
      exact Language.mem_add _ _ x
    cases rest with
    | nil =>
      refine ⟨(Level.add { closed } (groupPattern first.toList)).whole, ?_, fun x => ?_⟩
      · rw [patternText_singleton, ← List.append_nil (group first.toList), readFrom_group hfirst,
          readFrom]
      · rw [hwhole]
        simp
    | cons second rest =>
      obtain ⟨pattern, hread, hmatches⟩ := ih (List.cons_ne_nil _ _) hrest
        (Level.add { closed } (groupPattern first.toList)).whole
      refine ⟨pattern, ?_, fun x => ?_⟩
      · rw [patternText_cons_cons, readFrom_group hfirst, readFrom]
        exact hread
      · rw [hmatches, hwhole]
        simp only [List.exists_mem_cons_iff, or_assoc]

/-- A group holds marks and the characters of its text. -/
theorem mem_group {text : List Char} {c : Char} (h : c ∈ group text) :
    c ∈ ['\\', '(', ')', '|'] ∨ c ∈ text := by
  unfold group at h
  rcases List.mem_append.1 h with h | h
  · rcases List.mem_cons.1 h with rfl | h
    · exact .inl (by decide)
    · obtain ⟨d, hd, hc⟩ := List.mem_flatMap.1 h
      split at hc
      · rcases List.mem_cons.1 hc with rfl | hc
        · exact .inl (by decide)
        · exact .inr (List.mem_singleton.1 hc ▸ hd)
      · exact .inr (List.mem_singleton.1 hc ▸ hd)
  · rw [List.mem_singleton.1 h]
    exact .inl (by decide)

/-- So does a pattern of groups, which holds neither quotes nor ends of lines of its own. -/
theorem mem_patternText {texts : List String} {c : Char} (h : c ∈ patternText texts) :
    c ∈ ['\\', '(', ')', '|'] ∨ ∃ text ∈ texts, c ∈ text.toList := by
  induction texts with
  | nil => cases h
  | cons first rest ih =>
    have hfirst (hc : c ∈ group first.toList) :
        c ∈ ['\\', '(', ')', '|'] ∨ ∃ text ∈ first :: rest, c ∈ text.toList :=
      (mem_group hc).imp_right fun hc => ⟨first, List.mem_cons_self, hc⟩
    cases rest with
    | nil =>
      rw [patternText_singleton] at h
      exact hfirst h
    | cons second rest =>
      rw [patternText_cons_cons] at h
      rcases List.mem_append.1 h with h | h
      · exact hfirst h
      · rcases List.mem_cons.1 h with rfl | h
        · exact .inl (by decide)
        · refine (ih h).imp_right ?_
          rintro ⟨text, htext, hc⟩
          exact ⟨text, List.mem_cons_of_mem _ htext, hc⟩

/-! ## Quoted texts -/

/-- A character that needs no escape stands for itself. -/
theorem unquote_cons {c : Char} (hquote : c ≠ '"') (hbackslash : c ≠ '\\') (hline : c ≠ '\n')
    (rest : List Char) : unquote (c :: rest) = (unquote rest).map (c :: ·) := by
  rw [unquote, if_neg (by simp [hquote, hbackslash, hline])]
  · exact fun h => absurd h hquote
  · exact fun _ h => absurd h hbackslash

/-- Reading a quoted text undoes the doubling of its backslashes. -/
theorem unquote_doubled {text : List Char} (h : ∀ c ∈ text, c ≠ '"' ∧ c ≠ '\n') :
    unquote (doubled text ++ ['"']) = some text := by
  induction text with
  | nil => rfl
  | cons c text ih =>
    obtain ⟨⟨hquote, hline⟩, htext⟩ := List.forall_mem_cons.1 h
    rw [doubled_cons]
    by_cases hbackslash : c = '\\'
    · subst hbackslash
      simp only [if_true, List.cons_append, List.nil_append]
      rw [unquote, ih htext]
      rfl
    · simp only [if_neg hbackslash, List.cons_append, List.nil_append]
      rw [unquote_cons hquote hbackslash hline, ih htext]
      rfl

/-- An escaped text without backslashes of its own is that of the pattern with its backslashes
doubled. -/
theorem escapedText_eq {text : List Char} (h : '\\' ∉ text) :
    Condition.Value.escapedText text = doubled (escaped text) := by
  induction text with
  | nil => rfl
  | cons c text ih =>
    have hc : c ≠ '\\' := fun hc => h (hc ▸ List.mem_cons_self)
    have htext : '\\' ∉ text := fun htext => h (List.mem_cons_of_mem _ htext)
    rw [escaped_cons, doubled_append, ← ih htext]
    cases hmark : Condition.Value.isPatternMark c with
    | true =>
      rw [Condition.Value.escapedText_cons_of_mark hmark]
      simp [doubled, hc]
    | false =>
      rw [Condition.Value.escapedText_cons_of_not_mark hmark]
      simp [doubled, hc]

/-- So are the groups of a set. -/
theorem groups_eq {first : String} {rest : List String}
    (h : ∀ member ∈ first :: rest, '\\' ∉ member.toList) :
    '(' :: (Condition.Value.escapedText first.toList ++
        ')' :: Condition.Value.followingGroups rest) =
      doubled (patternText (first :: rest)) := by
  have hgroup (member : String) (hmember : '\\' ∉ member.toList) (more : List Char) :
      '(' :: (Condition.Value.escapedText member.toList ++ ')' :: more) =
        doubled (group member.toList) ++ more := by
    unfold group
    rw [List.cons_append, doubled_cons, doubled_append, ← escapedText_eq hmember]
    simp [doubled]
  induction rest generalizing first with
  | nil =>
    rw [hgroup first (List.forall_mem_cons.1 h).1, patternText_singleton]
    exact List.append_nil _
  | cons second rest ih =>
    obtain ⟨hfirst, hrest⟩ := List.forall_mem_cons.1 h
    rw [hgroup first hfirst, patternText_cons_cons, doubled_append, doubled_cons, ← ih hrest,
      Condition.Value.followingGroups_cons]
    rfl

/-- The pattern of a set is that of its members, in which the backslashes are doubled. -/
theorem toList_alternatives {members : Text.Members}
    (h : ∀ member ∈ members.toList, '\\' ∉ member.toList) :
    (Condition.Value.alternatives members).toList = doubled (patternText members.toList) := by
  unfold Condition.Value.alternatives
  cases hmembers : members.toList with
  | nil => rfl
  | cons first rest =>
    rw [hmembers] at h
    rw [Condition.Value.toList_intercalate_groups, groups_eq h]

/-- A label matches the pattern of a set if and only if its text is a member. -/
theorem matches_iff_mem {members : Text.Members} (hne : members.toList ≠ [])
    (h : ∀ member ∈ members.toList, ∀ c ∈ member.toList, c ∉ unescapedMarks) :
    ∃ pattern, readLiteral (Condition.Value.inSet members).literal = some pattern ∧
      ∀ text : String, text.toList ∈ pattern.matches' ↔ text ∈ members.toList := by
  obtain ⟨pattern, hread, hmatches⟩ := exists_readFrom_patternText hne h 0
  -- The literal is the pattern with its backslashes doubled, and is not cut short by a quote.
  have hbackslash : ∀ member ∈ members.toList, '\\' ∉ member.toList :=
    fun member hmember hmem => h member hmember _ hmem (by decide)
  have hliteral : (Condition.Value.inSet members).literal.toList =
      '~' :: '"' :: (doubled (patternText members.toList) ++ ['"']) := by
    rw [← toList_alternatives hbackslash]
    unfold Condition.Value.literal Condition.Value.quote
    simp
  have hquotable : ∀ c ∈ patternText members.toList, c ≠ '"' ∧ c ≠ '\n' := by
    intro c hc
    rcases mem_patternText hc with hc | ⟨member, hmember, hc⟩
    · constructor <;> rintro rfl <;> exact absurd hc (by decide)
    · have hunescaped := h member hmember c hc
      constructor <;> rintro rfl <;> exact hunescaped (by decide)
  refine ⟨pattern, ?_, fun text => ?_⟩
  · -- Unquoting gives the pattern back, and reading it gives a group for each member.
    unfold readLiteral
    rw [hliteral]
    change (unquote _).bind read = _
    rw [unquote_doubled hquotable]
    exact hread
  · rw [hmatches]
    simp [Language.notMem_zero, String.toList_inj]

/-- A set whose members are made of marks. -/
def markedSet : Text.Members := Text.Members.ofList ["(*+?)|", "", "a|b"]

/-- Its pattern matches `a|b` as a whole, and not one of the two sides of the bar. -/
theorem matches_markedSet : ∃ pattern,
    readLiteral (Condition.Value.inSet markedSet).literal = some pattern ∧
      "a|b".toList ∈ pattern.matches' ∧ "a".toList ∉ pattern.matches' := by
  have hunmarked : markedSet.toList.all (fun member =>
      member.toList.all fun c => c ∉ unescapedMarks) = true := by
    decide
  simp only [List.all_eq_true, decide_eq_true_eq] at hunmarked
  obtain ⟨pattern, hread, hmatches⟩ := matches_iff_mem (by decide) hunmarked
  refine ⟨pattern, hread, (hmatches _).2 (by decide), fun hside => ?_⟩
  exact absurd ((hmatches _).1 hside) (by decide)

end MetricGateway.PromQL.Pattern
