import MetricGateway.Proofs.Condition

/-!
# The pattern of a set tells which set it is

The members of a set stand in groups with bars between them, and marks in a member are escaped
while backslashes are not. So one closing parenthesis can look like another: the member `a\\` and
the member `a)` both go on with two backslashes and a closing parenthesis. What tells them apart is
the character behind it. Behind the end of a group there is a bar or nothing, and behind an escaped
mark there never is: inside a group, no bar stands without its backslashes (`Ends`, `cut_group`). So
the groups of a pattern are found again one by one (`followingGroups_injective`), and two lists of
texts have the same literal if and only if they hold the same texts (`literal_ofTexts_eq_iff`).
-/

namespace MetricGateway.Condition.Value

/-! ## Escaped characters -/

/-- A character as it stands in the group of a member. -/
def escapedChar (c : Char) : List Char := if isPatternMark c then ['\\', '\\', c] else [c]

/-- The characters of a member as they stand in its group. -/
def escapedText (text : List Char) : List Char := text.flatMap escapedChar

/-- A member is escaped character by character. -/
theorem toList_escapeToken (member : String) :
    (escapeToken member).toList = escapedText member.toList :=
  String.toList_ofList

/-- A mark has two backslashes in front of it. -/
theorem escapedText_cons_of_mark {c : Char} (h : isPatternMark c = true) (text : List Char) :
    escapedText (c :: text) = '\\' :: '\\' :: c :: escapedText text := by
  unfold escapedText escapedChar
  rw [List.flatMap_cons, if_pos h]
  rfl

/-- Any other character stands as it is. -/
theorem escapedText_cons_of_not_mark {c : Char} (h : isPatternMark c = false) (text : List Char) :
    escapedText (c :: text) = c :: escapedText text := by
  unfold escapedText escapedChar
  rw [List.flatMap_cons, if_neg (by rw [h]; decide)]
  rfl

/-- What follows the closing parenthesis of a group: a bar, or nothing. -/
def Ends (rest : List Char) : Prop := ∀ c ∈ rest.head?, c = '|'

/-- A group may end where the text does. -/
theorem ends_nil : Ends [] := nofun

/-- A group may end before a bar. -/
theorem ends_bar (rest : List Char) : Ends ('|' :: rest) := by
  intro c hc
  exact (Option.some.inj hc).symm

/-- Inside a group and at its end, a mark other than the closing parenthesis is never next. -/
theorem eq_of_head_mark {text rest tail : List Char} {c : Char} (hmark : isPatternMark c = true)
    (h : escapedText text ++ ')' :: rest = c :: tail) : text = [] ∧ c = ')' ∧ rest = tail := by
  cases text with
  | nil =>
    obtain ⟨rfl, rfl⟩ := List.cons.inj h
    exact ⟨rfl, rfl, rfl⟩
  | cons d text =>
    cases hd : isPatternMark d with
    | true =>
      -- A mark of the text comes behind its backslashes, and a backslash is no mark.
      rw [escapedText_cons_of_mark hd] at h
      obtain ⟨rfl, -⟩ := List.cons.inj h
      exact absurd hmark (by decide)
    | false =>
      rw [escapedText_cons_of_not_mark hd] at h
      obtain ⟨rfl, -⟩ := List.cons.inj h
      exact absurd (hd.symm.trans hmark) Bool.false_ne_true

/-- Inside a group and at its end, a backslash that is next stands for itself or belongs to a
mark. -/
theorem head_backslash {text rest tail : List Char}
    (h : escapedText text ++ ')' :: rest = '\\' :: tail) :
    (∃ more, text = '\\' :: more ∧ escapedText more ++ ')' :: rest = tail) ∨
      ∃ c more, isPatternMark c = true ∧ text = c :: more ∧
        '\\' :: c :: (escapedText more ++ ')' :: rest) = tail := by
  cases text with
  | nil => cases h
  | cons d text =>
    cases hd : isPatternMark d with
    | true =>
      rw [escapedText_cons_of_mark hd] at h
      exact .inr ⟨d, text, hd, rfl, (List.cons.inj h).2⟩
    | false =>
      rw [escapedText_cons_of_not_mark hd] at h
      obtain ⟨rfl, htail⟩ := List.cons.inj h
      exact .inl ⟨text, rfl, htail⟩

/-- An escaped mark is not taken for two backslashes and something else, not even for the end of a
group: what follows would have to begin with a bar. -/
theorem not_backslashes_mark {text rest text' rest' : List Char} {c : Char}
    (hmark : isPatternMark c = true) (hends : Ends rest') :
    escapedText text' ++ ')' :: rest' ≠ '\\' :: c :: (escapedText text ++ ')' :: rest) := by
  intro h
  rcases head_backslash h with ⟨more, -, hmore⟩ | ⟨d, more, hd, -, hmore⟩
  · -- The mark could only be the closing parenthesis, with a bar behind it.
    obtain ⟨-, -, hrest⟩ := eq_of_head_mark hmark hmore
    rw [hrest] at hends
    cases text with
    | nil => exact absurd (hends ')' rfl) (by decide)
    | cons d text =>
      cases hd : isPatternMark d with
      | true =>
        rw [escapedText_cons_of_mark hd] at hends
        exact absurd (hends '\\' rfl) (by decide)
      | false =>
        rw [escapedText_cons_of_not_mark hd] at hends
        obtain rfl := hends d rfl
        exact absurd hd (by decide)
  · obtain ⟨rfl, -⟩ := List.cons.inj hmore
    exact absurd hmark (by decide)

/-- The end of a group is found again: of two texts in groups with the same characters, each is the
other. The induction is on the first text, and the cases are whether the next characters are
marks. -/
theorem cut_group {text text' rest rest' : List Char} (hends : Ends rest) (hends' : Ends rest')
    (h : escapedText text ++ ')' :: rest = escapedText text' ++ ')' :: rest') :
    text = text' ∧ rest = rest' := by
  have hparenthesis : isPatternMark ')' = true := by decide
  induction text generalizing text' with
  | nil =>
    obtain ⟨htext', -, hrest⟩ := eq_of_head_mark hparenthesis h.symm
    exact ⟨htext'.symm, hrest.symm⟩
  | cons c text ih =>
    cases text' with
    | nil =>
      obtain ⟨htext, -, -⟩ := eq_of_head_mark hparenthesis h
      cases htext
    | cons d text' =>
      cases hc : isPatternMark c <;> cases hd : isPatternMark d
      · rw [escapedText_cons_of_not_mark hc, escapedText_cons_of_not_mark hd] at h
        obtain ⟨rfl, htail⟩ := List.cons.inj h
        obtain ⟨rfl, hrest⟩ := ih htail
        exact ⟨rfl, hrest⟩
      · -- If one text goes on with a mark, two backslashes precede it, never a single one.
        rw [escapedText_cons_of_not_mark hc, escapedText_cons_of_mark hd] at h
        exact absurd (List.cons.inj h).2 (not_backslashes_mark hd hends)
      · rw [escapedText_cons_of_mark hc, escapedText_cons_of_not_mark hd] at h
        exact absurd (List.cons.inj h).2.symm (not_backslashes_mark hc hends')
      · rw [escapedText_cons_of_mark hc, escapedText_cons_of_mark hd] at h
        obtain ⟨rfl, htail⟩ := List.cons.inj (List.cons.inj (List.cons.inj h).2).2
        obtain ⟨rfl, hrest⟩ := ih htail
        exact ⟨rfl, hrest⟩

/-! ## Groups -/

/-- The groups behind a group, each with a bar in front of it. -/
def followingGroups (members : List String) : List Char :=
  members.flatMap fun member => '|' :: '(' :: (escapedText member.toList ++ [')'])

/-- The first group stands behind a bar, and the others follow it. -/
theorem followingGroups_cons (first : String) (rest : List String) :
    followingGroups (first :: rest) =
      '|' :: '(' :: (escapedText first.toList ++ ')' :: followingGroups rest) := by
  unfold followingGroups
  rw [List.flatMap_cons]
  simp

/-- What follows a group begins with a bar, or is nothing. -/
theorem ends_followingGroups (members : List String) : Ends (followingGroups members) := by
  cases members with
  | nil => exact ends_nil
  | cons first rest =>
    rw [followingGroups_cons]
    exact ends_bar _

/-- Groups are found again one by one. -/
theorem followingGroups_injective {members members' : List String}
    (h : followingGroups members = followingGroups members') : members = members' := by
  induction members generalizing members' with
  | nil =>
    cases members' with
    | nil => rfl
    | cons first' rest' =>
      rw [followingGroups_cons] at h
      cases h
  | cons first rest ih =>
    cases members' with
    | nil =>
      rw [followingGroups_cons] at h
      cases h
    | cons first' rest' =>
      rw [followingGroups_cons, followingGroups_cons] at h
      obtain ⟨hfirst, hrest⟩ := cut_group (ends_followingGroups rest) (ends_followingGroups rest')
        (List.cons.inj (List.cons.inj h).2).2
      rw [String.toList_inj.1 hfirst, ih hrest]

/-- The characters of groups that are joined by bars. -/
theorem toList_intercalate_groups (first : String) (rest : List String) :
    ("|".intercalate ((first :: rest).map fun member => "(" ++ escapeToken member ++ ")")).toList =
      '(' :: (escapedText first.toList ++ ')' :: followingGroups rest) := by
  induction rest generalizing first with
  | nil => simp [toList_escapeToken, followingGroups]
  | cons second rest ih =>
    have hsecond := ih second
    rw [List.map_cons] at hsecond
    rw [List.map_cons, List.map_cons, String.intercalate_cons_cons, String.toList_append,
      String.toList_append, hsecond, followingGroups_cons]
    simp [toList_escapeToken]

/-- With a bar in front of it, a pattern that is not empty consists of groups that follow one
another. An empty pattern has no group, not even an empty one. -/
theorem followingGroups_eq (members : Text.Members) :
    followingGroups members.toList =
      if members.toList = [] then [] else '|' :: (alternatives members).toList := by
  unfold alternatives
  cases members.toList with
  | nil => rfl
  | cons first rest =>
    rw [if_neg (List.cons_ne_nil _ _), toList_intercalate_groups, followingGroups_cons]

/-- A pattern is empty only if it is that of no member. -/
theorem alternatives_eq_empty_iff (members : Text.Members) :
    alternatives members = "" ↔ members.toList = [] := by
  unfold alternatives
  cases members.toList with
  | nil => exact ⟨fun _ => rfl, fun _ => rfl⟩
  | cons first rest =>
    rw [← String.toList_inj, toList_intercalate_groups]
    exact ⟨nofun, nofun⟩

/-- The pattern of a set determines the set. -/
theorem alternatives_injective {members members' : Text.Members}
    (h : alternatives members = alternatives members') : members = members' := by
  have hempty : members.toList = [] ↔ members'.toList = [] := by
    rw [← alternatives_eq_empty_iff, ← alternatives_eq_empty_iff, h]
  have hgroups : followingGroups members.toList = followingGroups members'.toList := by
    rw [followingGroups_eq, followingGroups_eq, h]
    simp only [hempty]
  refine Text.Members.ext fun text => ?_
  rw [followingGroups_injective hgroups]

/-- Two lists of texts have the same literal if and only if they hold the same texts: neither order
nor repetitions matter, and no two sets are mixed up, whatever characters their members hold. -/
theorem literal_ofTexts_eq_iff (texts others : List String) :
    (ofTexts texts).literal = (ofTexts others).literal ↔ ∀ text, text ∈ texts ↔ text ∈ others := by
  rw [← Text.Members.ofList_eq_ofList_iff]
  constructor
  · intro h
    change "~" ++ quote (alternatives (Text.Members.ofList texts)) =
      "~" ++ quote (alternatives (Text.Members.ofList others)) at h
    rw [String.append_right_inj, quote_inj] at h
    exact alternatives_injective h
  · intro h
    unfold ofTexts
    rw [h]

end MetricGateway.Condition.Value
