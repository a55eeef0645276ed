import MetricGateway.Proofs.PromQL.Compile

/-!
# Which values stay inside their matcher

A text that a label is compared with is put between double quotes as it is. So the quotes and
commas of a value and those of the label clause are not told apart, and a value such as
`api", env="prod` passes for two matchers (`compile_not_injective`).

`EndsMatcher` says which values do so: with the closing quote behind it, the value holds a double
quote, a comma, a blank, a label name, an equals sign and a double quote in a row. These are
exactly the values that can be read as a shorter value with something behind it
(`endsMatcher_of_following`, `exists_shorter`). Without them the text of a gauge determines its
matchers (`following_injective`), and `confinement` puts both together. The proofs work on the
characters that follow a value, the closing quote first.
-/

namespace MetricGateway.PromQL

/-! ## Texts as matchers -/

/-- Whether a text is the name of a label: a letter or an underscore followed by letters, digits
and underscores. -/
def isLabelName (key : String) : Bool :=
  match key.toList with
  | [] => false
  | first :: rest => (first.isAlpha || first == '_') && rest.all fun c => c.isAlphanum || c == '_'

/-- The condition that a label has a given text. -/
def textMatcher (key text : String) : Condition := { key, value := .text text }

/-- A condition that compares a label with a text. -/
structure IsTextMatcher (condition : Condition) : Prop where
  /-- The key is the name of a label. -/
  label : isLabelName condition.key = true
  /-- The key is not reserved. -/
  free : condition.key ∉ Condition.reservedKeys
  /-- The value is a text. -/
  text : ∃ text, condition.value = .text text

/-- The condition that a label has a text compares with a text. -/
theorem isTextMatcher_textMatcher {key : String} (hkey : isLabelName key = true)
    (hfree : key ∉ Condition.reservedKeys) (text : String) : IsTextMatcher (textMatcher key text) :=
  ⟨hkey, hfree, text, rfl⟩

/-- A text that, with its closing quote, ends a matcher and starts another one. -/
def EndsMatcher (text : String) : Prop :=
  ∃ before key after, isLabelName key = true ∧ key ∉ Condition.reservedKeys ∧
    text ++ "\"" = before ++ "\", " ++ key ++ "=\"" ++ after

/-- The label and the value of a condition. -/
def labelAndValue (condition : Condition) : String × Condition.Value :=
  (condition.key, condition.value)

/-! ## Characters -/

section Characters

variable {α : Type} {c : α} {xs ys zs zs' : List α}

/-- If one list goes on with `c` after `xs`, and another starts with `ys`, which does not hold `c`,
then they can only be equal if `xs` starts with `ys`. -/
theorem exists_append_of_notMem (hc : c ∉ ys) (h : xs ++ c :: zs = ys ++ zs') :
    ∃ between, xs = ys ++ between ∧ zs' = between ++ c :: zs := by
  rcases List.append_eq_append_iff.1 h with ⟨between, hys, hzs⟩ | ⟨between, hxs, hzs⟩
  · cases between with
    | nil =>
      rw [List.append_nil] at hys
      exact ⟨[], by rw [hys, List.append_nil], hzs.symm⟩
    | cons d between =>
      obtain ⟨rfl, -⟩ := List.cons.inj hzs
      exact absurd (by simp [hys]) hc
  · exact ⟨between, hxs, hzs⟩

/-- The first `c` cuts a list in one way. -/
theorem cut_injective (hxs : c ∉ xs) (hys : c ∉ ys) (h : xs ++ c :: zs = ys ++ c :: zs') :
    xs = ys ∧ zs = zs' := by
  obtain ⟨between, rfl, hzs⟩ := exists_append_of_notMem hys h
  cases between with
  | nil => exact ⟨List.append_nil _, (List.cons.inj hzs).2.symm⟩
  | cons d between =>
    obtain ⟨rfl, -⟩ := List.cons.inj hzs
    exact absurd (by simp) hxs

/-- If two lists that go on with `c` are equal, then the longer one goes on with `c` where the
shorter one ends. -/
theorem exists_of_length_lt (hlt : ys.length < xs.length) (h : xs ++ c :: zs = ys ++ c :: zs') :
    ∃ more, xs = ys ++ c :: more ∧ zs' = more ++ c :: zs := by
  rcases List.append_eq_append_iff.1 h with ⟨more, rfl, -⟩ | ⟨more, rfl, hzs⟩
  · rw [List.length_append] at hlt
    omega
  · cases more with
    | nil =>
      rw [List.append_nil] at hlt
      omega
    | cons d more =>
      obtain ⟨rfl, htail⟩ := List.cons.inj hzs
      exact ⟨more, rfl, htail⟩

end Characters

/-- A label name holds letters, digits and underscores only. -/
theorem mem_labelName {key : String} (h : isLabelName key = true) {c : Char}
    (hc : c ∈ key.toList) : c.isAlphanum = true ∨ c = '_' := by
  unfold isLabelName at h
  cases hkey : key.toList with
  | nil =>
    rw [hkey] at hc
    exact absurd hc List.not_mem_nil
  | cons first rest =>
    rw [hkey] at h hc
    simp only [Bool.and_eq_true, Bool.or_eq_true, beq_iff_eq, List.all_eq_true] at h
    obtain ⟨hfirst, hrest⟩ := h
    rcases List.mem_cons.1 hc with rfl | hc
    · exact hfirst.imp_left fun halpha => by simp [Char.isAlphanum, halpha]
    · exact hrest c hc

/-- There is no equals sign in a label name. -/
theorem equals_notMem {key : String} (h : isLabelName key = true) : '=' ∉ key.toList := by
  intro hmem
  rcases mem_labelName h hmem with hc | hc
  · exact absurd hc (by decide)
  · exact absurd hc (by decide)

/-- There is no double quote in a label name. -/
theorem quote_notMem {key : String} (h : isLabelName key = true) : '"' ∉ key.toList := by
  intro hmem
  rcases mem_labelName h hmem with hc | hc
  · exact absurd hc (by decide)
  · exact absurd hc (by decide)

/-! ## What follows a value -/

/-- The characters of the matchers behind a matcher. -/
def following (labels : List Condition) : List Char :=
  labels.flatMap fun label => ',' :: ' ' :: label.matcher.toList

/-- The characters of a matcher for a text. -/
theorem toList_matcher {label : Condition} {text : String} (h : label.value = .text text) :
    label.matcher.toList = label.key.toList ++ '=' :: '"' :: (text.toList ++ ['"']) := by
  unfold Condition.matcher
  rw [h]
  simp [Condition.Value.literal, Condition.Value.quote]

/-- What follows a value when there is another matcher. -/
theorem following_cons {label : Condition} {text : String} (h : label.value = .text text)
    (rest : List Condition) :
    following (label :: rest) =
      ',' :: ' ' :: (label.key.toList ++ '=' :: '"' :: (text.toList ++ '"' :: following rest)) := by
  unfold following
  rw [List.flatMap_cons, toList_matcher h]
  simp

/-- The characters between the braces of a label clause. -/
theorem toList_intercalate_cons (first : Condition) (rest : List Condition) :
    (", ".intercalate ((first :: rest).map Condition.matcher)).toList =
      first.matcher.toList ++ following rest := by
  induction rest generalizing first with
  | nil => simp [following]
  | cons second rest ih =>
    rw [List.map_cons, List.map_cons, String.intercalate_cons_cons, String.toList_append,
      String.toList_append, ← List.map_cons, ih]
    simp [following]

/-- The label clauses of two lists are equal if and only if the same follows a value. -/
theorem selection_textMatcher_eq_iff {name key value value' : String}
    {rest rest' : List Condition} :
    selection name (textMatcher key value :: rest) =
        selection name (textMatcher key value' :: rest') ↔
      value.toList ++ '"' :: following rest = value'.toList ++ '"' :: following rest' := by
  unfold selection
  rw [String.append_left_inj, String.append_right_inj, ← String.toList_inj,
    toList_intercalate_cons, toList_intercalate_cons,
    toList_matcher (show (textMatcher key value).value = .text value from rfl),
    toList_matcher (show (textMatcher key value').value = .text value' from rfl)]
  simp [textMatcher]

/-- The matchers behind a matcher start with a comma and a blank. -/
theorem following_eq_cons (first : Condition) (rest : List Condition) :
    following (first :: rest) = ',' :: ' ' :: (first.matcher.toList ++ following rest) := by
  unfold following
  rw [List.flatMap_cons]
  rfl

/-- No matcher is empty. -/
theorem matcher_ne_nil {label : Condition} (h : IsTextMatcher label) :
    label.matcher.toList ≠ [] := by
  obtain ⟨text, htext⟩ := h.text
  rw [toList_matcher htext]
  simp

/-- The label clause determines what its matchers are behind another one. -/
theorem following_eq_of_selection_eq {name : String} {labels labels' : List Condition}
    (h : ∀ label ∈ labels, IsTextMatcher label) (h' : ∀ label ∈ labels', IsTextMatcher label)
    (heq : selection name labels = selection name labels') :
    following labels = following labels' := by
  unfold selection at heq
  rw [String.append_left_inj, String.append_right_inj, ← String.toList_inj] at heq
  -- A matcher is not empty, so both lists have one or neither has.
  cases labels with
  | nil =>
    cases labels' with
    | nil => rfl
    | cons first rest =>
      rw [toList_intercalate_cons] at heq
      have hempty := (List.append_eq_nil_iff.1 heq.symm).1
      exact absurd hempty (matcher_ne_nil (h' first List.mem_cons_self))
  | cons first rest =>
    cases labels' with
    | nil =>
      rw [toList_intercalate_cons] at heq
      have hempty := (List.append_eq_nil_iff.1 heq).1
      exact absurd hempty (matcher_ne_nil (h first List.mem_cons_self))
    | cons first' rest' =>
      rw [toList_intercalate_cons, toList_intercalate_cons] at heq
      rw [following_eq_cons, following_eq_cons, heq]

/-! ## Values that end their matcher -/

/-- A value that can be read as a shorter one, with something else behind it, ends its matcher. -/
theorem endsMatcher_of_following {value shorter : String} {rest rest' : List Condition}
    (hrest : ∀ label ∈ rest', IsTextMatcher label) (hlt : shorter.length < value.length)
    (h : value.toList ++ '"' :: following rest = shorter.toList ++ '"' :: following rest') :
    EndsMatcher value := by
  rw [← String.length_toList, ← String.length_toList] at hlt
  obtain ⟨more, hvalue, hmore⟩ := exists_of_length_lt hlt h
  cases rest' with
  | nil => exact absurd hmore (by simp [following])
  | cons label rest' =>
    -- `shorter` is followed by another matcher, whose first double quote is in front of its value.
    -- The closing quote of `value` is this quote or a later one.
    have hlabel := hrest label List.mem_cons_self
    obtain ⟨text, htext⟩ := hlabel.text
    have hnotMem : '"' ∉ ',' :: ' ' :: (label.key.toList ++ ['=']) := by
      simp [quote_notMem hlabel.label]
    have hcut : more ++ '"' :: following rest = ',' :: ' ' :: (label.key.toList ++ ['=']) ++
        '"' :: (text.toList ++ '"' :: following rest') := by
      rw [← hmore, following_cons htext]
      simp
    obtain ⟨between, hbetween, hafter⟩ := exists_append_of_notMem hnotMem hcut
    obtain ⟨after, hclosing⟩ : ∃ after, between ++ ['"'] = '"' :: after := by
      cases between with
      | nil => exact ⟨[], rfl⟩
      | cons c between =>
        obtain ⟨rfl, -⟩ := List.cons.inj hafter
        exact ⟨between ++ ['"'], rfl⟩
    refine ⟨shorter, label.key, String.ofList after, hlabel.label, hlabel.free, ?_⟩
    rw [← String.toList_inj]
    simp [hvalue, hbetween, hclosing]

/-- A value that ends its matcher can be read as a shorter one: up to the quote that ends the
matcher. What follows becomes the value of the next matcher, which may need a matcher behind `value`
to be closed. -/
theorem exists_shorter {value : String} (h : EndsMatcher value) :
    ∃ (shorter : String) (rest rest' : List Condition), shorter.length < value.length ∧
      (∀ label ∈ rest, IsTextMatcher label) ∧ (∀ label ∈ rest', IsTextMatcher label) ∧
      value.toList ++ '"' :: following rest = shorter.toList ++ '"' :: following rest' := by
  obtain ⟨before, key, after, hkey, hfree, heq⟩ := h
  have hmatcher (text : String) : ∀ label ∈ [textMatcher key text], IsTextMatcher label :=
    List.forall_mem_singleton.2 (isTextMatcher_textMatcher hkey hfree text)
  have hchars : value.toList ++ ['"'] = before.toList ++ '"' :: ',' :: ' ' ::
      (key.toList ++ '=' :: '"' :: after.toList) := by
    have hlist := congrArg String.toList heq
    simpa using hlist
  rcases List.eq_nil_or_concat after.toList with hafter | ⟨text, last, hafter⟩
  · -- The closing quote of `value` opens the value of the next matcher.
    have hcut : value.toList ++ ['"'] =
        (before.toList ++ '"' :: ',' :: ' ' :: (key.toList ++ ['='])) ++ ['"'] := by
      rw [hchars, hafter]
      simp
    have hvalue := List.append_cancel_right hcut
    refine ⟨before, [textMatcher key ""], [textMatcher key (", " ++ key ++ "=\"")], ?_,
      hmatcher _, hmatcher _, ?_⟩
    · rw [← String.length_toList, ← String.length_toList, hvalue]
      simp
    · rw [following_cons rfl, following_cons rfl, hvalue]
      simp [textMatcher]
  · -- The closing quote of `value` closes the value of the next matcher.
    have hcut : value.toList ++ ['"'] =
        (before.toList ++ '"' :: ',' :: ' ' :: (key.toList ++ '=' :: '"' :: text)) ++ [last] := by
      rw [hchars, hafter]
      simp
    obtain ⟨hvalue, hlast⟩ := List.append_inj' hcut rfl
    obtain ⟨rfl, -⟩ := List.cons.inj hlast
    refine ⟨before, [], [textMatcher key (String.ofList text)], ?_, by simp, hmatcher _, ?_⟩
    · rw [← String.length_toList, ← String.length_toList, hvalue]
      simp
    · rw [following_cons rfl, hvalue]
      simp [textMatcher, following]

/-- A value without a double quote does not end its matcher. -/
theorem not_endsMatcher_of_notMem {value : String} (h : '"' ∉ value.toList) :
    ¬EndsMatcher value := by
  intro hends
  obtain ⟨shorter, rest, rest', hlt, -, -, heq⟩ := exists_shorter hends
  rw [← String.length_toList, ← String.length_toList] at hlt
  obtain ⟨more, hvalue, -⟩ := exists_of_length_lt hlt heq
  exact h (by simp [hvalue])

/-- Without values that end their matcher, what follows a value determines the matchers. -/
theorem following_injective {labels labels' : List Condition}
    (h : ∀ label ∈ labels, IsTextMatcher label) (h' : ∀ label ∈ labels', IsTextMatcher label)
    (hvalues : ∀ label ∈ labels, ∀ text, label.value = .text text → ¬EndsMatcher text)
    (hvalues' : ∀ label ∈ labels', ∀ text, label.value = .text text → ¬EndsMatcher text)
    (heq : following labels = following labels') :
    labels.map labelAndValue = labels'.map labelAndValue := by
  induction labels generalizing labels' with
  | nil =>
    cases labels' with
    | nil => rfl
    | cons first' rest' =>
      rw [following_eq_cons] at heq
      cases heq
  | cons first rest ih =>
    cases labels' with
    | nil =>
      rw [following_eq_cons] at heq
      cases heq
    | cons first' rest' =>
      obtain ⟨hfirst, hrest⟩ := List.forall_mem_cons.1 h
      obtain ⟨hfirst', hrest'⟩ := List.forall_mem_cons.1 h'
      obtain ⟨text, htext⟩ := hfirst.text
      obtain ⟨text', htext'⟩ := hfirst'.text
      rw [following_cons htext, following_cons htext'] at heq
      -- The keys hold no equals sign, so the first one ends both of them.
      obtain ⟨hkey, hbehind⟩ := cut_injective (equals_notMem hfirst.label)
        (equals_notMem hfirst'.label) (List.cons.inj (List.cons.inj heq).2).2
      have hquoted := (List.cons.inj hbehind).2
      -- Of two values of different lengths, the longer one would end its matcher.
      have hlength : text.length = text'.length := by
        rcases Nat.lt_trichotomy text.length text'.length with hlt | hlength | hlt
        · exact absurd (endsMatcher_of_following hrest hlt hquoted.symm)
            (hvalues' first' List.mem_cons_self text' htext')
        · exact hlength
        · exact absurd (endsMatcher_of_following hrest' hlt hquoted)
            (hvalues first List.mem_cons_self text htext)
      rw [← String.length_toList, ← String.length_toList] at hlength
      obtain ⟨hvalue, hfollowing⟩ := List.append_inj hquoted hlength
      have hrests := ih hrest hrest' (List.forall_mem_cons.1 hvalues).2
        (List.forall_mem_cons.1 hvalues').2 (List.cons.inj hfollowing).2
      rw [List.map_cons, List.map_cons, hrests]
      unfold labelAndValue
      rw [String.toList_inj.1 hkey, htext, htext', String.toList_inj.1 hvalue]

/-! ## The text of a gauge -/

/-- A condition with a reserved key selects in front of text matchers. -/
theorem selectsBy_cons {selector : Condition} {labels : List Condition}
    (hselector : selector.key ∈ Condition.reservedKeys)
    (h : ∀ label ∈ labels, IsTextMatcher label) :
    SelectsBy (selector :: labels) selector labels :=
  ⟨⟨[], labels, rfl, rfl⟩, hselector, fun label hlabel => (h label hlabel).free⟩

/-- How far the text of a gauge, without a method, determines the label conditions. -/
structure Confinement (selector : Condition) (window : Nat) : Prop where
  /-- Conditions whose values do not end their matchers are determined by the text. -/
  injective : ∀ conditions conditions' labels labels', SelectsBy conditions selector labels →
    SelectsBy conditions' selector labels' → (∀ label ∈ labels, IsTextMatcher label) →
    (∀ label ∈ labels', IsTextMatcher label) →
    (∀ label ∈ labels, ∀ text, label.value = .text text → ¬EndsMatcher text) →
    (∀ label ∈ labels', ∀ text, label.value = .text text → ¬EndsMatcher text) →
    compile conditions none window = compile conditions' none window →
    labels.map labelAndValue = labels'.map labelAndValue
  /-- A value ends its matcher if and only if it escapes from it: with some conditions behind it,
  its matcher is read as one for a shorter value, with other conditions behind that. -/
  escapes_iff : ∀ key value, isLabelName key = true → key ∉ Condition.reservedKeys →
    (EndsMatcher value ↔ ∃ (shorter : String) (rest rest' : List Condition),
      shorter.length < value.length ∧ (∀ label ∈ rest, IsTextMatcher label) ∧
      (∀ label ∈ rest', IsTextMatcher label) ∧
      compile (selector :: textMatcher key value :: rest) none window =
        compile (selector :: textMatcher key shorter :: rest') none window)
  /-- No value without a double quote ends its matcher. -/
  quoteless : ∀ value : String, '"' ∉ value.toList → ¬EndsMatcher value

/-- The text of a gauge determines the label conditions exactly as far as `Confinement` says. -/
theorem confinement {selector : Condition} {name : String}
    (hkey : selector.key = Condition.gaugeKey) (hname : selector.value.asText? = some name)
    (window : Nat) : Confinement selector window where
  injective conditions conditions' labels labels' hselects hselects' h h' hvalues hvalues' heq := by
    rw [compile_gauge hselects hkey hname, compile_gauge hselects' hkey hname] at heq
    have hselection : selection name labels = selection name labels' := Except.ok.inj heq
    exact following_injective h h' hvalues hvalues' (following_eq_of_selection_eq h h' hselection)
  escapes_iff key value hlabel hfree := by
    have hreserved : selector.key ∈ Condition.reservedKeys := by
      rw [hkey]
      decide
    have hcompile (text : String) (rest : List Condition)
        (hrest : ∀ label ∈ rest, IsTextMatcher label) :
        compile (selector :: textMatcher key text :: rest) none window =
          .ok (selection name (textMatcher key text :: rest)) :=
      compile_gauge (selectsBy_cons hreserved (List.forall_mem_cons.2
        ⟨isTextMatcher_textMatcher hlabel hfree text, hrest⟩)) hkey hname none window
    constructor
    · intro hends
      obtain ⟨shorter, rest, rest', hlt, hrest, hrest', heq⟩ := exists_shorter hends
      refine ⟨shorter, rest, rest', hlt, hrest, hrest', ?_⟩
      rw [hcompile value rest hrest, hcompile shorter rest' hrest',
        selection_textMatcher_eq_iff.2 heq]
    · rintro ⟨shorter, rest, rest', hlt, hrest, hrest', heq⟩
      rw [hcompile value rest hrest, hcompile shorter rest' hrest'] at heq
      have hselection := Except.ok.inj heq
      exact endsMatcher_of_following hrest' hlt (selection_textMatcher_eq_iff.1 hselection)
  quoteless _ h := not_endsMatcher_of_notMem h

/-- The gauge `up`. -/
def upGauge : Condition := textMatcher Condition.gaugeKey "up"

/-- The text of the gauge `up` determines the label conditions as far as `Confinement` says. -/
theorem confinement_upGauge : upGauge.key = Condition.gaugeKey ∧
    upGauge.value.asText? = some "up" ∧ Confinement upGauge 30 :=
  ⟨rfl, rfl, confinement rfl rfl 30⟩

/-- The text of a gauge does not determine the label conditions if any texts are compared with. The
value `api", env="prod` of the label `job` passes for two matchers. -/
theorem compile_not_injective :
    ¬∀ (selector : Condition) (name : String) (labels labels' : List Condition) (window : Nat),
      selector.key = Condition.gaugeKey → selector.value.asText? = some name →
      (∀ label ∈ labels, IsTextMatcher label) → (∀ label ∈ labels', IsTextMatcher label) →
      compile (selector :: labels) none window = compile (selector :: labels') none window →
      labels.map labelAndValue = labels'.map labelAndValue := by
  intro hinjective
  have hjob := isTextMatcher_textMatcher (show isLabelName "job" = true from rfl) (by decide)
  have henv := isTextMatcher_textMatcher (show isLabelName "env" = true from rfl) (by decide)
  have hequal := hinjective upGauge "up" [textMatcher "job" "api\", env=\"prod"]
    [textMatcher "job" "api", textMatcher "env" "prod"] 30 rfl rfl
    (List.forall_mem_singleton.2 (hjob _))
    (List.forall_mem_cons.2 ⟨hjob _, List.forall_mem_singleton.2 (henv _)⟩) rfl
  exact absurd (congrArg List.length hequal) (by decide)

end MetricGateway.PromQL
