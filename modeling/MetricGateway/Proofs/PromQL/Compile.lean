import Mathlib.Data.List.Basic
import MetricGateway.PromQL

/-!
# What a list of conditions compiles to

The compiler looks at the conditions only through two sublists: the ones with a reserved key
(`Condition.isSelector`) and the others. `SelectsBy` names the good case, a list in which one
condition has a reserved key, by the place of that condition. Then the two sublists are the
condition itself (`filter_isSelector`) and what remains without it (`labelConditions_eq`), and
conversely a list with a single condition that selects can be split at it
(`selectsBy_labelConditions`). `compile_of_selectsBy` is the one equation for the text, which the
cases of gauge, counter and raw query read off, and `compilation` puts them together.
-/

namespace MetricGateway.PromQL

/-- Exactly one of the conditions has a reserved key. It is `selector`, and `labels` are all the
others in the order in which they are given. -/
structure SelectsBy (conditions : List Condition) (selector : Condition)
    (labels : List Condition) : Prop where
  /-- The selector stands somewhere among the others. -/
  split : ∃ before after, conditions = before ++ selector :: after ∧ labels = before ++ after
  /-- The key of the selector is reserved. -/
  reserved : selector.key ∈ Condition.reservedKeys
  /-- No other key is reserved. -/
  others : ∀ label ∈ labels, label.key ∉ Condition.reservedKeys

variable {conditions labels : List Condition} {selector : Condition} {text : String}

/-! ## The two sublists -/

/-- A condition selects if its key is reserved. -/
theorem isSelector_iff {condition : Condition} :
    condition.isSelector = true ↔ condition.key ∈ Condition.reservedKeys := by
  unfold Condition.isSelector
  rw [List.contains_iff_mem]

/-- None of the conditions without a reserved key selects. -/
theorem filter_isSelector_eq_nil (h : ∀ label ∈ labels, label.key ∉ Condition.reservedKeys) :
    labels.filter Condition.isSelector = [] := by
  rw [List.filter_eq_nil_iff]
  intro label hlabel hselects
  exact h label hlabel (isSelector_iff.1 hselects)

/-- All conditions without a reserved key are label matchers. -/
theorem labelConditions_eq_self (h : ∀ label ∈ labels, label.key ∉ Condition.reservedKeys) :
    labelConditions labels = labels := by
  unfold labelConditions
  rw [List.filter_eq_self]
  intro label hlabel
  have hselects : label.isSelector ≠ true := fun hs => h label hlabel (isSelector_iff.1 hs)
  simpa using hselects

/-- A condition with a reserved key adds nothing to the label matchers, wherever it stands. -/
theorem labelConditions_insert (h : selector.key ∈ Condition.reservedKeys)
    (before after : List Condition) :
    labelConditions (before ++ selector :: after) = labelConditions (before ++ after) := by
  unfold labelConditions
  rw [List.filter_append, List.filter_append, List.filter_cons_of_neg]
  simp [isSelector_iff.2 h]

namespace SelectsBy

/-- The selector is the only condition that selects. -/
theorem filter_isSelector (h : SelectsBy conditions selector labels) :
    conditions.filter Condition.isSelector = [selector] := by
  obtain ⟨before, after, rfl, rfl⟩ := h.split
  have hbefore : before.filter Condition.isSelector = [] :=
    filter_isSelector_eq_nil fun label hlabel => h.others label (List.mem_append_left _ hlabel)
  have hafter : after.filter Condition.isSelector = [] :=
    filter_isSelector_eq_nil fun label hlabel => h.others label (List.mem_append_right _ hlabel)
  rw [List.filter_append, List.filter_cons_of_pos (isSelector_iff.2 h.reserved), hbefore, hafter,
    List.nil_append]

/-- The others are the label matchers, none lost, none added, in the given order. -/
theorem labelConditions_eq (h : SelectsBy conditions selector labels) :
    labelConditions conditions = labels := by
  obtain ⟨before, after, rfl, rfl⟩ := h.split
  rw [labelConditions_insert h.reserved, labelConditions_eq_self h.others]

end SelectsBy

/-- A list with a single condition that selects can be split at this condition. -/
theorem selectsBy_labelConditions
    (h : conditions.filter Condition.isSelector = [selector]) :
    SelectsBy conditions selector (labelConditions conditions) := by
  obtain ⟨before, after, rfl, hbefore, hselects, hafter⟩ := List.filter_eq_cons_iff.1 h
  have hreserved : selector.key ∈ Condition.reservedKeys := isSelector_iff.1 hselects
  have hothers : ∀ label ∈ before ++ after, label.key ∉ Condition.reservedKeys := by
    intro label hlabel hkey
    rcases List.mem_append.1 hlabel with hlabel | hlabel
    · exact hbefore label hlabel (isSelector_iff.2 hkey)
    · exact List.filter_eq_nil_iff.1 hafter label hlabel (isSelector_iff.2 hkey)
  have hlabels : labelConditions (before ++ selector :: after) = before ++ after := by
    rw [labelConditions_insert hreserved, labelConditions_eq_self hothers]
  rw [hlabels]
  exact ⟨⟨before, after, rfl, rfl⟩, hreserved, hothers⟩

/-! ## The selector -/

/-- A single condition that selects is the one that is found. -/
theorem selectingCondition_of_filter
    (h : conditions.filter Condition.isSelector = [selector]) :
    selectingCondition conditions = .ok selector := by
  unfold selectingCondition
  rw [h]

/-- What is found is the only condition that selects. -/
theorem filter_of_selectingCondition (h : selectingCondition conditions = .ok selector) :
    conditions.filter Condition.isSelector = [selector] := by
  unfold selectingCondition at h
  split at h
  next condition heq =>
    rw [heq, Except.ok.inj h]
  next heq => cases h
  next heq => cases h

/-- Without a single condition that selects, a selector is required. -/
theorem selectingCondition_error {error : QueryError}
    (h : selectingCondition conditions = .error error) :
    ∃ message, error = .requiredSelector message := by
  unfold selectingCondition at h
  split at h
  next condition heq => cases h
  next heq => exact ⟨_, (Except.error.inj h).symm⟩
  next heq => exact ⟨_, (Except.error.inj h).symm⟩

/-- A condition with a reserved key is the one that is found if no other condition selects, and is
one of too many if there is another, wherever it stands. -/
theorem selectingCondition_insert (h : selector.key ∈ Condition.reservedKeys)
    (before after : List Condition) :
    selectingCondition (before ++ selector :: after) =
      if (before ++ after).filter Condition.isSelector = [] then .ok selector
      else .error (.requiredSelector
        ("Multiple values for " ++ Text.quotedList Condition.reservedKeys)) := by
  unfold selectingCondition
  rw [List.filter_append, List.filter_append, List.filter_cons_of_pos (isSelector_iff.2 h)]
  cases before.filter Condition.isSelector with
  | nil =>
    cases after.filter Condition.isSelector with
    | nil => rfl
    | cons second rest => rfl
  | cons first rest =>
    -- The list has a second element: the selector itself or the next of `rest`.
    cases rest with
    | nil => rfl
    | cons second rest => rfl

/-- Only a set has no single text. -/
theorem asText?_eq_none_iff {value : Condition.Value} :
    value.asText? = none ↔ ∃ members, value = .inSet members := by
  cases value <;> simp [Condition.Value.asText?]

/-- A value that is not a set has a single text. -/
theorem exists_asText? {value : Condition.Value} (h : ∀ members, value ≠ .inSet members) :
    ∃ text, value.asText? = some text := by
  rw [← Option.isSome_iff_exists, Option.isSome_iff_ne_none]
  intro hnone
  obtain ⟨members, hvalue⟩ := asText?_eq_none_iff.1 hnone
  exact h members hvalue

/-- A selecting condition with a single text chooses what its key says. -/
theorem selector_of_asText? (h : selectingCondition conditions = .ok selector)
    (htext : selector.value.asText? = some text) :
    PromQL.selector conditions = .ok (.ofKey selector.key text) := by
  unfold PromQL.selector
  rw [h]
  simp only [bind, Except.bind, htext]
  rfl

/-- A selecting condition with a set chooses nothing. -/
theorem selector_of_asText?_eq_none (h : selectingCondition conditions = .ok selector)
    (htext : selector.value.asText? = none) :
    PromQL.selector conditions = .error (.requiredSelector
      ("Selector " ++ selector.key ++ " requires a single value")) := by
  unfold PromQL.selector
  rw [h]
  simp only [bind, Except.bind, htext]
  rfl

/-- Without a selecting condition nothing is chosen. -/
theorem selector_of_error {error : QueryError} (h : selectingCondition conditions = .error error) :
    PromQL.selector conditions = .error error := by
  unfold PromQL.selector
  rw [h]
  rfl

/-! ## The text -/

/-- What is chosen is rendered with the label matchers. -/
theorem compile_of_selector {chosen : Selector} (h : PromQL.selector conditions = .ok chosen)
    (method : Option Method) (window : Nat) :
    compile conditions method window =
      .ok (render (labelClause (labelConditions conditions)) method window chosen) := by
  unfold compile
  rw [h]
  rfl

/-- Where nothing is chosen, there is no text. -/
theorem compile_of_selector_error {error : QueryError}
    (h : PromQL.selector conditions = .error error) (method : Option Method) (window : Nat) :
    compile conditions method window = .error error := by
  unfold compile
  rw [h]
  rfl

/-- The text of a list with one selector, whose value is `text`. -/
theorem compile_of_selectsBy (h : SelectsBy conditions selector labels)
    (htext : selector.value.asText? = some text) (method : Option Method) (window : Nat) :
    compile conditions method window =
      .ok (render (labelClause labels) method window (.ofKey selector.key text)) := by
  have hselecting := selectingCondition_of_filter h.filter_isSelector
  rw [compile_of_selector (selector_of_asText? hselecting htext), h.labelConditions_eq]

/-- Either one condition selects with a single text, or a selector is required, whatever the
method and the window are. -/
theorem selectsBy_or_error (conditions : List Condition) :
    (∃ selector text, SelectsBy conditions selector (labelConditions conditions) ∧
      selector.value.asText? = some text) ∨
    (∃ message, ∀ method window,
      compile conditions method window = .error (.requiredSelector message)) := by
  cases hselecting : selectingCondition conditions with
  | error error =>
    obtain ⟨message, rfl⟩ := selectingCondition_error hselecting
    exact .inr ⟨message, compile_of_selector_error (selector_of_error hselecting)⟩
  | ok selector =>
    cases htext : selector.value.asText? with
    | none =>
      exact .inr ⟨_, compile_of_selector_error (selector_of_asText?_eq_none hselecting htext)⟩
    | some text =>
      have hselects := selectsBy_labelConditions (filter_of_selectingCondition hselecting)
      exact .inl ⟨selector, text, hselects, htext⟩

/-- There is a text if and only if exactly one key is reserved and its value is not a set. -/
theorem exists_compile_iff (conditions : List Condition) (method : Option Method) (window : Nat) :
    (∃ text, compile conditions method window = .ok text) ↔
      ∃ selector labels, SelectsBy conditions selector labels ∧
        ∀ members, selector.value ≠ .inSet members := by
  constructor
  · rintro ⟨text, hcompile⟩
    rcases selectsBy_or_error conditions with ⟨selector, given, hselects, hgiven⟩ |
      ⟨message, herror⟩
    · refine ⟨selector, labelConditions conditions, hselects, ?_⟩
      intro members hvalue
      rw [asText?_eq_none_iff.2 ⟨members, hvalue⟩] at hgiven
      cases hgiven
    · rw [herror] at hcompile
      cases hcompile
  · rintro ⟨selector, labels, hselects, hvalue⟩
    obtain ⟨given, hgiven⟩ := exists_asText? hvalue
    exact ⟨_, compile_of_selectsBy hselects hgiven method window⟩

/-- The text, or the error, is the same wherever a condition with a reserved key stands: moving it
among the others changes neither whether it is the only one that selects nor the label matchers. -/
theorem compile_move {before after before' after' : List Condition}
    (h : before' ++ after' = before ++ after) (hkey : selector.key ∈ Condition.reservedKeys)
    (method : Option Method) (window : Nat) :
    compile (before' ++ selector :: after') method window =
      compile (before ++ selector :: after) method window := by
  have hselecting : selectingCondition (before' ++ selector :: after') =
      selectingCondition (before ++ selector :: after) := by
    rw [selectingCondition_insert hkey, selectingCondition_insert hkey, h]
  have hlabels : labelConditions (before' ++ selector :: after') =
      labelConditions (before ++ selector :: after) := by
    rw [labelConditions_insert hkey, labelConditions_insert hkey, h]
  unfold compile PromQL.selector
  rw [hselecting, hlabels]

/-! ## What the method and the window do -/

/-- A metric name followed by one matcher for each of the label conditions, in their order. -/
def selection (name : String) (labels : List Condition) : String :=
  name ++ "\x7b" ++ ", ".intercalate (labels.map Condition.matcher) ++ "\x7d"

/-- The clause of label matchers stands right behind the metric name. -/
theorem append_labelClause (name : String) (labels : List Condition) :
    name ++ labelClause labels = selection name labels := by
  unfold labelClause selection
  rw [String.append_assoc, String.append_assoc, String.append_assoc]

/-- Without a method, the increase of a counter is taken over sixty seconds. -/
theorem counterQuery_none (expression : String) (window : Nat) :
    counterQuery none expression window = "increase(" ++ expression ++ "[60s])" := by
  have hseconds : "[" ++ (Method.seconds Method.discretionSeconds ++ "])") = "[60s])" := by decide
  unfold counterQuery Method.increase
  simp only [String.append_assoc, hseconds]

/-- The text of a raw query is the query. -/
theorem compile_raw (h : SelectsBy conditions selector labels)
    (hkey : selector.key = Condition.rawQueryKey) (htext : selector.value.asText? = some text)
    (method : Option Method) (window : Nat) : compile conditions method window = .ok text := by
  have hcompile := compile_of_selectsBy h htext method window
  rw [hkey] at hcompile
  exact hcompile

/-- A gauge is its metric name with the label matchers, and the method is applied to it. -/
theorem compile_gauge (h : SelectsBy conditions selector labels)
    (hkey : selector.key = Condition.gaugeKey) (htext : selector.value.asText? = some text)
    (method : Option Method) (window : Nat) :
    compile conditions method window = .ok (gaugeQuery method (selection text labels) window) := by
  have hcompile := compile_of_selectsBy h htext method window
  rw [hkey] at hcompile
  rw [← append_labelClause]
  exact hcompile

/-- A counter is its metric name with the label matchers, and its increase is what counts. -/
theorem compile_counter (h : SelectsBy conditions selector labels)
    (hkey : selector.key = Condition.counterKey) (htext : selector.value.asText? = some text)
    (method : Option Method) (window : Nat) :
    compile conditions method window = .ok (counterQuery method (selection text labels)
      window) := by
  have hcompile := compile_of_selectsBy h htext method window
  rw [hkey] at hcompile
  rw [← append_labelClause]
  exact hcompile

/-- Only the count of events over a gauge looks back over the window. -/
theorem gaugeQuery_window {method : Option Method} (h : method ≠ some .eventCount)
    (expression : String) (window window' : Nat) :
    gaugeQuery method expression window = gaugeQuery method expression window' := by
  cases method with
  | none => rfl
  | some method =>
    cases method with
    | eventCount => exact absurd rfl h
    | _ => rfl

/-- The window makes a difference only for an aggregated counter, and for a count of events over a
gauge. -/
theorem render_window {clause : String} {method : Option Method} {window window' : Nat}
    {key given : String}
    (h : render clause method window (.ofKey key given) ≠
      render clause method window' (.ofKey key given)) :
    (key = Condition.counterKey ∧ method ≠ none) ∨
      (key = Condition.gaugeKey ∧ method = some .eventCount) := by
  unfold Selector.ofKey at h
  split at h
  next hgauge =>
    refine .inr ⟨hgauge, ?_⟩
    by_contra hmethod
    exact h (gaugeQuery_window hmethod ..)
  next =>
    split at h
    next hcounter =>
      refine .inl ⟨hcounter, ?_⟩
      rintro rfl
      exact h rfl
    next => exact absurd rfl h

/-- What the compiler does with a list of conditions, a method and a window. -/
structure Compilation (conditions : List Condition) (method : Option Method) (window : Nat) :
    Prop where
  /-- There is a text if and only if exactly one condition has a reserved key and its value is not
  a set. -/
  succeeds_iff : (∃ text, compile conditions method window = .ok text) ↔
    ∃ selector labels, SelectsBy conditions selector labels ∧
      ∀ members, selector.value ≠ .inSet members
  /-- Otherwise a selector is required. -/
  fails : ∀ error, compile conditions method window = .error error →
    ∃ message, error = .requiredSelector message
  /-- The selector can be moved to any other place among the conditions. -/
  anywhere : ∀ selector before after before' after',
    conditions = before ++ selector :: after → selector.key ∈ Condition.reservedKeys →
    before' ++ after' = before ++ after →
    compile (before' ++ selector :: after') method window = compile conditions method window
  /-- A raw query is the text, whatever the label conditions, the method and the window are. -/
  raw : ∀ selector labels query, SelectsBy conditions selector labels →
    selector.key = Condition.rawQueryKey → selector.value.asText? = some query →
    compile conditions method window = .ok query
  /-- A gauge is read as its metric name with the matchers of all the other conditions, and the
  method is applied to it. -/
  gauge : ∀ selector labels name, SelectsBy conditions selector labels →
    selector.key = Condition.gaugeKey → selector.value.asText? = some name →
    compile conditions method window = .ok (
      match method with
      | none => selection name labels
      | some method => method.wrapGauge (selection name labels) window)
  /-- So is a counter; without a method its increase over sixty seconds is taken. -/
  counter : ∀ selector labels name, SelectsBy conditions selector labels →
    selector.key = Condition.counterKey → selector.value.asText? = some name →
    compile conditions method window = .ok (
      match method with
      | none => "increase(" ++ selection name labels ++ "[60s])"
      | some method => method.wrapCounter (selection name labels) window)
  /-- Another window gives another text only for an aggregated counter and for a count of events
  over a gauge. -/
  window : ∀ window', compile conditions method window' ≠ compile conditions method window →
    ∃ selector labels, SelectsBy conditions selector labels ∧
      ((selector.key = Condition.counterKey ∧ method ≠ none) ∨
        (selector.key = Condition.gaugeKey ∧ method = some .eventCount))

/-- Every list of conditions compiles as `Compilation` says. -/
theorem compilation (conditions : List Condition) (method : Option Method) (window : Nat) :
    Compilation conditions method window where
  succeeds_iff := exists_compile_iff conditions method window
  fails error hcompile := by
    rcases selectsBy_or_error conditions with ⟨selector, text, hselects, htext⟩ | ⟨message, herror⟩
    · rw [compile_of_selectsBy hselects htext] at hcompile
      cases hcompile
    · rw [herror] at hcompile
      exact ⟨message, (Except.error.inj hcompile).symm⟩
  anywhere selector before after before' after' hconditions hkey h := by
    rw [hconditions]
    exact compile_move h hkey method window
  raw selector labels query hselects hkey hquery := compile_raw hselects hkey hquery method window
  gauge selector labels name hselects hkey hname := by
    rw [compile_gauge hselects hkey hname]
    cases method with
    | none => rfl
    | some method => rfl
  counter selector labels name hselects hkey hname := by
    rw [compile_counter hselects hkey hname]
    cases method with
    | none => rw [counterQuery_none]
    | some method => rfl
  window window' hne := by
    rcases selectsBy_or_error conditions with ⟨selector, text, hselects, htext⟩ | ⟨message, herror⟩
    · refine ⟨selector, labelConditions conditions, hselects, ?_⟩
      rw [compile_of_selectsBy hselects htext, compile_of_selectsBy hselects htext] at hne
      exact render_window fun heq => hne (congrArg Except.ok heq)
    · -- Without a selector, both compilations fail alike.
      exact absurd (by rw [herror, herror]) hne

example :
    compile
        [{ key := "job", value := .text "api" }, { key := Condition.gaugeKey, value := .text "up" }]
      (some .mean) 30 = .ok "avg(up\x7bjob=\"api\"\x7d)" := rfl

end MetricGateway.PromQL
