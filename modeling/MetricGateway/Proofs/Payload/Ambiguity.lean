import MetricGateway.Proofs.Payload.Range
import MetricGateway.Proofs.Text.Members
import MetricGateway.Proofs.Text.Order

/-!
# The labels that tell series apart

When several series answer a query, the labels that are reported are those for which two of them
have different texts (`mem_differentiatingLabels_iff`). Which these are depends on the series alone,
and not on their order or on how often each of them is listed (`differentiatingLabels_congr`), and
two series with the same labels differ in a reported one unless they agree in all of them.
`ambiguity` says this of the payload.
-/

namespace MetricGateway

open Success

/-- The text that the value of a label stands for: a text stands for itself, and any other value for
its JSON text. -/
inductive Json.IsTextOf : Json → String → Prop where
  | text (s : String) : IsTextOf (.string s) s
  | other {value : Json} (h : ∀ s, value ≠ .string s) : IsTextOf value value.print

/-- A value has the text that is shown for it. -/
theorem Json.isTextOf_iff {value : Json} {text : String} :
    value.IsTextOf text ↔ value.plainText = text := by
  constructor
  · rintro (_ | ⟨h⟩)
    · rfl
    · cases value <;> first | rfl | exact absurd rfl (h _)
  · rintro rfl
    cases value <;> first | exact .text _ | exact .other nofun

namespace Series

/-- A series has a text for a label. -/
def HasText (series : Series) (label text : String) : Prop :=
  ∃ value, series.labels.lookup label = some value ∧ value.IsTextOf text

/-- The labels that a series has. -/
def labelKeys (series : Series) : List String := series.labels.map Prod.fst

/-- Two series have different texts for a label. -/
def DifferIn (label : String) (first second : Series) : Prop :=
  ∃ text other, first.HasText label text ∧ second.HasText label other ∧ text ≠ other

/-- A series has the text of its label, if it has the label. -/
theorem hasText_iff {series : Series} {label text : String} :
    series.HasText label text ↔ series.labelText? label = some text := by
  unfold HasText labelText?
  simp only [Json.isTextOf_iff, Option.map_eq_some_iff]

/-- A series has a text for a label if and only if it has the label. -/
theorem exists_hasText_iff {series : Series} {label : String} :
    (∃ text, series.HasText label text) ↔ label ∈ series.labelKeys := by
  have hlookup : series.labels.lookup label = none ↔ label ∉ series.labelKeys := by
    unfold labelKeys
    rw [List.lookup_eq_none_iff]
    simp only [bne_iff_ne, List.mem_map, not_exists, not_and]
    exact ⟨fun h entry hentry heq => h entry hentry heq.symm,
      fun h entry hentry heq => h entry hentry heq.symm⟩
  constructor
  · rintro ⟨text, value, hvalue, -⟩
    by_contra hkey
    rw [hlookup.2 hkey] at hvalue
    cases hvalue
  · intro hkey
    cases hvalue : series.labels.lookup label with
    | none => exact absurd hkey (hlookup.1 hvalue)
    | some value => exact ⟨value.plainText, value, hvalue, Json.isTextOf_iff.2 rfl⟩

end Series

namespace Payload

open Series (DifferIn)

/-! ## The labels of a list of series -/

/-- A set made from a list has several members if and only if two texts of the list differ. -/
theorem one_lt_length_ofList_iff {texts : List String} :
    1 < (Text.Members.ofList texts).toList.length ↔
      ∃ text ∈ texts, ∃ other ∈ texts, text ≠ other := by
  have hascending := (Text.Members.ofList texts).ascending
  have hmem (text : String) : text ∈ (Text.Members.ofList texts).toList ↔ text ∈ texts :=
    Text.Members.mem_ofList
  generalize (Text.Members.ofList texts).toList = members at hascending hmem
  simp only [← hmem]
  match members with
  | [] => simp
  | [member] => simp
  | first :: second :: rest =>
    -- The members ascend, so the first two differ.
    have hlt := (List.pairwise_cons.1 hascending).1 second List.mem_cons_self
    simp only [List.length_cons, Nat.lt_add_left_iff_pos, Nat.succ_pos, true_iff]
    exact ⟨first, List.mem_cons_self, second, by simp, String.ne_of_lt hlt⟩

variable {all others : List Series} {label : String}

/-- Some series differ in a label if and only if two of them do. -/
theorem differs_iff :
    differs all label = true ↔ ∃ first ∈ all, ∃ second ∈ all, DifferIn label first second := by
  unfold differs DifferIn
  simp only [decide_eq_true_eq, one_lt_length_ofList_iff, List.mem_filterMap, Series.hasText_iff]
  constructor
  · rintro ⟨text, ⟨first, hfirst, htext⟩, other, ⟨second, hsecond, hother⟩, hne⟩
    exact ⟨first, hfirst, second, hsecond, text, other, htext, hother, hne⟩
  · rintro ⟨first, hfirst, second, hsecond, text, other, htext, hother, hne⟩
    exact ⟨text, ⟨first, hfirst, htext⟩, other, ⟨second, hsecond, hother⟩, hne⟩

/-- The names of the labels are those of some series. -/
theorem mem_labelNames_iff : label ∈ labelNames all ↔ ∃ series ∈ all, label ∈ series.labelKeys := by
  unfold labelNames Series.labelKeys
  rw [Text.Members.mem_ofList, List.mem_flatMap]

/-- The reported labels are those in which two series differ. -/
theorem mem_differentiatingLabels_iff :
    label ∈ differentiatingLabels all ↔
      ∃ first ∈ all, ∃ second ∈ all, DifferIn label first second := by
  unfold differentiatingLabels
  rw [List.mem_filter, differs_iff, mem_labelNames_iff]
  constructor
  · exact And.right
  · rintro ⟨first, hfirst, second, hsecond, text, other, htext, hother, hne⟩
    have hkey : label ∈ first.labelKeys := Series.exists_hasText_iff.1 ⟨text, htext⟩
    exact ⟨⟨first, hfirst, hkey⟩, first, hfirst, second, hsecond, text, other, htext, hother, hne⟩

/-- Each reported label is smaller than those after it. -/
theorem ascending_differentiatingLabels (all : List Series) :
    (differentiatingLabels all).Pairwise (· < ·) :=
  (Text.Members.ofList _).ascending.filter _

/-- The reported labels depend on which series there are, and not on their order and number. -/
theorem differentiatingLabels_congr (h : ∀ series, series ∈ all ↔ series ∈ others) :
    differentiatingLabels all = differentiatingLabels others := by
  refine (ascending_differentiatingLabels all).eq_of_mem_iff
    (ascending_differentiatingLabels others) fun label => ?_
  rw [mem_differentiatingLabels_iff, mem_differentiatingLabels_iff]
  simp only [h]

/-- What it means that labels tell series apart. -/
structure TellApart (labels : List String) (all : List Series) : Prop where
  /-- They are the labels for which two series have different texts. -/
  mem_iff : ∀ label, label ∈ labels ↔
    ∃ first ∈ all, ∃ second ∈ all, DifferIn label first second
  /-- Each stands once, in the order of their bytes. -/
  ascending : labels.Pairwise fun label later => Text.utf8 label < Text.utf8 later
  /-- Two series with the same labels differ in one of them, unless they agree in all labels. -/
  separates : ∀ first ∈ all, ∀ second ∈ all,
    (∀ label, label ∈ first.labelKeys ↔ label ∈ second.labelKeys) →
    (∃ label text, ¬(first.HasText label text ↔ second.HasText label text)) →
    ∃ label ∈ labels, DifferIn label first second

/-- Two series with the same labels and different texts differ in a label. -/
theorem exists_differIn {first second : Series}
    (hkeys : ∀ label, label ∈ first.labelKeys ↔ label ∈ second.labelKeys)
    (htexts : ∃ label text, ¬(first.HasText label text ↔ second.HasText label text)) :
    ∃ label, DifferIn label first second := by
  obtain ⟨label, text, hdiffer⟩ := htexts
  have hexists : (∃ text, first.HasText label text) ↔ ∃ text, second.HasText label text := by
    rw [Series.exists_hasText_iff, Series.exists_hasText_iff, hkeys]
  rw [not_iff] at hdiffer
  refine ⟨label, ?_⟩
  -- One of the two has the text, so the other one has the label too, with another text.
  by_cases hsecond : second.HasText label text
  · have hnot : ¬first.HasText label text := hdiffer.2 hsecond
    obtain ⟨other, hother⟩ := hexists.2 ⟨text, hsecond⟩
    exact ⟨other, text, hother, hsecond, fun heq => hnot (heq ▸ hother)⟩
  · have hfirst : first.HasText label text := not_not.1 (mt hdiffer.1 hsecond)
    obtain ⟨other, hother⟩ := hexists.1 ⟨text, hfirst⟩
    exact ⟨text, other, hfirst, hother, fun heq => hsecond (heq ▸ hother)⟩

/-- The reported labels tell the series apart. -/
theorem tellApart_differentiatingLabels (all : List Series) :
    TellApart (differentiatingLabels all) all where
  mem_iff _ := mem_differentiatingLabels_iff
  ascending := (ascending_differentiatingLabels all).imp Text.utf8_lt_of_lt
  separates first hfirst second hsecond hkeys htexts := by
    obtain ⟨label, hdiffer⟩ := exists_differIn hkeys htexts
    have hmem := mem_differentiatingLabels_iff.2 ⟨first, hfirst, second, hsecond, hdiffer⟩
    exact ⟨label, hmem, hdiffer⟩

/-! ## Payloads -/

/-- Lists with the same items stand for lists with the same series. -/
theorem mem_iff_of_forall₂ {items items' : List Json}
    (heach : List.Forall₂ Series.IsWritten items all)
    (heach' : List.Forall₂ Series.IsWritten items' others)
    (h : ∀ item, item ∈ items ↔ item ∈ items') (series : Series) :
    series ∈ all ↔ series ∈ others := by
  have hread {items : List Json} {all : List Series}
      (heach : List.Forall₂ Series.IsWritten items all) : items.mapM Series.ofJson = .ok all :=
    mapM_eq_ok_iff.2 (heach.imp fun _ _ hitem => Series.ofJson_eq_ok_iff.2 hitem)
  rw [mem_of_mapM_eq_ok (hread heach), mem_of_mapM_eq_ok (hread heach')]
  simp only [h]

/-- Several series are reported by the labels that tell them apart. -/
theorem samplesOf_of_two_le (query : String) (h : 2 ≤ all.length) :
    samplesOf query all = .error (.ambiguousMetric (differentiatingLabels all)) := by
  match all, h with
  | _ :: _ :: _, _ => rfl

/-- A payload whose metric is ambiguous lists several series. The labels that are reported tell them
apart, and are the same for every payload that lists the same series, in any order and number. -/
theorem ambiguity {query : String} {payload : Json} {labels : List String}
    (h : rangeSamples query payload = .error (.ambiguousMetric labels)) :
    ∃ items all, ListsSeries payload items ∧ List.Forall₂ Series.IsWritten items all ∧
      2 ≤ items.length ∧ TellApart labels all ∧
      ∀ query' payload' items', ¬ReportsError payload' → ListsSeries payload' items' →
        2 ≤ items'.length → (∀ item, item ∈ items' ↔ item ∈ items) →
        rangeSamples query' payload' = .error (.ambiguousMetric labels) := by
  have hverdict := verdict query payload
  rw [h] at hverdict
  cases hverdict with
  | @ambiguous hreports items hlists hlength =>
  obtain ⟨hlists, hwell⟩ := hlists
  obtain ⟨all, heach⟩ := exists_forall₂_iff.2 hwell
  -- The labels are those of the series that the payload lists.
  rw [rangeSamples_of_listsSeries query hreports hlists heach,
    samplesOf_of_two_le query (heach.length_eq ▸ hlength)] at h
  obtain rfl : differentiatingLabels all = labels := by simpa using h
  refine ⟨items, all, hlists, heach, hlength, tellApart_differentiatingLabels all, ?_⟩
  intro query' payload' items' hreports' hlists' hlength' hitems
  have hwell' : ∀ item ∈ items', Series.IsWellFormed item :=
    fun item hitem => hwell item ((hitems item).1 hitem)
  obtain ⟨all', heach'⟩ := exists_forall₂_iff.2 hwell'
  rw [rangeSamples_of_listsSeries query' hreports' hlists' heach',
    samplesOf_of_two_le query' (heach'.length_eq ▸ hlength'),
    differentiatingLabels_congr (mem_iff_of_forall₂ heach' heach hitems)]

/-- A series without samples. -/
def bareSeries (labels : List (String × Json)) : Json := .object [("metric", .object labels)]

/-- A payload that lists items as series. -/
def listing (items : List Json) : Json :=
  .object [("data", .object [("result", .array items)])]

/-- The series of two jobs, of which only one has an instance, and this instance is a number. -/
def jobItems : List Json :=
  [bareSeries [("instance", .number (.integer 1)), ("job", .string "api")],
    bareSeries [("__name__", .string "up"), ("job", .string "db")]]

/-- Two jobs differ in their names only, and still do when they are listed in the other order, one
of them twice. -/
theorem ambiguity_jobItems :
    rangeSamples "up" (listing jobItems) = .error (.ambiguousMetric ["job"]) ∧
      rangeSamples "up" (listing (jobItems.reverse ++ jobItems.take 1)) =
        .error (.ambiguousMetric ["job"]) := by
  have hjob : rangeSamples "up" (listing jobItems) = .error (.ambiguousMetric ["job"]) := by
    decide +kernel
  obtain ⟨items, all, hlists, -, -, -, hsame⟩ := ambiguity hjob
  have hitems : items = jobItems := hlists.unique ⟨_, _, rfl, rfl, rfl⟩
  subst hitems
  have hreports : ¬ReportsError (listing (jobItems.reverse ++ jobItems.take 1)) := by
    rw [← isError_iff]
    decide
  refine ⟨hjob, hsame _ _ _ hreports ⟨_, _, rfl, rfl, rfl⟩ (by decide) fun item => ?_⟩
  rw [List.mem_append, List.mem_reverse]
  exact ⟨fun hitem => hitem.elim id List.mem_of_mem_take, .inl⟩

end Payload

end MetricGateway
