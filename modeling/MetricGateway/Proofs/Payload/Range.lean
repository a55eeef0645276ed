import MetricGateway.Payload
import MetricGateway.Proofs.Success

/-!
# What a range payload is taken for

The shapes that a payload can have are said here without the functions that read them:
`ReportsError`, `ListsSeries`, and for a series `Series.IsWritten`, which relates a JSON value to
the series that it stands for. Reading a series succeeds exactly on what is written so
(`Series.ofJson_eq_ok_iff`), and reading the items of a list succeeds exactly if it does on each of
them (`mapM_eq_ok_iff`). So every payload falls under one of five verdicts (`verdict`), of which an
earlier one always goes before a later one. `classified` reads each of the five outcomes off the
shape of the payload.
-/

namespace MetricGateway

open Success

/-- A sample as it is written: a list of a number and a text. -/
inductive Sample.IsWritten : Json → Sample → Prop where
  | pair (number : Json.Number) (text : String) :
    IsWritten (.array [.number number, .string text])
      { seconds := Series.toBinary number, value := text }

namespace Series

/-- The labels of a series as they are written: an object with any values. -/
inductive AreLabels : Json → List (String × Json) → Prop where
  | object (entries : List (String × Json)) : AreLabels (.object entries) entries

/-- The samples of a series as they are written: a list of them, one for one and in order. -/
inductive AreSamples : Json → List Sample → Prop where
  | list {items : List Json} {samples : List Sample}
    (each : List.Forall₂ Sample.IsWritten items samples) :
    AreSamples (.array items) samples

/-- A part of a series as it is written. It may be absent, and is empty then. -/
inductive IsPart {α : Type} (Holds : Json → List α → Prop) : Option Json → List α → Prop where
  | absent : IsPart Holds none []
  | present {part : Json} {values : List α} (holds : Holds part values) :
    IsPart Holds (some part) values

/-- A series as it is written: an object with its labels and samples, or a list of the two. -/
inductive IsWritten : Json → Series → Prop where
  | object {entries : List (String × Json)} {labels : List (String × Json)} {samples : List Sample}
    (hlabels : IsPart AreLabels (entries.lookup "metric") labels)
    (hsamples : IsPart AreSamples (entries.lookup "values") samples) :
    IsWritten (.object entries) { labels, samples }
  | list {items : List Json} {labels : List (String × Json)} {samples : List Sample}
    (hlabels : IsPart AreLabels items[0]? labels) (hsamples : IsPart AreSamples items[1]? samples)
    (hlength : items.length ≤ 2) : IsWritten (.array items) { labels, samples }

/-- A value that is written as a series. -/
def IsWellFormed (json : Json) : Prop := ∃ series, IsWritten json series

/-- A value is read as a sample if and only if it is written as one. -/
theorem readSample_eq_ok_iff {json : Json} {sample : Sample} :
    readSample json = .ok sample ↔ Sample.IsWritten json sample := by
  constructor
  · intro h
    unfold readSample at h
    split at h
    next items =>
      -- The list has exactly two items, and only a number and a text can be read there.
      split at h
      next => cases h
      next seconds others =>
        cases seconds <;> try cases h
        next number =>
        cases others with
        | nil => cases h
        | cons value others =>
          cases value <;> try cases h
          next text =>
          cases others with
          | nil =>
            cases h
            exact .pair number text
          | cons third others => cases h
    next => cases h
  · rintro ⟨number, text⟩
    rfl

/-- A value is read as labels if and only if it is some. -/
theorem readLabels_eq_ok_iff {json : Json} {labels : List (String × Json)} :
    readLabels json = .ok labels ↔ AreLabels json labels := by
  constructor
  · intro h
    cases json <;> cases h
    exact .object _
  · rintro ⟨entries⟩
    rfl

/-- A value is read as samples if and only if it is some. -/
theorem readSamples_eq_ok_iff {json : Json} {samples : List Sample} :
    readSamples json = .ok samples ↔ AreSamples json samples := by
  constructor
  · intro h
    cases json <;> try cases h
    next items =>
    refine .list ((mapM_eq_ok_iff.1 h).imp ?_)
    intro item sample hitem
    exact readSample_eq_ok_iff.1 hitem
  · rintro ⟨each⟩
    refine mapM_eq_ok_iff.2 (each.imp ?_)
    intro item sample hitem
    exact readSample_eq_ok_iff.2 hitem

/-- A part can be read if it is absent or what is there can be read. -/
theorem readPart_eq_ok_iff {α : Type} {read : Json → Except Json.Cause (List α)}
    {Holds : Json → List α → Prop}
    (hread : ∀ {json values}, read json = .ok values ↔ Holds json values)
    (part : Option Json) (values : List α) :
    readPart read part = .ok values ↔ IsPart Holds part values := by
  cases part with
  | none =>
    constructor
    · intro h
      cases h
      exact .absent
    · rintro ⟨⟩
      rfl
  | some json =>
    constructor
    · intro h
      exact .present (hread.1 h)
    · rintro (_ | ⟨holds⟩)
      exact hread.2 holds

/-- Reading a series succeeds exactly on what is written as one. -/
theorem ofJson_eq_ok_iff {json : Json} {series : Series} :
    ofJson json = .ok series ↔ IsWritten json series := by
  have hlabels {part labels} := readPart_eq_ok_iff @readLabels_eq_ok_iff part labels
  have hsamples {part samples} := readPart_eq_ok_iff @readSamples_eq_ok_iff part samples
  constructor
  · intro h
    cases json <;> try cases h
    next items =>
      obtain ⟨labels, hl, h⟩ := bind_eq_ok_iff.1 h
      obtain ⟨samples, hs, h⟩ := bind_eq_ok_iff.1 h
      split at h
      · next hlength =>
        cases h
        exact .list (hlabels.1 hl) (hsamples.1 hs) hlength
      · cases h
    next entries =>
      obtain ⟨labels, hl, h⟩ := bind_eq_ok_iff.1 h
      obtain ⟨samples, hs, h⟩ := bind_eq_ok_iff.1 h
      cases h
      exact .object (hlabels.1 hl) (hsamples.1 hs)
  · rintro (⟨hl, hs⟩ | ⟨hl, hs, hlength⟩)
    · exact bind_eq_ok_iff.2 ⟨_, hlabels.2 hl, bind_eq_ok_iff.2 ⟨_, hsamples.2 hs, rfl⟩⟩
    · refine bind_eq_ok_iff.2 ⟨_, hlabels.2 hl, bind_eq_ok_iff.2 ⟨_, hsamples.2 hs, ?_⟩⟩
      rw [if_pos hlength]
      rfl

/-- A value that is not written as a series cannot be read as one. -/
theorem ofJson_ne_ok {json : Json} (h : ¬IsWellFormed json) (series : Series) :
    ofJson json ≠ .ok series := by
  intro hread
  exact h ⟨series, ofJson_eq_ok_iff.1 hread⟩

end Series

namespace Payload

variable {query : String} {payload : Json} {items : List Json}

/-- A payload reports an error: it is an object whose status is the text `error`, whatever else it
holds. -/
def ReportsError (payload : Json) : Prop :=
  ∃ entries, payload = .object entries ∧ entries.lookup "status" = some (.string "error")

/-- A payload lists items as series: it is an object whose data is an object whose result is the
list of them. -/
def ListsSeries (payload : Json) (items : List Json) : Prop :=
  ∃ entries data, payload = .object entries ∧ entries.lookup "data" = some (.object data) ∧
    data.lookup "result" = some (.array items)

/-- A payload lists well-formed series only. -/
def ListsWellFormed (payload : Json) (items : List Json) : Prop :=
  ListsSeries payload items ∧ ∀ item ∈ items, Series.IsWellFormed item

/-- A payload is malformed: its result is absent or no list, or some item of the list, anywhere in
it, is no series. -/
def IsMalformed (payload : Json) : Prop :=
  (∀ items, ¬ListsSeries payload items) ∨
    ∃ items, ListsSeries payload items ∧ ∃ item ∈ items, ¬Series.IsWellFormed item

/-- A value has an entry if it is an object with this entry. -/
theorem get?_eq_some_iff {key : String} {json value : Json} :
    json.get? key = some value ↔
      ∃ entries, json = .object entries ∧ entries.lookup key = some value := by
  cases json <;> simp [Json.get?]

/-- A value is taken for a text if it is one. -/
theorem asText?_eq_some_iff {json : Json} {text : String} :
    json.asText? = some text ↔ json = .string text := by
  cases json <;> simp [Json.asText?]

/-- A value is taken for a list if it is one. -/
theorem asList?_eq_some_iff {json : Json} : json.asList? = some items ↔ json = .array items := by
  cases json <;> simp [Json.asList?]

/-- A payload is an error if it reports one. -/
theorem isError_iff : isError payload = true ↔ ReportsError payload := by
  unfold isError ReportsError
  rw [decide_eq_true_eq, Option.bind_eq_some_iff]
  simp only [get?_eq_some_iff, asText?_eq_some_iff]
  constructor
  · rintro ⟨_, ⟨entries, hpayload, hstatus⟩, rfl⟩
    exact ⟨entries, hpayload, hstatus⟩
  · rintro ⟨entries, hpayload, hstatus⟩
    exact ⟨_, ⟨entries, hpayload, hstatus⟩, rfl⟩

/-- A payload has items if and only if it lists series. -/
theorem resultItems?_eq_some_iff :
    resultItems? payload = some items ↔ ListsSeries payload items := by
  unfold resultItems? ListsSeries
  simp only [Option.bind_eq_some_iff, get?_eq_some_iff, asList?_eq_some_iff]
  constructor
  · rintro ⟨_, ⟨_, ⟨entries, hpayload, hdata⟩, data, rfl, hresult⟩, rfl⟩
    exact ⟨entries, data, hpayload, hdata, hresult⟩
  · rintro ⟨entries, data, hpayload, hdata, hresult⟩
    exact ⟨_, ⟨_, ⟨entries, hpayload, hdata⟩, data, rfl, hresult⟩, rfl⟩

/-- A payload lists one list of items at most. -/
theorem ListsSeries.unique {items' : List Json} (h : ListsSeries payload items)
    (h' : ListsSeries payload items') : items = items' := by
  rw [← resultItems?_eq_some_iff] at h h'
  exact Option.some.inj (h.symm.trans h')

/-- Series are read from well-formed items, one for one and in order. -/
theorem readSeries_eq_ok_iff {all : List Series} :
    readSeries payload = .ok all ↔
      ∃ items, ListsSeries payload items ∧ List.Forall₂ Series.IsWritten items all := by
  unfold readSeries
  cases hitems : resultItems? payload with
  | none =>
    constructor
    · intro h
      cases h
    · rintro ⟨items, hlists, -⟩
      rw [resultItems?_eq_some_iff.2 hlists] at hitems
      cases hitems
  | some items =>
    rw [resultItems?_eq_some_iff] at hitems
    simp only [mapError_eq_ok_iff, mapM_eq_ok_iff, Series.ofJson_eq_ok_iff]
    constructor
    · intro heach
      exact ⟨items, hitems, heach⟩
    · rintro ⟨items', hlists, heach⟩
      rwa [hitems.unique hlists]

/-- Items stand for some series if and only if each of them is well formed. -/
theorem exists_forall₂_iff :
    (∃ all, List.Forall₂ Series.IsWritten items all) ↔
      ∀ item ∈ items, Series.IsWellFormed item := by
  induction items with
  | nil => exact ⟨fun _ _ h => absurd h List.not_mem_nil, fun _ => ⟨[], .nil⟩⟩
  | cons item rest ih =>
    rw [List.forall_mem_cons, ← ih]
    constructor
    · rintro ⟨all, heach⟩
      obtain ⟨series, others, hitem, hrest, -⟩ := List.forall₂_cons_left_iff.1 heach
      exact ⟨⟨series, hitem⟩, others, hrest⟩
    · rintro ⟨⟨series, hitem⟩, others, hrest⟩
      exact ⟨series :: others, .cons hitem hrest⟩

/-- A payload is malformed if and only if it does not list well-formed series. -/
theorem isMalformed_iff : IsMalformed payload ↔ ∀ items, ¬ListsWellFormed payload items := by
  constructor
  · rintro (hnone | ⟨items, hlists, item, hmem, hitem⟩) items' ⟨hlists', hwell⟩
    · exact hnone items' hlists'
    · rw [← hlists.unique hlists'] at hwell
      exact hitem (hwell item hmem)
  · intro h
    by_cases hlists : ∃ items, ListsSeries payload items
    · obtain ⟨items, hlists⟩ := hlists
      refine .inr ⟨items, hlists, ?_⟩
      by_contra hwell
      push Not at hwell
      exact h items ⟨hlists, hwell⟩
    · exact .inl (not_exists.1 hlists)

/-- The series of a malformed payload cannot be read, and the payload is called invalid. -/
theorem readSeries_of_isMalformed (h : IsMalformed payload) :
    ∃ details, readSeries payload = .error (.invalidPayload details) := by
  unfold readSeries
  cases hitems : resultItems? payload with
  | none => exact ⟨_, rfl⟩
  | some items =>
    rw [resultItems?_eq_some_iff] at hitems
    obtain hnone | ⟨items', hlists, item, hmem, hitem⟩ := h
    · exact absurd hitems (hnone items)
    · rw [← hitems.unique hlists] at hmem
      obtain ⟨cause, hread⟩ := mapM_error_of_mem hmem (Series.ofJson_ne_ok hitem)
      simp only [hread]
      exact ⟨_, rfl⟩

/-! ## The verdicts -/

/-- A reported error goes before everything else. -/
theorem rangeSamples_of_reportsError (query : String) (h : ReportsError payload) :
    rangeSamples query payload = .error (.backend payload.print) := by
  unfold rangeSamples
  rw [if_pos (isError_iff.2 h)]

/-- The samples of the series that answer a query, of which there has to be exactly one. -/
def samplesOf (query : String) : List Series → Except ResponseError (List Sample)
  | [] => .error (.metricNotFound query)
  | [series] => .ok series.samples
  | all => .error (.ambiguousMetric (differentiatingLabels all))

/-- Without a reported error, the series decide. -/
theorem rangeSamples_of_not_reportsError (query : String) (h : ¬ReportsError payload) :
    rangeSamples query payload = readSeries payload >>= samplesOf query := by
  unfold rangeSamples
  rw [if_neg (mt isError_iff.1 h)]
  rfl

/-- Without a reported error, a malformed payload is called invalid. -/
theorem rangeSamples_of_isMalformed (query : String) (hreports : ¬ReportsError payload)
    (h : IsMalformed payload) :
    ∃ details, rangeSamples query payload = .error (.invalidPayload details) := by
  obtain ⟨details, hread⟩ := readSeries_of_isMalformed h
  rw [rangeSamples_of_not_reportsError query hreports, hread]
  exact ⟨details, rfl⟩

/-- Without a reported error, well-formed series are counted. -/
theorem rangeSamples_of_listsSeries (query : String) (hreports : ¬ReportsError payload)
    (hlists : ListsSeries payload items) {all : List Series}
    (heach : List.Forall₂ Series.IsWritten items all) :
    rangeSamples query payload = samplesOf query all := by
  rw [rangeSamples_of_not_reportsError query hreports,
    readSeries_eq_ok_iff.2 ⟨items, hlists, heach⟩]
  rfl

/-- What a payload is taken for. Each verdict but the first needs that no error is reported, and
each of the last three that all items are well formed. -/
inductive Verdict (query : String) (payload : Json) :
    Except ResponseError (List Sample) → Prop where
  /-- An error is reported. -/
  | backend (hreports : ReportsError payload) :
    Verdict query payload (.error (.backend payload.print))
  /-- There is no list, or one of its items is malformed. -/
  | invalid (hreports : ¬ReportsError payload) (hmalformed : IsMalformed payload)
    (details : String) :
    Verdict query payload (.error (.invalidPayload details))
  /-- There is no series. -/
  | notFound (hreports : ¬ReportsError payload) (hlists : ListsWellFormed payload []) :
    Verdict query payload (.error (.metricNotFound query))
  /-- There is one series. -/
  | single (hreports : ¬ReportsError payload) {item : Json} {series : Series}
    (hlists : ListsWellFormed payload [item]) (hitem : Series.IsWritten item series) :
    Verdict query payload (.ok series.samples)
  /-- There are several series. -/
  | ambiguous (hreports : ¬ReportsError payload) {items : List Json}
    (hlists : ListsWellFormed payload items) (hlength : 2 ≤ items.length) (labels : List String) :
    Verdict query payload (.error (.ambiguousMetric labels))

/-- Every payload falls under the verdict that it is given. -/
theorem verdict (query : String) (payload : Json) :
    Verdict query payload (rangeSamples query payload) := by
  by_cases hreports : ReportsError payload
  · rw [rangeSamples_of_reportsError query hreports]
    exact .backend hreports
  by_cases hmalformed : IsMalformed payload
  · obtain ⟨details, hinvalid⟩ := rangeSamples_of_isMalformed query hreports hmalformed
    rw [hinvalid]
    exact .invalid hreports hmalformed details
  -- What is not malformed lists well-formed series, which are counted.
  rw [isMalformed_iff, not_forall_not] at hmalformed
  obtain ⟨items, hlists, hwell⟩ := hmalformed
  obtain ⟨all, heach⟩ := exists_forall₂_iff.2 hwell
  rw [rangeSamples_of_listsSeries query hreports hlists heach]
  cases heach with
  | nil => exact .notFound hreports ⟨hlists, hwell⟩
  | cons hitem hrest =>
    cases hrest with
    | nil => exact .single hreports ⟨hlists, hwell⟩ hitem
    | cons hsecond hothers => exact .ambiguous hreports ⟨hlists, hwell⟩ (by simp) _

/-- How the shape of a payload decides what it is taken for. -/
structure Classified (query : String) (payload : Json) : Prop where
  /-- A reported error goes before everything else, and the text of the payload goes with it. -/
  backend_iff : ∀ details, rangeSamples query payload = .error (.backend details) ↔
    ReportsError payload ∧ details = payload.print
  /-- Otherwise a payload is called invalid if and only if it is malformed, however many series it
  lists. -/
  invalid_iff : (∃ details, rangeSamples query payload = .error (.invalidPayload details)) ↔
    ¬ReportsError payload ∧ IsMalformed payload
  /-- Otherwise no metric is found if there is no series, and the query goes with it. -/
  notFound_iff : ∀ text, rangeSamples query payload = .error (.metricNotFound text) ↔
    ¬ReportsError payload ∧ ListsWellFormed payload [] ∧ text = query
  /-- Otherwise the metric is ambiguous if there are two series or more. -/
  ambiguous_iff : (∃ labels, rangeSamples query payload = .error (.ambiguousMetric labels)) ↔
    ¬ReportsError payload ∧ ∃ items, ListsWellFormed payload items ∧ 2 ≤ items.length
  /-- Otherwise there is one series, and all its samples are returned, one for one and in order. -/
  ok_iff : ∀ samples, rangeSamples query payload = .ok samples ↔
    ¬ReportsError payload ∧ ∃ item series, ListsSeries payload [item] ∧
      Series.IsWritten item series ∧ series.samples = samples

/-- The shape of a payload decides what it is taken for. -/
theorem classified (query : String) (payload : Json) : Classified query payload := by
  have hverdict := verdict query payload
  constructor
  case backend_iff =>
    intro details
    constructor
    · intro h
      rw [h] at hverdict
      obtain ⟨hreports⟩ := hverdict
      exact ⟨hreports, rfl⟩
    · rintro ⟨hreports, rfl⟩
      exact rangeSamples_of_reportsError query hreports
  case invalid_iff =>
    constructor
    · rintro ⟨details, h⟩
      rw [h] at hverdict
      cases hverdict with
      | invalid hreports hmalformed => exact ⟨hreports, hmalformed⟩
    · rintro ⟨hreports, hmalformed⟩
      exact rangeSamples_of_isMalformed query hreports hmalformed
  case notFound_iff =>
    intro text
    constructor
    · intro h
      rw [h] at hverdict
      cases hverdict with
      | notFound hreports hlists => exact ⟨hreports, hlists, rfl⟩
    · rintro ⟨hreports, ⟨hlists, -⟩, rfl⟩
      exact rangeSamples_of_listsSeries text hreports hlists .nil
  case ambiguous_iff =>
    constructor
    · rintro ⟨labels, h⟩
      rw [h] at hverdict
      cases hverdict with
      | ambiguous hreports hlists hlength => exact ⟨hreports, _, hlists, hlength⟩
    · rintro ⟨hreports, items, ⟨hlists, hwell⟩, hlength⟩
      obtain ⟨all, heach⟩ := exists_forall₂_iff.2 hwell
      rw [rangeSamples_of_listsSeries query hreports hlists heach]
      rw [heach.length_eq] at hlength
      match all, hlength with
      | _ :: _ :: _, _ => exact ⟨_, rfl⟩
  case ok_iff =>
    intro samples
    constructor
    · intro h
      rw [h] at hverdict
      cases hverdict with
      | single hreports hlists hitem => exact ⟨hreports, _, _, hlists.1, hitem, rfl⟩
    · rintro ⟨hreports, item, series, hlists, hitem, rfl⟩
      exact rangeSamples_of_listsSeries query hreports hlists (.cons hitem .nil)

end Payload

end MetricGateway
