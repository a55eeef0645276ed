import MetricGateway.Proofs.Condition
import MetricGateway.Proofs.Connection
import MetricGateway.Query

/-!
# Queries and their texts

A query is read from the text that is printed for it if its numbers fit words and no condition of it
compares with a number. The numbers of every query that is read fit words.
-/

namespace MetricGateway

open Json

/-- A field is read from its text. -/
theorem FieldDescriptor.reads_toJson (field : FieldDescriptor) :
    Reads FieldDescriptor.read 1 field.toJson.render field := by
  refine Record.reads_object
    { kind := some field.kind, classified := some field.classified, type := some field.type,
      name := some field.name } ?_ rfl
  refine .cons rfl rfl ((reads_string field.kind).fill _ _ _ _ _) ?_
  refine .cons rfl rfl ((reads_boolean field.classified).fill _ _ _ _ _) ?_
  refine .cons rfl rfl ((reads_string field.type).fill _ _ _ _ _) ?_
  exact .cons rfl rfl ((reads_string field.name).fill _ _ _ _ _) (.nil _)

namespace Aggregation

/-- The numbers of an aggregation fit words. -/
def FitsWords (aggregation : Aggregation) : Prop := aggregation.bucketMillis ≤ Binary64.maxWord

/-- An aggregation is read from its text. -/
theorem reads_toJson {aggregation : Aggregation} (h : aggregation.FitsWords) :
    Reads Aggregation.read 1 aggregation.toJson.render aggregation := by
  refine Record.reads_object
    { methodName := some aggregation.methodName, bucketMillis := some aggregation.bucketMillis }
    ?_ rfl
  refine .cons rfl rfl ((reads_string aggregation.methodName).fill _ _ _ _ _) ?_
  exact .cons rfl rfl ((reads_nat h "u64").fill _ _ _ _ _) (.nil _)

/-- The numbers of a draft fit words. -/
def Draft.FitsWords (draft : Draft) : Prop :=
  ∀ millis ∈ draft.bucketMillis, millis ≤ Binary64.maxWord

/-- Each field of an aggregation keeps its words. -/
theorem record_keeps : ∀ field ∈ record.fields, field.Keeps Draft.FitsWords := by
  intro field hfield
  rcases List.mem_cons.1 hfield with rfl | hfield
  · exact (yields_true readString).keeps fun draft _ hdraft _ => hdraft
  obtain rfl := List.mem_singleton.1 hfield
  refine (yields_nat "u64").keeps fun draft value _ hvalue millis hmillis => ?_
  exact Option.some.inj hmillis ▸ hvalue

/-- The numbers of an aggregation that is read fit words. -/
theorem yields_fitsWords : Yields Aggregation.read FitsWords := by
  intro scope input rest aggregation hread
  obtain ⟨draft, hdraft, hbuild⟩ := record.yields record_keeps nofun hread
  obtain ⟨methodName, -, hbuild⟩ := Success.bind_eq_ok_iff.1 hbuild
  obtain rfl := Except.ok.inj hbuild
  exact holds_getD (p := (· ≤ Binary64.maxWord)) hdraft (by decide)

end Aggregation

namespace Query

/-- The numbers of a query fit words. -/
structure FitsWords (query : Query) : Prop where
  aggregation : ∀ aggregation ∈ query.aggregation, aggregation.FitsWords
  start : query.startMillis ≤ Binary64.maxWord
  stop : query.endMillis ≤ Binary64.maxWord
  limit : query.limit ≤ Binary64.maxWord
  offset : ∀ offset ∈ query.offset, offset ≤ Binary64.maxWord

/-- No condition of a query compares with a number. -/
def HasNoDouble (query : Query) : Prop :=
  ∀ condition ∈ query.conditions, ∀ numeral, condition.value ≠ .double numeral

/-- A part that is read from its text is read if it may be absent as well. -/
theorem reads_optionalJson {α : Type} {read : Reader α} {toJson : α → Json} {part : Option α}
    {depth : Nat}
    (h : ∀ there ∈ part, (∃ c, Begins (toJson there).render c ∧ c ≠ 'n') ∧
      Reads read depth (toJson there).render there) :
    Reads (readOptional read) depth (optionalJson toJson part).render part := by
  cases part with
  | none => exact (reads_none read).mono (Nat.zero_le depth)
  | some there =>
    obtain ⟨⟨c, hbegins, hc⟩, hread⟩ := h there rfl
    exact hread.some hbegins hc

/-- A number that need not be given is read from its print. -/
theorem reads_optionalNat {part : Option Nat} (h : ∀ n ∈ part, n ≤ Binary64.maxWord)
    (wanted : String) :
    Reads (readOptional (readNat wanted)) 0 (optionalJson Json.ofNat part).render part := by
  refine reads_optionalJson fun n hn => ⟨?_, reads_nat (h n hn) wanted⟩
  obtain ⟨c, hbegins, hc⟩ := begins_renderInt n
  refine ⟨c, hbegins, ?_⟩
  rintro rfl
  exact absurd hc (by decide)

/-- A query is read from its text. -/
theorem reads_toJson {query : Query} (hfits : query.FitsWords) (hdouble : query.HasNoDouble) :
    Reads Query.read 5 query.toJson.render query := by
  obtain ⟨conditions, field, aggregation, metricField, startMillis, endMillis, lastFirst,
    valueStart,
    limit, offset⟩ := query
  have hbrace (entries : List (String × Json)) :
      ∃ c, Begins (Json.object entries).render c ∧ c ≠ 'n' :=
    ⟨'\x7b', .cons (by decide) (by decide) _, by decide⟩
  have hconditions : Reads (readList Condition.read) 4
      (Json.array (conditions.map Condition.toJson)).render conditions :=
    reads_list fun condition hcondition =>
      ⟨⟨'\x7b', .cons (by decide) (by decide) _⟩,
        Condition.reads_toJson (hdouble condition hcondition)⟩
  have hfield : Reads (readOptional FieldDescriptor.read) 1
      (optionalJson FieldDescriptor.toJson field).render field :=
    reads_optionalJson fun there _ => ⟨hbrace _, there.reads_toJson⟩
  have haggregation : Reads (readOptional Aggregation.read) 1
      (optionalJson Aggregation.toJson aggregation).render aggregation :=
    reads_optionalJson fun there hthere =>
      ⟨hbrace _, Aggregation.reads_toJson (hfits.aggregation there hthere)⟩
  refine Record.reads_object
    { conditions := some conditions, field := some field, aggregation := some aggregation,
      metricField := some metricField, startMillis := some startMillis, endMillis := some endMillis,
      lastFirst := some lastFirst, valueStart := some valueStart, limit := some limit,
      offset := some offset } ?_ rfl
  have hnat {n : Nat} (h : n ≤ Binary64.maxWord) (wanted : String) :
      Reads (readNat wanted) 4 (Json.ofNat n).render n := (reads_nat h wanted).mono (Nat.zero_le 4)
  have htext (text : Option String) :
      Reads (readOptional readString) 4 (Json.ofText? text).render text :=
    (reads_text? text).mono (Nat.zero_le 4)
  -- Each entry finds its field by the key and meets a draft that does not have it yet.
  refine .cons rfl rfl (hconditions.fill _ _ _ _ _) ?_
  refine .cons rfl rfl ((hfield.mono (Nat.le_add_left 1 3)).fill _ _ _ _ _) ?_
  refine .cons rfl rfl ((haggregation.mono (Nat.le_add_left 1 3)).fill _ _ _ _ _) ?_
  refine .cons rfl rfl ((htext metricField).fill _ _ _ _ _) ?_
  refine .cons rfl rfl ((hnat hfits.start "u64").fill _ _ _ _ _) ?_
  refine .cons rfl rfl ((hnat hfits.stop "u64").fill _ _ _ _ _) ?_
  refine .cons rfl rfl (((reads_boolean lastFirst).mono (Nat.zero_le 4)).fill _ _ _ _ _) ?_
  refine .cons rfl rfl ((htext valueStart).fill _ _ _ _ _) ?_
  refine .cons rfl rfl ((hnat hfits.limit "usize").fill _ _ _ _ _) ?_
  exact .cons rfl rfl
    (((reads_optionalNat hfits.offset "usize").mono (Nat.zero_le 4)).fill _ _ _ _ _) (.nil _)

/-- The numbers of a draft fit words. -/
structure Draft.FitsWords (draft : Draft) : Prop where
  aggregation : ∀ given ∈ draft.aggregation, ∀ aggregation ∈ given, aggregation.FitsWords
  start : ∀ millis ∈ draft.startMillis, millis ≤ Binary64.maxWord
  stop : ∀ millis ∈ draft.endMillis, millis ≤ Binary64.maxWord
  limit : ∀ limit ∈ draft.limit, limit ≤ Binary64.maxWord
  offset : ∀ given ∈ draft.offset, ∀ offset ∈ given, offset ≤ Binary64.maxWord

/-- Each field of a query keeps its words. -/
theorem record_keeps : ∀ field ∈ record.fields, field.Keeps Draft.FitsWords := by
  intro field hfield
  rcases List.mem_cons.1 hfield with rfl | hfield
  · exact (yields_true _).keeps fun draft _ hdraft _ => { hdraft with }
  rcases List.mem_cons.1 hfield with rfl | hfield
  · exact (yields_true _).keeps fun draft _ hdraft _ => { hdraft with }
  rcases List.mem_cons.1 hfield with rfl | hfield
  · refine Aggregation.yields_fitsWords.optional.keeps fun draft value hdraft hvalue => ?_
    exact { hdraft with aggregation := fun given hgiven => Option.some.inj hgiven ▸ hvalue }
  rcases List.mem_cons.1 hfield with rfl | hfield
  · exact (yields_true _).keeps fun draft _ hdraft _ => { hdraft with }
  rcases List.mem_cons.1 hfield with rfl | hfield
  · refine (yields_nat "u64").keeps fun draft value hdraft hvalue => ?_
    exact { hdraft with start := fun millis hmillis => Option.some.inj hmillis ▸ hvalue }
  rcases List.mem_cons.1 hfield with rfl | hfield
  · refine (yields_nat "u64").keeps fun draft value hdraft hvalue => ?_
    exact { hdraft with stop := fun millis hmillis => Option.some.inj hmillis ▸ hvalue }
  rcases List.mem_cons.1 hfield with rfl | hfield
  · exact (yields_true _).keeps fun draft _ hdraft _ => { hdraft with }
  rcases List.mem_cons.1 hfield with rfl | hfield
  · exact (yields_true _).keeps fun draft _ hdraft _ => { hdraft with }
  rcases List.mem_cons.1 hfield with rfl | hfield
  · refine (yields_nat "usize").keeps fun draft value hdraft hvalue => ?_
    exact { hdraft with limit := fun limit hlimit => Option.some.inj hlimit ▸ hvalue }
  obtain rfl := List.mem_singleton.1 hfield
  refine (yields_nat "usize").optional.keeps fun draft value hdraft hvalue => ?_
  exact { hdraft with offset := fun given hgiven => Option.some.inj hgiven ▸ hvalue }

/-- The numbers of a query that is read fit words. -/
theorem yields_fitsWords : Yields Query.read FitsWords := by
  intro scope input rest query hread
  obtain ⟨draft, hdraft, hbuild⟩ :=
    record.yields record_keeps ⟨nofun, nofun, nofun, nofun, nofun⟩ hread
  obtain rfl := Except.ok.inj hbuild
  have haggregation : ∀ aggregation ∈ blank.aggregation, aggregation.FitsWords := nofun
  have hoffset : ∀ offset ∈ blank.offset, offset ≤ Binary64.maxWord := nofun
  exact {
    aggregation := holds_getD (p := fun part => ∀ there ∈ part, Aggregation.FitsWords there)
      hdraft.aggregation haggregation
    start := holds_getD (p := (· ≤ Binary64.maxWord)) hdraft.start (by decide)
    stop := holds_getD (p := (· ≤ Binary64.maxWord)) hdraft.stop (by decide)
    limit := holds_getD (p := (· ≤ Binary64.maxWord)) hdraft.limit (by decide)
    offset := holds_getD (p := fun part => ∀ offset ∈ part, offset ≤ Binary64.maxWord)
      hdraft.offset hoffset }

end Query

namespace QueryRequest

/-- The numbers of a request fit words. -/
structure FitsWords (request : QueryRequest) : Prop where
  connection : request.connection.FitsWords
  query : request.query.FitsWords

/-- The numbers of a draft fit words. -/
structure Draft.FitsWords (draft : Draft) : Prop where
  connection : ∀ connection ∈ draft.connection, Connection.FitsWords connection
  query : ∀ query ∈ draft.query, Query.FitsWords query

/-- Each field of a request keeps its words. -/
theorem record_keeps : ∀ field ∈ record.fields, field.Keeps Draft.FitsWords := by
  intro field hfield
  rcases List.mem_cons.1 hfield with rfl | hfield
  · refine Connection.yields_fitsWords.keeps fun draft value hdraft hvalue => ?_
    exact { hdraft with connection := fun given hgiven => Option.some.inj hgiven ▸ hvalue }
  obtain rfl := List.mem_singleton.1 hfield
  refine Query.yields_fitsWords.keeps fun draft value hdraft hvalue => ?_
  exact { hdraft with query := fun given hgiven => Option.some.inj hgiven ▸ hvalue }

/-- The numbers of a request that is read fit words. -/
theorem yields_fitsWords : Yields QueryRequest.read FitsWords := by
  intro scope input rest request hread
  obtain ⟨draft, hdraft, hbuild⟩ := record.yields record_keeps ⟨nofun, nofun⟩ hread
  obtain ⟨connection, hconnection, hbuild⟩ := Success.bind_eq_ok_iff.1 hbuild
  obtain ⟨query, hquery, hbuild⟩ := Success.bind_eq_ok_iff.1 hbuild
  obtain rfl := Except.ok.inj hbuild
  exact {
    connection := hdraft.connection connection (eq_some_of_require hconnection)
    query := hdraft.query query (eq_some_of_require hquery) }

end QueryRequest

end MetricGateway
