import MetricGateway.Json.Record
import MetricGateway.Proofs.Json.Value

/-!
# Reading printed records

A reader reads a text as a value (`Reads`) if it does so wherever the text stands. The property goes
from the readers of parts to those of lists, optional values and records: a record is read from a
printed object if each entry fills its field and the filled draft builds the record
(`Record.reads_object`).
-/

namespace MetricGateway.Json

open Success

variable {α β σ : Type}

/-- A reader reads a text as a value, whatever follows that is no part of a number, with room for
`depth` brackets. -/
def Reads (read : Reader α) (depth : Nat) (text : List Char) (value : α) : Prop :=
  ∀ (scope : Scope) (rest : List Char), scope.mark = none → depth ≤ scope.depth →
    EndsNumber rest → read scope (text ++ rest) = .ok (value, rest)

/-- What is read with some room is read with more. -/
theorem Reads.mono {read : Reader α} {depth more : Nat} {text : List Char} {value : α}
    (h : Reads read depth text value) (hle : depth ≤ more) : Reads read more text value :=
  fun scope rest hmark hmore hrest => h scope rest hmark (Nat.le_trans hle hmore) hrest

/-- What is read as a whole text is read as a document. -/
theorem Reads.readDocument_eq {read : Reader α} {depth : Nat} {text : List Char} {value : α}
    (h : Reads read depth text value) (hdepth : depth ≤ maxDepth) :
    readDocument read (String.ofList text) = .ok value := by
  have hread := h (documentScope none) [] rfl hdepth endsNumber_nil
  rw [List.append_nil] at hread
  unfold readDocument
  rw [String.toList_ofList, hread]
  rfl

/-! ## Whole texts -/

/-- A whole text is read if only blanks are left behind the value. -/
theorem finishDocument_eq_ok_iff {read : α × List Char} {value : α} :
    finishDocument read = .ok value ↔ read.1 = value ∧ skipSpace read.2 = [] := by
  unfold finishDocument
  split
  next hrest => simp [hrest]
  next hrest =>
    constructor
    · intro h
      cases h
    · exact fun h => absurd h.2 hrest

/-- A document is one value with nothing but blanks behind it. -/
theorem readDocument_eq_ok_iff {read : Reader α} {text : String} {value : α} :
    readDocument read text = .ok value ↔
      ∃ rest, read (documentScope none) text.toList = .ok (value, rest) ∧ skipSpace rest = [] := by
  unfold readDocument
  simp only [bind_eq_ok_iff, finishDocument_eq_ok_iff]
  constructor
  · rintro ⟨⟨_, rest⟩, hread, rfl, hrest⟩
    exact ⟨rest, hread, hrest⟩
  · rintro ⟨rest, hread, hrest⟩
    exact ⟨(value, rest), hread, rfl, hrest⟩

/-- A value that is read from a whole text was turned from one that is. -/
theorem exists_of_readDocument_refined {read : Reader α} {refine : α → Except String β}
    {text : String} {result : β} (h : readDocument (readRefined read refine) text = .ok result) :
    ∃ value, readDocument read text = .ok value ∧ refine value = .ok result := by
  obtain ⟨rest, hread, hrest⟩ := readDocument_eq_ok_iff.1 h
  obtain ⟨⟨value, afterValue⟩, hvalue, hread⟩ := bind_eq_ok_iff.1 hread
  dsimp only at hread
  split at hread
  next refined hrefine =>
    obtain ⟨rfl, rfl⟩ := Prod.mk.inj (Except.ok.inj hread)
    exact ⟨value, readDocument_eq_ok_iff.2 ⟨afterValue, hvalue, hrest⟩, hrefine⟩
  next => cases hread

/-! ## Values without parts -/

/-- A text is read from its print. -/
theorem reads_string (s : String) : Reads readString 0 (Json.string s).render s := by
  intro scope rest hmark _ _
  unfold readString
  rw [hmark, render, readScalar_renderText]
  rfl

/-- A truth value is read from its print. -/
theorem reads_boolean (b : Bool) : Reads readBoolean 0 (Json.boolean b).render b := by
  intro scope rest _ _ _
  cases b <;> rfl

/-- A natural number that fits a word is read from its print. -/
theorem reads_nat {n : Nat} (h : n ≤ Binary64.maxWord) (wanted : String) :
    Reads (readNat wanted) 0 (Json.ofNat n).render n := by
  intro scope rest _ _ hrest
  have hnegative : ¬(n : Int) < 0 := by omega
  unfold readNat
  rw [Json.ofNat, render, Number.render, readScalar_renderInt (fitsWord_natCast h) _ hrest, ok_bind]
  exact if_neg hnegative

/-- A plain value is read as it is. -/
theorem reads_value {depth : Nat} {value : Json} (h : ∀ more, IsPlain (depth + more) value) :
    Reads readValue depth value.render value := by
  intro scope rest hmark hdepth hrest
  obtain ⟨more, hmore⟩ := Nat.exists_eq_add_of_le hdepth
  unfold readValue
  rw [hmark, hmore, readAny_render (h more) hrest]

/-- A value that is turned into another one. -/
theorem Reads.refined {read : Reader α} {depth : Nat} {text : List Char} {value : α}
    (h : Reads read depth text value) {refine : α → Except String β} {result : β}
    (hrefine : refine value = .ok result) : Reads (readRefined read refine) depth text result := by
  intro scope rest hmark hdepth hrest
  unfold readRefined
  rw [h scope rest hmark hdepth hrest, ok_bind]
  dsimp only
  rw [hrefine]
  rfl

/-! ## Values that may be null -/

/-- Null is read as nothing. -/
theorem reads_none (read : Reader α) : Reads (readOptional read) 0 Json.null.render none := by
  intro scope rest _ _ _
  rfl

/-- A value whose text does not begin like null is read as one that is there. -/
theorem Reads.some {read : Reader α} {depth : Nat} {text : List Char} {value : α}
    (h : Reads read depth text value) {c : Char} (hbegins : Begins text c) (hnull : c ≠ 'n') :
    Reads (readOptional read) depth text (some value) := by
  intro scope rest hmark hdepth hrest
  have hread := h scope rest hmark hdepth hrest
  have htext := hbegins.append rest
  -- Whether a value is null is decided by its first character.
  unfold readOptional
  rw [htext.skipSpace_eq]
  split
  · next heq =>
    obtain ⟨tail, hcons⟩ := htext.eq_cons
    rw [hcons] at heq
    exact absurd (List.cons.inj heq).1 hnull
  · rw [hread]
    rfl

/-- A text or null is read as the text that may be there. -/
theorem reads_text? (text : Option String) :
    Reads (readOptional readString) 0 (Json.ofText? text).render text := by
  cases text with
  | none => exact reads_none readString
  | some s => exact (reads_string s).some (.cons (by decide) (by decide) _) (by decide)

/-! ## Lists -/

/-- Items that are read as values are read as the list of these values. -/
theorem reads_list {item : Reader α} {toJson : α → Json} {depth : Nat} {values : List α}
    (h : ∀ value ∈ values, (∃ c, Begins (toJson value).render c) ∧
      Reads item depth (toJson value).render value) :
    Reads (readList item) (depth + 1) (Json.array (values.map toJson)).render values := by
  intro scope rest hmark hdepth _
  cases scope with
  | mk room mark =>
    dsimp only at hmark hdepth
    subst hmark
    cases room with
    | zero => exact absurd hdepth (Nat.not_succ_le_zero _)
    | succ room =>
      -- While the items are read, one more bracket is open.
      have hitems : ∀ value ∈ values,
          ReadsItem (item { depth := room, mark := none }) toJson value :=
        fun value hvalue => ⟨(h value hvalue).1, fun rest hrest =>
          (h value hvalue).2 _ rest rfl (Nat.le_of_succ_le_succ hdepth) hrest⟩
      have hroom := room_renderItems (values.map toJson) rest
      rw [List.length_map] at hroom
      unfold readList
      rw [render, List.cons_append, List.append_assoc, List.singleton_append]
      exact readItems_renderItems hitems hroom rest

/-! ## Records -/

/-- A field whose value is read is filled with the value. -/
theorem Reads.fill {read : Reader α} {depth : Nat} {text : List Char} {value : α}
    (h : Reads read depth text value) (name : String) (isOptional : Bool) (get : σ → Option α)
    (put : σ → α → σ) (draft : σ) :
    Reads ((field name isOptional get put read).fill draft) depth text (put draft value) := by
  intro scope rest hmark hdepth hrest
  change (read scope (text ++ rest) >>= fun read => pure (put draft read.1, read.2)) = _
  rw [h scope rest hmark hdepth hrest]
  rfl

/-- One field of a list is read where the next item begins. -/
theorem Record.readFields_cons (record : Record σ α) {scope : Scope} {field : Field σ}
    {fields : List (Field σ)} {draft : σ} {input start : List Char}
    (h : nextItem (record.fields.length - (fields.length + 1) = 0) input = .ok (.next start)) :
    record.readFields scope (field :: fields) draft input =
      (within (.index (record.fields.length - (fields.length + 1)))
        (field.fill draft scope start) >>= fun read =>
          record.readFields scope fields read.1 read.2) := by
  rw [readFields, h]
  rfl

/-- Entries fill their fields one after another. -/
inductive Completes (record : Record σ α) (depth : Nat) : σ → List (String × Json) → σ → Prop where
  | nil (draft : σ) : Completes record depth draft [] draft
  | cons {draft next last : σ} {field : Field σ} {key : String} {value : Json}
    {more : List (String × Json)}
    (find : record.fields.find? (fun field => field.name = key) = some field)
    (isFilled : field.isFilled draft = false)
    (reads : Reads (field.fill draft) depth value.render next)
    (completes : Completes record depth next more last) :
    Completes record depth draft ((key, value) :: more) last

/-- Entries that complete a draft are gathered one by one. -/
theorem Completes.gathers {record : Record σ α} {depth : Nat} {draft last : σ}
    {entries : List (String × Json)} (h : Completes record depth draft entries last) {scope : Scope}
    (hmark : scope.mark = none) (hdepth : depth ≤ scope.depth) :
    Gathers (record.readEntry scope) draft entries last := by
  induction h with
  | nil draft => exact .nil draft
  | cons find isFilled reads _ ih =>
    refine .cons (fun rest hrest => ?_) ih
    unfold Record.readEntry
    rw [find]
    dsimp only
    rw [isFilled]
    exact readMember_colon (reads scope rest hmark hdepth hrest) _

/-- A record is read from an object whose entries complete a draft of it. -/
theorem Record.reads_object {record : Record σ α} {depth : Nat} {entries : List (String × Json)}
    {value : α} (draft : σ)
    (h : Completes record depth record.empty entries draft) (hbuild : record.build draft =
      .ok value) :
    Reads record.read (depth + 1) (Json.object entries).render value := by
  intro scope rest hmark hdepth _
  cases scope with
  | mk room mark =>
    dsimp only at hmark hdepth
    subst hmark
    cases room with
    | zero => exact absurd hdepth (Nat.not_succ_le_zero _)
    | succ room =>
      have hgathers :
          Gathers (record.readEntry { depth := room, mark := none }) record.empty entries
          draft := h.gathers rfl (Nat.le_of_succ_le_succ hdepth)
      unfold Record.read
      rw [render, List.cons_append, List.append_assoc, List.singleton_append]
      change (readEntries none (record.readEntry { depth := room, mark := none }) _ true
        record.empty _ >>= fun read => record.build read.1 >>= fun value => pure (value, read.2)) =
          _
      rw [readEntries_renderEntries hgathers (room_renderEntries entries rest), ok_bind, hbuild]
      rfl

end MetricGateway.Json
