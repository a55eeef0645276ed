import MetricGateway.Json.Record
import MetricGateway.Proofs.Json.Token
import MetricGateway.Proofs.Success

/-!
# What readers yield

A property holds of whatever a reader reads (`Yields`). It goes from the readers of parts to those
of lists, optional values and records: a record has a property if its draft has one that every field
keeps (`Record.yields`), in whatever order and number the fields are given. The property that
matters here is the size of numbers: a natural number that is read fits a word (`yields_nat`).
-/

namespace MetricGateway.Json

open Success

variable {α β σ : Type}

/-- Whatever a reader reads has a property. -/
def Yields (read : Reader α) (property : α → Prop) : Prop :=
  ∀ ⦃scope : Scope⦄ ⦃input rest : List Char⦄ ⦃value : α⦄,
    read scope input = .ok (value, rest) → property value

/-- Whatever is read has a property that says nothing. -/
theorem yields_true (read : Reader α) : Yields read fun _ => True :=
  fun _ _ _ _ _ => trivial

/-! ## Numbers -/

/-- An integer that is written fits a word. -/
theorem Numeral.fitsWord_of_toInt? {numeral : Numeral} {n : Int} (h : numeral.toInt? = some n) :
    FitsWord n := by
  unfold toInt? at h
  dsimp only at h
  split at h
  · cases h
  · split at h
    · split at h
      · next hsize =>
        obtain rfl := Option.some.inj h
        unfold FitsWord
        omega
      · cases h
    · split at h
      · next hsize =>
        obtain rfl := Option.some.inj h
        exact fitsWord_natCast hsize
      · cases h

/-- An integer that is read fits a word. -/
theorem fitsWord_of_readNumber {text rest : List Char} {n : Int}
    (h : readNumber text = .ok (.integer n, rest)) : FitsWord n := by
  obtain ⟨⟨numeral, afterNumeral⟩, -, h⟩ := bind_eq_ok_iff.1 h
  obtain ⟨number, hnumber, h⟩ := bind_eq_ok_iff.1 h
  obtain ⟨rfl, -⟩ := Prod.mk.inj (Except.ok.inj h)
  unfold Numeral.toNumber at hnumber
  split at hnumber
  · next hint =>
    obtain rfl := Number.integer.inj (Except.ok.inj hnumber)
    exact Numeral.fitsWord_of_toInt? hint
  · split at hnumber <;> cases hnumber

/-- A number that is found was read as one. -/
theorem exists_readNumber_of_readScalar {mark : Option Char} {input rest : List Char} {n : Number}
    (h : readScalar mark input = .ok (.number n, rest)) :
    ∃ text, readNumber text = .ok (n, rest) := by
  unfold readScalar at h
  -- Neither the end of the text nor a word, a quote or a bracket leads to a number.
  split at h
  · cases h
  iterate 4
    · obtain ⟨_, -, h⟩ := bind_eq_ok_iff.1 h
      cases h
  iterate 2
    · cases h
  · split at h
    · obtain ⟨⟨number, afterNumber⟩, hnumber, h⟩ := bind_eq_ok_iff.1 h
      obtain ⟨hfound, rfl⟩ := Prod.mk.inj (Except.ok.inj h)
      obtain rfl := Found.number.inj hfound
      exact ⟨_, hnumber⟩
    · cases h

/-- An integer that is read as a scalar fits a word. -/
theorem fitsWord_of_readScalar {mark : Option Char} {input rest : List Char} {n : Int}
    (h : readScalar mark input = .ok (.number (.integer n), rest)) : FitsWord n := by
  obtain ⟨text, hnumber⟩ := exists_readNumber_of_readScalar h
  exact fitsWord_of_readNumber hnumber

/-- A natural number that is read fits a word. -/
theorem yields_nat (wanted : String) : Yields (readNat wanted) (· ≤ Binary64.maxWord) := by
  intro scope input rest value h
  obtain ⟨⟨found, afterNumber⟩, hscalar, h⟩ := bind_eq_ok_iff.1 h
  split at h
  · next heq =>
    obtain ⟨rfl, rfl⟩ := Prod.mk.inj heq
    split at h
    · cases h
    · next n hnegative =>
      obtain ⟨rfl, -⟩ := Prod.mk.inj (Except.ok.inj h)
      have hfits : n ≤ Binary64.maxWord := (fitsWord_of_readScalar hscalar).2
      omega
  · cases h

/-- Of a value that may be null, whatever is there has the property. -/
theorem Yields.optional {read : Reader α} {property : α → Prop} (h : Yields read property) :
    Yields (readOptional read) fun value => ∀ there ∈ value, property there := by
  intro scope input rest value hread there hthere
  unfold readOptional at hread
  split at hread
  · obtain ⟨_, -, hread⟩ := bind_eq_ok_iff.1 hread
    obtain ⟨rfl, -⟩ := Prod.mk.inj (Except.ok.inj hread)
    cases hthere
  · obtain ⟨⟨given, afterValue⟩, hgiven, hread⟩ := bind_eq_ok_iff.1 hread
    obtain ⟨rfl, -⟩ := Prod.mk.inj (Except.ok.inj hread)
    exact Option.some.inj hthere ▸ h hgiven

/-! ## Records -/

/-- A field keeps a property of drafts. -/
def Field.Keeps (field : Field σ) (property : σ → Prop) : Prop :=
  ∀ ⦃draft : σ⦄, property draft → Yields (field.fill draft) property

/-- A field keeps a property if it holds with any value that the field can have. -/
theorem Yields.keeps {read : Reader α} {property : α → Prop} (h : Yields read property)
    {kept : σ → Prop} {name : String} {isOptional : Bool} {get : σ → Option α} {put : σ → α → σ}
    (hput : ∀ (draft : σ) (value : α), kept draft → property value → kept (put draft value)) :
    (field name isOptional get put read).Keeps kept := by
  intro draft hdraft scope input rest next hfill
  obtain ⟨⟨value, afterValue⟩, hvalue, hfill⟩ := bind_eq_ok_iff.1 hfill
  obtain ⟨rfl, -⟩ := Prod.mk.inj (Except.ok.inj hfill)
  exact hput draft value hdraft (h hvalue)

section Entries

variable {property : σ → Prop}

/-- What holds of the state before the entries of an object, and after each of them, holds in the
end. The induction is on the number of rounds. -/
theorem of_readEntries {mark : Option Char}
    {entry : σ → String → List Char → Except Fault (σ × List Char)}
    (hentry : ∀ {state next : σ} {key : String} {input rest : List Char}, property state →
      entry state key input = .ok (next, rest) → property next)
    {room : Nat} {isFirst : Bool} {state last : σ} {input rest : List Char}
    (hstate : property state)
    (h : readEntries mark entry room isFirst state input = .ok (last, rest)) : property last := by
  induction room generalizing isFirst state input with
  | zero => cases h
  | succ room ih =>
    obtain ⟨turn, -, h⟩ := bind_eq_ok_iff.1 h
    cases turn with
    | done afterEnd =>
      obtain ⟨rfl, -⟩ := Prod.mk.inj (Except.ok.inj h)
      exact hstate
    | next start =>
      obtain ⟨⟨key, afterKey⟩, -, h⟩ := bind_eq_ok_iff.1 h
      obtain ⟨⟨next, afterEntry⟩, hnext, h⟩ := bind_eq_ok_iff.1 h
      exact ih (hentry hstate hnext) h

/-- What every field keeps is kept by one entry: it fills a field, or is passed over. -/
theorem Record.of_readEntry {record : Record σ α}
    (hfields : ∀ field ∈ record.fields, field.Keeps property) {scope : Scope} {draft next : σ}
    {key : String} {input rest : List Char} (hdraft : property draft)
    (h : record.readEntry scope draft key input = .ok (next, rest)) : property next := by
  unfold readEntry at h
  split at h
  · unfold readMember at h
    obtain ⟨start, -, h⟩ := bind_eq_ok_iff.1 (mapError_eq_ok_iff.1 h)
    obtain ⟨afterValue, -, h⟩ := bind_eq_ok_iff.1 h
    obtain ⟨rfl, -⟩ := Prod.mk.inj (Except.ok.inj h)
    exact hdraft
  · next field hfield =>
    split at h
    · cases h
    · unfold readMember at h
      obtain ⟨start, -, h⟩ := bind_eq_ok_iff.1 (mapError_eq_ok_iff.1 h)
      exact hfields field (List.mem_of_find?_eq_some hfield) hdraft h

/-- What every field keeps is kept by a list of fields. -/
theorem Record.of_readFields {record : Record σ α} {scope : Scope} {fields : List (Field σ)}
    (hfields : ∀ field ∈ fields, field.Keeps property) {draft last : σ} {input rest : List Char}
    (hdraft : property draft)
    (h : record.readFields scope fields draft input = .ok (last, rest)) : property last := by
  induction fields generalizing draft input with
  | nil =>
    obtain ⟨afterEnd, -, h⟩ := bind_eq_ok_iff.1 h
    obtain ⟨rfl, -⟩ := Prod.mk.inj (Except.ok.inj h)
    exact hdraft
  | cons field fields ih =>
    obtain ⟨turn, -, h⟩ := bind_eq_ok_iff.1 h
    cases turn with
    | done afterEnd =>
      dsimp only at h
      split at h
      · cases h
      · obtain ⟨rfl, -⟩ := Prod.mk.inj (Except.ok.inj h)
        exact hdraft
    | next start =>
      obtain ⟨⟨next, afterField⟩, hnext, h⟩ := bind_eq_ok_iff.1 h
      have hkept := hfields field List.mem_cons_self hdraft (mapError_eq_ok_iff.1 hnext)
      exact ih (fun other hother => hfields other (List.mem_cons_of_mem _ hother)) hkept h

/-- A record that is read is built from a draft with every property that its fields keep. -/
theorem Record.yields {record : Record σ α}
    (hfields : ∀ field ∈ record.fields, field.Keeps property) (hempty : property record.empty) :
    Yields record.read fun value => ∃ draft, property draft ∧ record.build draft = .ok value := by
  intro scope input rest value h
  -- Behind an object and behind a list of fields, the record is built from the draft alike.
  have hbuild {read : Except Fault (σ × List Char)}
      (hread : ∀ {draft : σ} {after : List Char}, read = .ok (draft, after) → property draft)
      (h : (read >>= fun read => record.build read.1 >>= fun value => pure (value, read.2)) =
        .ok (value, rest)) :
      ∃ draft, property draft ∧ record.build draft = .ok value := by
    obtain ⟨⟨draft, afterFields⟩, hdraft, h⟩ := bind_eq_ok_iff.1 h
    obtain ⟨built, hbuilt, h⟩ := bind_eq_ok_iff.1 h
    obtain ⟨rfl, -⟩ := Prod.mk.inj (Except.ok.inj h)
    exact ⟨draft, hread hdraft, hbuilt⟩
  obtain ⟨⟨found, afterBracket⟩, -, h⟩ := bind_eq_ok_iff.1 h
  dsimp only at h
  split at h
  · obtain ⟨inner, -, h⟩ := bind_eq_ok_iff.1 h
    exact hbuild (fun hdraft => of_readEntries (fun hstate => record.of_readEntry hfields hstate)
      hempty hdraft) h
  · obtain ⟨inner, -, h⟩ := bind_eq_ok_iff.1 h
    exact hbuild (fun hdraft => record.of_readFields hfields hempty hdraft) h
  · cases h

end Entries

/-- What holds of a part that is given and of the one that stands for an absent part holds of the
part that is taken. -/
theorem holds_getD {α : Type} {p : α → Prop} {part : Option α} (h : ∀ given ∈ part, p given)
    {other : α} (hother : p other) : p (part.getD other) := by
  cases part with
  | none => exact hother
  | some given => exact h given rfl

/-- A required part that is taken is the given one. -/
theorem eq_some_of_require {α : Type} {name : String} {part : Option α} {value : α}
    (h : require name part = .ok value) : part = some value := by
  cases part with
  | none => cases h
  | some given => exact congrArg some (Except.ok.inj h)

end MetricGateway.Json
