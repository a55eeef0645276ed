import MetricGateway.Proofs.Condition
import MetricGateway.Proofs.Json.Number

/-!
# How numbers are spelled after a round trip

A value that is printed and read again stays as it is, unless it is a number whose text is that of a
JSON number: such a text is printed as the number, and comes back as the number that is read from
this print is written in labels (`respelled`). So a value comes back exactly if its text is spelled
that way already (`respells`). A number that was given as a JSON number and not as a text is, if it
is an integer or has few digits.
-/

namespace MetricGateway.Condition.Value

open Json Success

/-! ## The text of a number -/

/-- The text in labels of a number that can be printed is a JSON number, and the same one if it is
short. -/
theorem exists_parse_numberText {n : Number} (h : n.IsPrintable) :
    ∃ found, parse (numberText n) = .ok (.number found) ∧ (n.IsShort → found = n) := by
  cases n with
  | integer n =>
    have hread := readNumber_renderInt h endsNumber_nil
    rw [List.append_nil] at hread
    exact ⟨.integer n, parse_of_readNumber hread, fun _ => rfl⟩
  | float x =>
    obtain ⟨negative, mantissa, exponent, hshape⟩ := h
    have htext : numberText (.float x) =
        String.ofList (Decimal.renderFinite fractionLayout negative mantissa exponent) := by
      rw [numberText, fractionText, Decimal.renderBinary, hshape]
    obtain ⟨y, -, hshort, hread⟩ := readNumber_renderFinite
      (rfl : fractionLayout.keepsPoint = true) (by decide) hshape
    have halone := hread [] endsNumber_nil
    rw [List.append_nil] at halone
    rw [htext]
    refine ⟨.float y, parse_of_readNumber halone, fun h => ?_⟩
    exact congrArg Number.float
      (hshort ((h negative mantissa exponent hshape).imp_right fun hties => hties _))

/-- A text as it is spelled after it was printed and read: a JSON number is spelled as the number
that is read from its print is in labels, and any other text stays. -/
def respell (numeral : String) : String :=
  match parse numeral with
  | .ok (.number n) => numberText n.reread
  | _ => numeral

/-- A JSON number is spelled anew. -/
theorem respell_of_parse {numeral : String} {n : Number} (h : parse numeral = .ok (.number n)) :
    respell numeral = numberText n.reread := by
  unfold respell
  rw [h]

/-- Any other text stays. -/
theorem respell_of_not_number {numeral : String} (h : ¬∃ n, parse numeral = .ok (.number n)) :
    respell numeral = numeral := by
  unfold respell
  split
  next n hparse => exact absurd ⟨n, hparse⟩ h
  next => rfl

/-- A JSON number is printed as the number. -/
theorem numeralJson_of_parse {numeral : String} {n : Number}
    (h : parse numeral = .ok (.number n)) : numeralJson numeral = .number n := by
  unfold numeralJson
  rw [h]

/-- Any other text is printed as a text. -/
theorem numeralJson_of_not_number {numeral : String} (h : ¬∃ n, parse numeral = .ok (.number n)) :
    numeralJson numeral = .string numeral := by
  unfold numeralJson
  split
  next n hparse => exact absurd ⟨n, hparse⟩ h
  next => rfl

/-- The JSON that is read from the print of a text. -/
def rereadJson (numeral : String) : Json :=
  match parse numeral with
  | .ok (.number n) => .number n.reread
  | _ => .string numeral

/-- A text stays as it is if and only if it is no JSON number other than as the number that is read
from its print is written in labels. -/
theorem respell_eq_self_iff {numeral : String} :
    respell numeral = numeral ↔
      ∀ n, parse numeral = .ok (.number n) → numberText n.reread = numeral := by
  constructor
  · intro hself n hparse
    rw [← respell_of_parse hparse, hself]
  · intro h
    rcases Classical.em (∃ n, parse numeral = .ok (.number n)) with ⟨n, hparse⟩ | hother
    · rw [respell_of_parse hparse, h n hparse]
    · exact respell_of_not_number hother

/-- The text of a short number stays as it is if and only if it is spelled as in labels. -/
theorem respell_eq_self_iff_of_isShort {numeral : String} {n : Number}
    (hparse : parse numeral = .ok (.number n)) (h : n.IsShort) :
    respell numeral = numeral ↔ numberText n = numeral := by
  rw [respell_of_parse hparse, reread_of_isShort (isPrintable_of_parse hparse) h]

/-- In labels, a short number is spelled as it stays. -/
theorem respell_numberText {n : Number} (hprintable : n.IsPrintable) (h : n.IsShort) :
    respell (numberText n) = numberText n := by
  obtain ⟨found, hparse, hfound⟩ := exists_parse_numberText hprintable
  obtain rfl := hfound h
  exact (respell_eq_self_iff_of_isShort hparse h).2 rfl

/-- A value with its text spelled anew, if it is a number. -/
def respelled : Value → Value
  | double numeral => double (respell numeral)
  | other => other

/-- Other values stay as they are. -/
theorem respelled_of_not_double {value : Value} (h : ∀ numeral, value ≠ .double numeral) :
    value.respelled = value := by
  unfold respelled
  split
  next numeral => exact absurd rfl (h numeral)
  next => rfl

/-- A value is a number or none. -/
theorem double_or (value : Value) :
    (∃ numeral, value = .double numeral) ∨ ∀ numeral, value ≠ .double numeral := by
  cases value with
  | double numeral => exact .inl ⟨numeral, rfl⟩
  | text s => exact .inr nofun
  | boolean b => exact .inr nofun
  | inSet members => exact .inr nofun

/-! ## What is read -/

/-- The draft of a kind and a value holds no number that cannot be printed. -/
def Draft.IsPrintable (draft : Draft) : Prop :=
  ∀ value ∈ draft.value, ∀ n, value = .number n → n.IsPrintable

/-- Each field of a value keeps it so. -/
theorem record_keeps : ∀ field ∈ record.fields, field.Keeps Draft.IsPrintable := by
  have hvalue : Yields readValue fun value => ∀ n, value = .number n → n.IsPrintable := by
    intro scope input rest value hread n hnumber
    rw [hnumber] at hread
    exact isPrintable_of_readAny hread
  refine List.forall_mem_cons.2 ⟨?_, List.forall_mem_singleton.2 ?_⟩
  · refine hvalue.keeps fun draft value _ hprintable given hgiven => ?_
    obtain rfl := Option.some.inj hgiven
    exact hprintable
  · exact (yields_true readString).keeps fun draft _ hdraft _ => hdraft

/-- A number that is read with its kind can be printed. -/
theorem yields_isPrintable :
    Yields record.read fun given => ∀ n, given.2 = .number n → n.IsPrintable := by
  intro scope input rest given hread
  obtain ⟨draft, hdraft, hbuild⟩ := record.yields record_keeps nofun hread
  obtain ⟨value, hvalue, hbuild⟩ := bind_eq_ok_iff.1 hbuild
  obtain rfl := Except.ok.inj hbuild
  exact hdraft value (eq_some_of_require hvalue)

/-- A text that stands for a number: in labels, or as JSON. -/
def IsNumber (numeral : String) : Prop :=
  isNumeral numeral = true ∨ ∃ n, parse numeral = .ok (.number n)

/-- A truth value has its kind. -/
theorem kind_of_readBoolean {json : Json} {value : Value} (h : readBoolean json = .ok value) :
    value.parts.1 = booleanKind := by
  unfold readBoolean at h
  split at h
  next b =>
    obtain rfl := Except.ok.inj h
    rfl
  next s =>
    split at h
    · obtain rfl := Except.ok.inj h
      rfl
    split at h
    · obtain rfl := Except.ok.inj h
      rfl
    · cases h
  next => cases h

/-- A number has its kind. -/
theorem kind_of_readDouble {json : Json} {value : Value} (h : readDouble json = .ok value) :
    value.parts.1 = doubleKind := by
  unfold readDouble at h
  split at h
  next n =>
    obtain rfl := Except.ok.inj h
    rfl
  next s =>
    split at h
    · obtain rfl := Except.ok.inj h
      rfl
    · cases h
  next => cases h

/-- A set has its kind. -/
theorem kind_of_readInSet {json : Json} {value : Value} (h : readInSet json = .ok value) :
    value.parts.1 = inSetKind := by
  unfold readInSet at h
  split at h
  next items =>
    obtain rfl := Except.ok.inj h
    rfl
  next => cases h

/-- A value has the kind under which it is given. -/
theorem kind_of_ofJson {kind : String} {json : Json} {value : Value}
    (h : ofJson kind json = .ok value) : value.parts.1 = kind := by
  unfold ofJson at h
  split at h
  next hkind =>
    obtain rfl := Except.ok.inj h
    exact hkind.symm
  split at h
  next hkind => rw [hkind, kind_of_readBoolean h]
  split at h
  next hkind => rw [hkind, kind_of_readDouble h]
  split at h
  next hkind => rw [hkind, kind_of_readInSet h]
  next => cases h

/-- What is given under the kind of numbers is read as one. -/
theorem ofJson_doubleKind (json : Json) : ofJson doubleKind json = readDouble json := by
  have htext : doubleKind ≠ textKind := by decide
  have hboolean : doubleKind ≠ booleanKind := by decide
  rw [ofJson, if_neg htext, if_neg hboolean, if_pos rfl]

/-- The text of a number that is given stands for a number. -/
theorem isNumber_of_ofJson {kind : String} {json : Json} {numeral : String}
    (hprintable : ∀ n, json = .number n → n.IsPrintable)
    (h : ofJson kind json = .ok (.double numeral)) : IsNumber numeral := by
  have hkind : doubleKind = kind := kind_of_ofJson h
  rw [← hkind, ofJson_doubleKind] at h
  unfold readDouble at h
  split at h
  next n =>
    obtain rfl := Value.double.inj (Except.ok.inj h)
    obtain ⟨found, hparse, -⟩ := exists_parse_numberText (hprintable n rfl)
    exact .inr ⟨found, hparse⟩
  next s =>
    split at h
    next hnumeral =>
      obtain rfl := Value.double.inj (Except.ok.inj h)
      exact .inl hnumeral
    next => cases h
  next => cases h

/-- The text of a number is read from the JSON of its print as it is spelled anew. -/
theorem ofJson_rereadJson {numeral : String} (h : IsNumber numeral) :
    ofJson doubleKind (rereadJson numeral) = .ok (.double (respell numeral)) := by
  rw [ofJson_doubleKind]
  unfold rereadJson respell
  split
  next n hparse => rfl
  next hother =>
    have hnumeral : isNumeral numeral = true :=
      h.resolve_right fun ⟨n, hparse⟩ => hother n hparse
    exact if_pos hnumeral

/-- The JSON of a number's text is read from its print. -/
theorem reads_numeralJson (numeral : String) :
    Reads readValue 0 (numeralJson numeral).render (rereadJson numeral) := by
  unfold rereadJson
  split
  next n hparse =>
    rw [numeralJson_of_parse hparse]
    exact reads_number (isPrintable_of_parse hparse) 0
  next hother =>
    rw [numeralJson_of_not_number fun ⟨n, hparse⟩ => hother n hparse]
    exact reads_value fun _ => .string numeral

/-- The text of a number is read from its printed value as it is spelled anew. -/
theorem reads_double {numeral : String} (h : IsNumber numeral) :
    Reads read 2 (double numeral).toJson.render (.double (respell numeral)) := by
  have hkind := (reads_kind doubleKind (reads_numeralJson numeral)).mono (Nat.le_succ 1)
  exact hkind.refined (ofJson_rereadJson h)

/-! ## Round trips -/

/-- The text of a value that is a number stands for one. -/
def IsReadable (value : Value) : Prop := ∀ numeral, value = .double numeral → IsNumber numeral

/-- A value that is given can be read from its printed value. -/
theorem isReadable_of_readDocument {text : String} {value : Value}
    (h : readDocument read text = .ok value) : value.IsReadable := by
  obtain ⟨given, hgiven, hvalue⟩ := exists_of_readDocument_refined h
  obtain ⟨rest, hread, -⟩ := readDocument_eq_ok_iff.1 hgiven
  rintro numeral rfl
  exact isNumber_of_ofJson (yields_isPrintable hread) hvalue

/-- A value that is printed is read as it is spelled anew. -/
theorem readDocument_print {value : Value} (h : value.IsReadable) :
    readDocument read value.toJson.print = .ok value.respelled := by
  have hreads : Reads read 2 value.toJson.render value.respelled := by
    rcases value.double_or with ⟨numeral, rfl⟩ | hother
    · exact reads_double (h numeral rfl)
    · rw [respelled_of_not_double hother]
      exact reads_toJson hother
  exact hreads.readDocument_eq (by decide)

/-- A value stays as it is if and only if its text does. -/
theorem respelled_double_iff {numeral : String} :
    (double numeral).respelled = double numeral ↔ respell numeral = numeral :=
  ⟨Value.double.inj, congrArg double⟩

/-- How a value that was read from a text comes back from its own. -/
structure Respells (text : String) (value : Value) : Prop where
  /-- The printed value is read, and comes back as it is spelled anew. -/
  read : readDocument read value.toJson.print = .ok value.respelled
  /-- The kind stays. -/
  kind : value.respelled.parts.1 = value.parts.1
  /-- The value comes back as it was, unless it is a number whose text is a JSON number that is
  spelled otherwise than the number that is read from its print is in labels. -/
  eq_iff : value.respelled = value ↔ ∀ numeral n, value = .double numeral →
    parse numeral = .ok (.number n) → numberText n.reread = numeral
  /-- An integer, and a fraction with few digits, is the number that is read from its print. So it
  comes back if and only if it is spelled as in labels. -/
  short_iff : ∀ numeral n, value = .double numeral → parse numeral = .ok (.number n) →
    n.IsShort → (value.respelled = value ↔ numberText n = numeral)
  /-- What a label is compared with comes back if and only if the value does. -/
  literal_iff : value.respelled.literal = value.literal ↔ value.respelled = value
  /-- If it was given as a JSON number, it comes back as it was. -/
  number : ∀ n, readDocument record.read text = .ok (doubleKind, .number n) → n.IsShort →
    value.respelled = value

/-- Every value that is read comes back from its text, a number as what is read from its print is
spelled in labels. -/
theorem respells {text : String} {value : Value} (h : readDocument Value.read text = .ok value) :
    Respells text value where
  read := readDocument_print (isReadable_of_readDocument h)
  kind := by
    rcases value.double_or with ⟨numeral, rfl⟩ | hother
    · rfl
    · rw [respelled_of_not_double hother]
  eq_iff := by
    rcases value.double_or with ⟨numeral, rfl⟩ | hother
    · rw [respelled_double_iff, respell_eq_self_iff]
      constructor
      · rintro hspelled _ n ⟨⟩
        exact hspelled n
      · exact fun hspelled n => hspelled numeral n rfl
    · exact iff_of_true (respelled_of_not_double hother)
        fun numeral n hvalue => absurd hvalue (hother numeral)
  literal_iff := by
    refine ⟨fun hliteral => ?_, congrArg literal⟩
    rcases value.double_or with ⟨numeral, rfl⟩ | hother
    · exact respelled_double_iff.2 (quote_inj.1 hliteral)
    · exact respelled_of_not_double hother
  short_iff := by
    rintro numeral n rfl hparse hshort
    rw [respelled_double_iff, respell_eq_self_iff_of_isShort hparse hshort]
  number n hnumber hshort := by
    -- What is read before it is refined is the number itself, so its text is the one in labels.
    obtain ⟨given, hgiven, hvalue⟩ := exists_of_readDocument_refined h
    rw [hnumber] at hgiven
    obtain rfl := Except.ok.inj hgiven
    obtain ⟨rest, hread, -⟩ := readDocument_eq_ok_iff.1 hnumber
    have hprintable : n.IsPrintable := yields_isPrintable hread n rfl
    dsimp only at hvalue
    rw [ofJson_doubleKind] at hvalue
    obtain rfl := Except.ok.inj hvalue
    exact congrArg double (respell_numberText hprintable hshort)

/-- A number with many digits, which is rounded twice each time that it is read, comes back as the
next one. -/
example :
    readDocument Value.read
        "\x7b\"value\":51.2481783755054040,\"_type\":\"DoubleValue\"\x7d" =
      .ok (double "51.248178375505404") ∧
      (double "51.248178375505404").respelled = double "51.24817837550541" := by
  decide +kernel

/-- A number beyond those that labels have positionally. -/
def largeNumber : String := "\x7b\"value\": 1e16, \"_type\": \"DoubleValue\"\x7d"

/-- It is printed without the sign of its exponent, and comes back with it. -/
theorem respells_largeNumber :
    readDocument Value.read largeNumber = .ok (double "1e+16") ∧
      Respells largeNumber (double "1e+16") := by
  have hread : readDocument Value.read largeNumber = .ok (double "1e+16") := by decide +kernel
  exact ⟨hread, respells hread⟩

/-- A number as a text with a zero at its end comes back without it, and is compared with another
text. -/
theorem reread_trailingZero :
    readDocument Value.read "\x7b\"value\":\"2.50\",\"_type\":\"DoubleValue\"\x7d" =
        .ok (double "2.50") ∧
      (double "2.50").toJson.print = "\x7b\"value\":2.5,\"_type\":\"DoubleValue\"\x7d" ∧
      readDocument Value.read (double "2.50").toJson.print = .ok (double "2.5") ∧
      (double "2.5").literal ≠ (double "2.50").literal := by
  decide +kernel

end MetricGateway.Condition.Value
