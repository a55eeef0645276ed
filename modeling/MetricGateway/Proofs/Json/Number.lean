import MetricGateway.Proofs.Json.Fraction
import MetricGateway.Proofs.Json.Record
import MetricGateway.Proofs.Json.Yields

/-!
# Numbers that are read and printed

Every number that is read from a JSON text can be printed (`isPrintable_of_parse`): an integer fits
its word, and a fraction is finite. What is printed is read again, whatever it is
(`readNumber_render`): an integer and a fraction with few digits as themselves
(`reread_of_isShort`), and any other fraction as one near it.
-/

namespace MetricGateway

namespace Json

open Success

/-- A number that has a text: an integer of 64 bits, or a finite fraction. -/
def Number.IsPrintable : Number → Prop
  | .integer n => FitsWord n
  | .float x => ∃ negative mantissa exponent, x.shape = .finite negative mantissa exponent

/-! ## What is read can be printed -/

/-- A number that is accepted can be printed. -/
theorem isPrintable_of_toNumber {numeral : Numeral} {n : Number} (h : numeral.toNumber = .ok n) :
    n.IsPrintable := by
  unfold Numeral.toNumber at h
  split at h
  next i hint =>
    cases h
    exact Numeral.fitsWord_of_toInt? hint
  next hint =>
    split at h
    · cases h
    next hfinite =>
      cases h
      -- Rounding stops at infinity, which is refused.
      have hparts := magnitude_ofParts_le numeral.parts_fst_le numeral.parts.2
      have hle : numeral.toBinary.magnitude ≤ Binary64.infinityBits :=
        (Binary64.magnitude_ofMagnitude hparts).trans_le hparts
      exact Binary64.exists_shape_finite (Nat.lt_of_le_of_ne hle hfinite)

/-- A number that is read can be printed. -/
theorem isPrintable_of_readNumber {text rest : List Char} {n : Number}
    (h : readNumber text = .ok (n, rest)) : n.IsPrintable := by
  obtain ⟨⟨numeral, afterNumeral⟩, -, h⟩ := bind_eq_ok_iff.1 h
  obtain ⟨number, hnumber, h⟩ := bind_eq_ok_iff.1 h
  obtain ⟨rfl, -⟩ := Prod.mk.inj (Except.ok.inj h)
  exact isPrintable_of_toNumber hnumber

/-- A number that is read as a value can be printed. -/
theorem isPrintable_of_readAny {mark : Option Char} {depth : Nat} {input rest : List Char}
    {n : Number} (h : readAny mark depth input = .ok (.number n, rest)) : n.IsPrintable := by
  rw [readAny] at h
  obtain ⟨⟨found, afterScalar⟩, hscalar, h⟩ := bind_eq_ok_iff.1 h
  cases found with
  | number found =>
    obtain ⟨hnumber, -⟩ := Prod.mk.inj (Except.ok.inj h)
    obtain rfl := Json.number.inj hnumber
    obtain ⟨text, hread⟩ := exists_readNumber_of_readScalar hscalar
    exact isPrintable_of_readNumber hread
  -- No other value is a number.
  | null | boolean b | string s => cases h
  | array | object =>
    dsimp only at h
    split at h
    · cases h
    · obtain ⟨_, -, h⟩ := bind_eq_ok_iff.1 h
      cases h

/-- A text that is a number is the text of one that can be printed. -/
theorem isPrintable_of_parse {text : String} {n : Number} (h : parse text = .ok (.number n)) :
    n.IsPrintable := by
  obtain ⟨⟨value, rest⟩, hread, h⟩ := bind_eq_ok_iff.1 h
  obtain ⟨rfl, -⟩ := finishDocument_eq_ok_iff.1 h
  exact isPrintable_of_readAny hread

/-! ## What is printed is read -/

/-- The number that is read from the text of a number. -/
def Number.reread (n : Number) : Number :=
  match readNumber n.render with
  | .ok (found, _) => found
  | .error _ => n

/-- A number with few digits: an integer, or a fraction whose shortest decimal is short, whichever
way ties go. -/
def Number.IsShort : Number → Prop
  | .integer _ => True
  | .float x => ∀ negative mantissa exponent, x.shape = .finite negative mantissa exponent →
      mantissa = 0 ∨ ∀ tie, Json.IsShort (Decimal.shortest tie mantissa exponent)

/-- A number that can be printed is read from its text as one that can be printed, and as itself if
it is short. -/
theorem exists_readNumber_render {n : Number} (h : n.IsPrintable) :
    ∃ found : Number, found.IsPrintable ∧ (n.IsShort → found = n) ∧
      ∀ rest, EndsNumber rest → readNumber (n.render ++ rest) = .ok (found, rest) := by
  cases n with
  | integer n => exact ⟨.integer n, h, fun _ => rfl, fun rest hrest => readNumber_renderInt h hrest⟩
  | float x =>
    obtain ⟨negative, mantissa, exponent, hshape⟩ := h
    have htext : (Number.float x).render =
        Decimal.renderFinite fractionLayout negative mantissa exponent := by
      rw [Number.render, renderFraction, hshape]
    obtain ⟨y, hfinite, hshort, hread⟩ := readNumber_renderFinite
      (rfl : fractionLayout.keepsPoint = true) (by decide) hshape
    rw [htext]
    refine ⟨.float y, Binary64.exists_shape_finite hfinite, fun h => ?_, hread⟩
    exact congrArg Number.float
      (hshort ((h negative mantissa exponent hshape).imp_right fun hties => hties _))

section

variable {n : Number} (h : n.IsPrintable)

include h

/-- The number that is read from the text of a number is the one that is read wherever the text
ends. -/
theorem readNumber_render {rest : List Char} (hrest : EndsNumber rest) :
    readNumber (n.render ++ rest) = .ok (n.reread, rest) := by
  obtain ⟨found, -, -, hread⟩ := exists_readNumber_render h
  have halone := hread [] endsNumber_nil
  rw [List.append_nil] at halone
  unfold Number.reread
  rw [halone, hread rest hrest]

/-- A short number comes back from its text. -/
theorem reread_of_isShort (hshort : n.IsShort) : n.reread = n := by
  obtain ⟨found, -, hfound, hread⟩ := exists_readNumber_render h
  have hsame := (readNumber_render h endsNumber_nil).symm.trans (hread [] endsNumber_nil)
  rw [(Prod.mk.inj (Except.ok.inj hsame)).1]
  exact hfound hshort

end

/-- A whole part begins with a digit. -/
theorem isDigit_of_readWhole {c : Char} {text digits rest : List Char}
    (h : readWhole (c :: text) = .ok (digits, rest)) : c.isDigit = true := by
  by_contra hdigit
  have hnone : readSomeDigits (c :: text) = fail .badNumber := by
    unfold readSomeDigits Text.splitDigits
    rw [List.takeWhile_cons_of_neg hdigit, List.dropWhile_cons_of_neg hdigit]
  unfold readWhole at h
  rw [hnone] at h
  cases h

/-- A number begins with its sign or a digit. -/
theorem begins_of_readNumber {text rest : List Char} {n : Number}
    (h : readNumber text = .ok (n, rest)) :
    ∃ c, Begins text c ∧ (c = '-' ∨ c.isDigit = true) := by
  obtain ⟨⟨numeral, afterNumeral⟩, hnumeral, -⟩ := bind_eq_ok_iff.1 h
  unfold readNumeral at hnumeral
  split at hnumeral
  next negative unsigned heq =>
  obtain ⟨⟨whole, afterWhole⟩, hwhole, -⟩ := bind_eq_ok_iff.1 hnumeral
  split at heq
  · exact ⟨'-', .cons (by decide) (by decide) _, .inl rfl⟩
  · -- Without a sign, the whole part is what comes first.
    obtain rfl := (Prod.mk.inj heq).2
    cases text with
    | nil => cases hwhole
    | cons c text =>
      have hdigit := isDigit_of_readWhole hwhole
      exact ⟨c, .cons (begins_digit hdigit).1 (begins_digit hdigit).2.1 text, .inr hdigit⟩

/-- A sign or a digit leads to a value that is a number. -/
theorem readAny_of_begins {text : List Char} {c : Char} (h : Begins text c)
    (hc : c = '-' ∨ c.isDigit = true) (mark : Option Char) (depth : Nat) :
    readAny mark depth text = (readNumber text >>= fun read => pure (.number read.1, read.2)) := by
  rw [readAny, readScalar_of_begins h hc]
  cases readNumber text with
  | error fault => rfl
  | ok read => rfl

/-- A token is read as a value that is its number, or refused with it. -/
theorem readAny_text (token : NumberToken) {rest : List Char} (h : EndsNumber rest)
    (mark : Option Char) (depth : Nat) :
    readAny mark depth (token.text ++ rest) =
      (token.numeral.toNumber >>= fun n => pure (.number n, rest)) := by
  obtain ⟨c, hbegins, hc⟩ := token.begins_text
  rw [readAny_of_begins (hbegins.append rest) hc, token.readNumber_text h]
  cases token.numeral.toNumber with
  | error fault => rfl
  | ok n => rfl

/-- A text that is read as a number is read as a value that is this number. -/
theorem readAny_of_readNumber {text rest : List Char} {n : Number}
    (h : readNumber text = .ok (n, rest)) (mark : Option Char) (depth : Nat) :
    readAny mark depth text = .ok (.number n, rest) := by
  obtain ⟨c, hbegins, hc⟩ := begins_of_readNumber h
  rw [readAny_of_begins hbegins hc, h]
  rfl

/-- A number that can be printed is read as a value from its text. -/
theorem reads_number {n : Number} (h : n.IsPrintable) (depth : Nat) :
    Reads readValue depth (Json.number n).render (.number n.reread) := by
  intro scope rest _ _ hrest
  exact readAny_of_readNumber (readNumber_render h hrest) scope.mark scope.depth

/-- A whole text that is read as a number is a document of this number. -/
theorem parse_of_readNumber {text : List Char} {n : Number}
    (h : readNumber text = .ok (n, [])) : parse (String.ofList text) = .ok (.number n) := by
  unfold parse
  rw [String.toList_ofList, readAny_of_readNumber h]
  rfl

end Json

end MetricGateway
