import MetricGateway.Decimal.Reading
import MetricGateway.Text.Basic

/-!
# Which texts are read as not-a-number

Reading gives not-a-number for its name in any letter case, with or without a sign, and for nothing
else (`isNaN_readNumber_iff`): digits give a number or an infinity, since rounding stops there.
-/

namespace MetricGateway

namespace Binary64

/-- Up to infinity, a magnitude leaves the sign bit alone. -/
theorem magnitude_ofMagnitude {negative : Bool} {magnitude : Nat} (h : magnitude ≤ infinityBits) :
    (ofMagnitude negative magnitude).magnitude = magnitude := by
  unfold Binary64.magnitude ofMagnitude
  rw [UInt64.toNat_ofNat']
  unfold infinityBits at h
  unfold signBit
  split <;> omega

/-- Up to infinity, a magnitude stands for a number or an infinity. -/
theorem isNaN_ofMagnitude {negative : Bool} {magnitude : Nat} (h : magnitude ≤ infinityBits) :
    (ofMagnitude negative magnitude).isNaN = false := by
  unfold isNaN
  rw [magnitude_ofMagnitude h]
  exact decide_eq_false (Nat.not_lt.2 h)

/-- Rounding stops at infinity. -/
theorem nearestMagnitude_le (num den : Nat) : nearestMagnitude num den ≤ infinityBits := by
  unfold nearestMagnitude
  split
  · exact Nat.zero_le _
  · exact Nat.min_le_right _ _

/-- Decimal digits never stand for not-a-number. -/
theorem isNaN_ofDecimal (negative : Bool) (digits : Nat) (exponent : Int) :
    (ofDecimal negative digits exponent).isNaN = false := by
  unfold ofDecimal
  split
  · exact isNaN_ofMagnitude (Nat.zero_le _)
  split
  · exact isNaN_ofMagnitude (Nat.le_refl _)
  split
  · exact isNaN_ofMagnitude (Nat.zero_le _)
  · exact isNaN_ofMagnitude (nearestMagnitude_le _ _)

end Binary64

namespace Decimal

/-- A text is a sign and the name of not-a-number, in any letter case. -/
def SpellsSignedNaN (text : String) : Prop :=
  ∃ name, Text.lowerCase name = "nan" ∧ (text = "+" ++ name ∨ text = "-" ++ name)

/-- Characters are the name of not-a-number, in any letter case. -/
def NamesNaN (text : List Char) : Prop := text.map Char.toLower = ['n', 'a', 'n']

instance decidableNamesNaN (text : List Char) : Decidable (NamesNaN text) :=
  inferInstanceAs (Decidable (_ = _))

/-- A text is the name of not-a-number in lower case if its characters are. -/
theorem lowerCase_eq_nan_iff {text : String} :
    Text.lowerCase text = "nan" ↔ NamesNaN text.toList := by
  unfold Text.lowerCase NamesNaN
  rw [← String.toList_inj, String.toList_ofList]
  rfl

/-- A text is a signed name if its characters are a sign and the name. -/
theorem spellsSignedNaN_iff {text : String} :
    SpellsSignedNaN text ↔
      ∃ name, NamesNaN name ∧ (text.toList = '+' :: name ∨ text.toList = '-' :: name) := by
  unfold SpellsSignedNaN
  constructor
  · rintro ⟨name, hname, htext⟩
    refine ⟨name.toList, lowerCase_eq_nan_iff.1 hname, ?_⟩
    rcases htext with rfl | rfl
    · exact .inl (String.toList_append ..)
    · exact .inr (String.toList_append ..)
  · rintro ⟨name, hname, htext⟩
    refine ⟨String.ofList name, ?_, ?_⟩
    · rw [lowerCase_eq_nan_iff, String.toList_ofList]
      exact hname
    · simp only [← String.toList_inj, String.toList_append, String.toList_ofList]
      exact htext

/-- The name without a sign has none. -/
theorem lowerCase_ne_nan_of_spellsSignedNaN {text : String} (h : SpellsSignedNaN text) :
    Text.lowerCase text ≠ "nan" := by
  obtain ⟨name, -, htext⟩ := spellsSignedNaN_iff.1 h
  rw [ne_eq, lowerCase_eq_nan_iff]
  unfold NamesNaN
  rcases htext with htext | htext <;> rw [htext] <;> simp

/-- What the name stands for is not-a-number. -/
theorem isNaN_notANumber (negative : Bool) : (notANumber negative).isNaN = true := by
  cases negative <;> decide

/-- Digits that are read are a number or an infinity. -/
theorem isNaN_of_readDigits {negative : Bool} {text : List Char} {x : Binary64}
    (h : readDigits negative text = some x) : x.isNaN = false := by
  have hexponent : ∃ digits : Nat, ∃ shift : Int, ∃ tail,
      (readExponent tail).map (fun exponent =>
        Binary64.ofDecimal negative digits (exponent - shift)) = some x := by
    unfold readDigits at h
    dsimp only at h
    split at h
    · cases h
    · exact ⟨_, _, _, h⟩
  obtain ⟨digits, shift, tail, hmap⟩ := hexponent
  obtain ⟨exponent, -, rfl⟩ := Option.map_eq_some_iff.1 hmap
  exact Binary64.isNaN_ofDecimal _ _ _

/-- An unsigned text is read as not-a-number if and only if it is its name. -/
theorem isNaN_readMagnitude_iff {negative : Bool} {text : List Char} :
    (∃ x, readMagnitude negative text = some x ∧ x.isNaN = true) ↔ NamesNaN text := by
  have hname (word : String) :
      String.ofList (text.map Char.toLower) = word ↔ text.map Char.toLower = word.toList := by
    rw [← String.toList_inj, String.toList_ofList]
  unfold readMagnitude NamesNaN
  simp only [hname]
  split
  · next hinfinity =>
    have hnumber : (Binary64.ofMagnitude negative Binary64.infinityBits).isNaN = false :=
      Binary64.isNaN_ofMagnitude (Nat.le_refl _)
    have hother : text.map Char.toLower ≠ ['n', 'a', 'n'] := by
      rcases hinfinity with h | h <;> rw [h] <;> decide
    constructor
    · rintro ⟨x, hread, hx⟩
      cases hread
      exact absurd (hnumber.symm.trans hx) Bool.false_ne_true
    · exact fun h => absurd h hother
  split
  · next hnan => exact ⟨fun _ => hnan, fun _ => ⟨_, rfl, isNaN_notANumber negative⟩⟩
  · next hnan =>
    constructor
    · rintro ⟨x, hread, hx⟩
      exact absurd ((isNaN_of_readDigits hread).symm.trans hx) Bool.false_ne_true
    · exact fun h => absurd h hnan

/-- What is behind the sign is the name if and only if the text is the name, with or without a
sign. -/
theorem namesNaN_splitSign_iff {text : List Char} :
    NamesNaN (splitSign text).2 ↔
      NamesNaN text ∨ ∃ name, NamesNaN name ∧ (text = '+' :: name ∨ text = '-' :: name) := by
  unfold splitSign
  split
  · simp [NamesNaN]
  · simp [NamesNaN]
  · next hminus hplus =>
    constructor
    · exact .inl
    · rintro (h | ⟨name, -, rfl | rfl⟩)
      · exact h
      · exact absurd rfl (hplus name)
      · exact absurd rfl (hminus name)

instance decidableSpellsSignedNaN (text : String) : Decidable (SpellsSignedNaN text) :=
  decidable_of_iff (NamesNaN (splitSign text.toList).2 ∧ ¬NamesNaN text.toList) (by
    rw [namesNaN_splitSign_iff, ← spellsSignedNaN_iff, ← lowerCase_eq_nan_iff]
    exact ⟨fun h => h.1.resolve_left h.2,
      fun h => ⟨.inr h, lowerCase_ne_nan_of_spellsSignedNaN h⟩⟩)

/-- A text is read as the magnitude behind its sign, unless it is empty. -/
theorem readNumber_eq_ok_iff {text : String} {x : Binary64} :
    readNumber text = .ok x ↔ text.toList ≠ [] ∧
      readMagnitude (splitSign text.toList).1 (splitSign text.toList).2 = some x := by
  unfold readNumber
  split
  · next hempty => simp [hempty]
  · next hempty =>
    dsimp only
    split
    · next y hread => simp [hread, hempty]
    · next hread => simp [hread]

/-- A text is read as not-a-number if and only if it is its name, with or without a sign. -/
theorem isNaN_readNumber_iff {text : String} :
    (∃ x, readNumber text = .ok x ∧ x.isNaN = true) ↔
      Text.lowerCase text = "nan" ∨ SpellsSignedNaN text := by
  rw [lowerCase_eq_nan_iff, spellsSignedNaN_iff, ← namesNaN_splitSign_iff]
  simp only [readNumber_eq_ok_iff, and_assoc, exists_and_left]
  rw [isNaN_readMagnitude_iff]
  constructor
  · exact And.right
  · intro hname
    refine ⟨?_, hname⟩
    -- Nothing is behind the sign of the empty text.
    intro hempty
    rw [hempty] at hname
    cases hname

end Decimal

end MetricGateway
