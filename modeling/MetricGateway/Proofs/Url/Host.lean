import Mathlib.Data.Bool.AllAny
import MetricGateway.Proofs.Text.Form
import MetricGateway.Url.Host

/-!
# How hosts are written

A host that is read as it is written is either a name without signs that mean something in a URL, or
an address between brackets (`Host.isWritten_render`).
-/

namespace MetricGateway

namespace Text

/-- What holds of all basic characters, shown for their numbers. -/
theorem forall_basic {p : Char → Prop} (h : ∀ n < 128, p (Char.ofNat n)) {c : Char}
    (hc : c.toNat < 128) : p c := by
  have hp := h c.toNat hc
  rwa [Char.ofNat_toNat] at hp

/-- A character that can be seen, of the basic ones. -/
def IsGraphic (c : Char) : Prop := 0x20 < c.toNat ∧ c.toNat < 0x7F

instance (c : Char) : Decidable (IsGraphic c) := inferInstanceAs (Decidable (_ ∧ _))

/-- A character that can be seen is one of ASCII. -/
theorem IsGraphic.lt {c : Char} (h : IsGraphic c) : c.toNat < 128 := by
  have := h.2
  omega

/-- Without percent signs a text stands for its own bytes. -/
theorem percentDecode_of_not_mem {text : List Char} (h : '%' ∉ text) :
    percentDecode text = utf8Of text := by
  induction text with
  | nil => rfl
  | cons c rest ih =>
    have hc : c ≠ '%' := by
      rintro rfl
      exact h List.mem_cons_self
    rw [percentDecode_cons_of_ne hc, ih fun hrest => h (List.mem_cons_of_mem _ hrest)]
    rfl

/-- The digits of a number are those of single digits. -/
theorem exists_of_mem_toDigits {base n : Nat} (hbase : 1 < base) {c : Char}
    (h : c ∈ Nat.toDigits base n) : ∃ d < base, c = Nat.digitChar d := by
  induction n using Nat.strongRecOn with
  | ind n ih =>
    by_cases hlt : n < base
    · rw [Nat.toDigits_of_lt_base hlt, List.mem_singleton] at h
      exact ⟨n, hlt, h⟩
    · rw [Nat.toDigits_of_base_le hbase (by omega), List.mem_append, List.mem_singleton] at h
      rcases h with h | rfl
      · exact ih (n / base) (Nat.div_lt_self (by omega) hbase) h
      · exact ⟨n % base, Nat.mod_lt n (by omega), rfl⟩

end Text

open Text

namespace Domain

/-- A text comes back from its bytes. -/
theorem textOf_utf8Of (text : List Char) : textOf (utf8Of text) = some text := by
  unfold textOf
  rw [characters_utf8Of]
  induction text with
  | nil => rfl
  | cons c rest ih =>
    rw [List.map_cons, List.mapM_cons, ih]
    rfl

/-- A visible character is forbidden if and only if what it is folded to is. -/
theorem isForbidden_of_fold {c : Char} (hvisible : IsGraphic c)
    (h : (fold c).any isForbidden = false) : isForbidden c = false := by
  exact forall_basic (p := fun c => IsGraphic c → (fold c).any isForbidden = false →
    isForbidden c = false) (by decide) hvisible.lt hvisible h

/-- No character of a domain is forbidden. -/
theorem isForbidden_of_ofEncoded {text name : List Char} (hvisible : ∀ c ∈ text, IsGraphic c)
    (hpercent : '%' ∉ text) (h : ofEncoded text = some name) :
    ∀ c ∈ text, isForbidden c = false := by
  intro c hc
  unfold ofEncoded at h
  rw [percentDecode_of_not_mem hpercent, textOf_utf8Of] at h
  -- What is looked at is the folded text, so forbidden characters are found behind their folding.
  change (if (text.flatMap fold).any isForbidden then none else _) = _ at h
  split at h
  · cases h
  next hfolded =>
  rw [Bool.not_eq_true, List.any_flatMap, List.any_eq_false] at hfolded
  have hfold : (fold c).any isForbidden = false := by simpa using hfolded c hc
  exact isForbidden_of_fold (hvisible c hc) hfold

end Domain

namespace Ipv6

/-- The characters of an address. -/
def signs : List Char := "0123456789abcdef:".toList

/-- The digits of a piece. None of them is a colon. -/
theorem mem_toDigits_sixteen {n : Nat} {c : Char} (h : c ∈ Nat.toDigits 16 n) :
    c ∈ signs ∧ c ≠ ':' := by
  have hdigit : ∀ d < 16, Nat.digitChar d ∈ signs ∧ Nat.digitChar d ≠ ':' := by decide
  obtain ⟨d, hd, rfl⟩ := exists_of_mem_toDigits (by decide) h
  exact hdigit d hd

/-- Pieces are joined by colons, one less than there are pieces. -/
theorem renderPieces_spec (pieces : List Nat) :
    (∀ c ∈ renderPieces pieces, c ∈ signs) ∧
      (renderPieces pieces).count ':' = pieces.length - 1 := by
  have hnone (n : Nat) : (Nat.toDigits 16 n).count ':' = 0 :=
    List.count_eq_zero.2 fun h => (mem_toDigits_sixteen h).2 rfl
  -- Colons stand between pieces and not in them.
  induction pieces with
  | nil => exact ⟨fun c h => absurd h List.not_mem_nil, rfl⟩
  | cons piece rest ih =>
    cases rest with
    | nil =>
      have hjoin : renderPieces [piece] = Nat.toDigits 16 piece := List.intercalate_singleton
      rw [hjoin]
      exact ⟨fun c h => (mem_toDigits_sixteen h).1, hnone piece⟩
    | cons next others =>
      have hjoin : renderPieces (piece :: next :: others) =
          Nat.toDigits 16 piece ++ [':'] ++ renderPieces (next :: others) :=
        List.intercalate_cons_cons
      obtain ⟨hsigns, hcount⟩ := ih
      rw [hjoin]
      constructor
      · intro c h
        rcases List.mem_append.1 h with h | h
        · rcases List.mem_append.1 h with h | h
          · exact (mem_toDigits_sixteen h).1
          · rw [List.mem_singleton.1 h]
            decide
        · exact hsigns c h
      · have hcolon : [':'].count ':' = 1 := rfl
        rw [List.count_append, List.count_append, hnone, hcolon, hcount]
        simp only [List.length_cons]
        omega

/-- The longest run of zeros lies within the pieces. -/
theorem longestRun_le (pieces : List Nat) :
    (longestRun pieces).1 + (longestRun pieces).2 ≤ pieces.length := by
  induction pieces with
  | nil => exact Nat.le_refl 0
  | cons piece rest ih =>
    have hzeros : zeros (piece :: rest) ≤ (piece :: rest).length :=
      (List.takeWhile_sublist _).length_le
    unfold longestRun
    dsimp only
    rw [List.length_cons] at hzeros ⊢
    split
    · dsimp only
      omega
    · dsimp only
      omega

/-- An address of eight pieces is written in hexadecimal digits and at most eight colons. -/
theorem render_spec {pieces : List Nat} (h : pieces.length = size) :
    (∀ c ∈ render pieces, c ∈ signs) ∧ (render pieces).count ':' ≤ 8 := by
  have hrun := longestRun_le pieces
  unfold render
  dsimp only
  split
  · obtain ⟨hsigns, hcount⟩ := renderPieces_spec pieces
    unfold size at h
    exact ⟨hsigns, by omega⟩
  · -- Two colons stand for a run of two zeros at least.
    next hlong =>
    obtain ⟨hbefore, hcountBefore⟩ := renderPieces_spec (pieces.take (longestRun pieces).1)
    obtain ⟨hbehind, hcountBehind⟩ :=
      renderPieces_spec (pieces.drop ((longestRun pieces).1 + (longestRun pieces).2))
    constructor
    · intro c hc
      rcases List.mem_append.1 hc with hc | hc
      · exact hbefore c hc
      rcases List.mem_cons.1 hc with rfl | hc
      · decide
      rcases List.mem_cons.1 hc with rfl | hc
      · decide
      · exact hbehind c hc
    · rw [List.count_append, List.count_cons_self, List.count_cons_self, hcountBefore,
        hcountBehind, List.length_take, List.length_drop]
      unfold size at h
      omega

/-- An address that was read has eight pieces. -/
theorem length_of_read {text : List Char} {pieces : List Nat} (h : read text = some pieces) :
    pieces.length = size := by
  unfold read at h
  split at h
  · next before behind _ =>
    split at h
    · cases h
    · obtain ⟨first, -, h⟩ := Option.bind_eq_some_iff.1 h
      obtain ⟨last, -, h⟩ := Option.bind_eq_some_iff.1 h
      split at h
      · next hlength =>
        cases h
        -- Two colons stand for all the zeros that are missing.
        rw [List.length_append, List.length_append, List.length_replicate]
        omega
      · cases h
  · obtain ⟨all, -, hall⟩ := Option.bind_eq_some_iff.1 h
    split at hall
    · next hlength =>
      cases hall
      exact hlength
    · cases hall

end Ipv6

namespace Host

/-- How hosts are written: as a name without forbidden signs, or as an address between brackets. -/
inductive IsWritten : List Char → Prop where
  | name {text : List Char} (ne_nil : text ≠ [])
    (chars : ∀ c ∈ text, IsGraphic c ∧ Domain.isForbidden c = false) : IsWritten text
  | address {text : List Char} (signs : ∀ c ∈ text, c ∈ Ipv6.signs) (colons : text.count ':' ≤ 8) :
    IsWritten ('[' :: text ++ [']'])

/-- Signs that mean something in a URL do not stand in a host. -/
theorem IsWritten.mem {text : List Char} (h : IsWritten text) {c : Char} (hc : c ∈ text) :
    IsGraphic c ∧ c ∉ "/\\?#@".toList := by
  cases h with
  | name _ chars =>
    have hforbidden : ∀ d ∈ "/\\?#@".toList, Domain.isForbidden d = true :=
      List.all_iff_forall_prop.1 (by decide)
    obtain ⟨hvisible, hallowed⟩ := chars c hc
    refine ⟨hvisible, fun hmem => ?_⟩
    rw [hforbidden c hmem] at hallowed
    cases hallowed
  | address signs _ =>
    have hsigns : ∀ d ∈ Ipv6.signs, IsGraphic d ∧ d ∉ "/\\?#@".toList :=
      List.all_iff_forall_prop.1 (by decide)
    rcases List.mem_cons.1 hc with rfl | hc
    · decide
    rcases List.mem_append.1 hc with hc | hc
    · exact hsigns c (signs c hc)
    · rw [List.mem_singleton.1 hc]
      decide

/-- A host that can be written is not empty. -/
theorem IsWritten.ne_nil {text : List Char} (h : IsWritten text) : text ≠ [] := by
  cases h with
  | name ne_nil _ => exact ne_nil
  | address _ _ => exact List.cons_ne_nil _ _

/-- A host that is read as it is written in visible characters is written as a name or an
address. -/
theorem isWritten_render {host : Host} (h : read host.render = .ok host)
    (hvisible : ∀ c ∈ host.render, IsGraphic c) (hpercent : '%' ∉ host.render) :
    IsWritten host.render := by
  unfold read at h
  split at h
  · cases h
  next hempty =>
  split at h
  · -- Only an address is read from brackets.
    unfold readBracketed at h
    split at h
    · split at h
      · next pieces hpieces =>
        cases h
        obtain ⟨hsigns, hcolons⟩ := Ipv6.render_spec (Ipv6.length_of_read hpieces)
        exact .address hsigns hcolons
      · cases h
    · cases h
  · cases hname : Domain.ofEncoded host.render with
    | none =>
      rw [hname] at h
      cases h
    | some name =>
      have hforbidden := Domain.isForbidden_of_ofEncoded hvisible hpercent hname
      exact .name hempty fun c hc => ⟨hvisible c hc, hforbidden c hc⟩

end Host

end MetricGateway
