import MetricGateway.Proofs.Text.Utf8

/-!
# Texts in the order of their bytes

Of two characters, the bytes of the smaller one come first at the first place where they differ: a
longer encoding begins with a larger byte, and encodings of one length compare like the numbers that
they hold (`encode_append_lt`). So texts are in the order of their bytes (`utf8_lt_of_lt`).
-/

namespace MetricGateway.Text

/-- The bytes of a character, by the length of its encoding. -/
theorem encode_cases (c : Char) :
    (c.toNat < 0x80 ∧ String.utf8EncodeChar c = [UInt8.ofNat c.toNat]) ∨
    (0x80 ≤ c.toNat ∧ c.toNat < 0x800 ∧
      String.utf8EncodeChar c = [UInt8.ofNat (c.toNat / 64 + 0xC0), trail c.toNat]) ∨
    (0x800 ≤ c.toNat ∧ c.toNat < 0x10000 ∧ String.utf8EncodeChar c =
      [UInt8.ofNat (c.toNat / 4096 + 0xE0), trail (c.toNat / 64), trail c.toNat]) ∨
    (0x10000 ≤ c.toNat ∧ String.utf8EncodeChar c =
      [UInt8.ofNat (c.toNat / 262144 + 0xF0), trail (c.toNat / 4096), trail (c.toNat / 64),
        trail c.toNat]) := by
  by_cases hone : c.toNat < 0x80
  · exact .inl ⟨hone, encode_one hone⟩
  by_cases htwo : c.toNat < 0x800
  · exact .inr (.inl ⟨by omega, htwo, encode_two (by omega) htwo⟩)
  by_cases hthree : c.toNat < 0x10000
  · exact .inr (.inr (.inl ⟨by omega, hthree, encode_three (by omega) hthree⟩))
  · exact .inr (.inr (.inr ⟨by omega, encode_four (by omega)⟩))

/-- The bytes of a smaller character come first, whatever follows. -/
theorem encode_append_lt {c d : Char} (h : c < d) (rest rest' : Bytes) :
    String.utf8EncodeChar c ++ rest < String.utf8EncodeChar d ++ rest' := by
  have hlt : c.toNat < d.toNat := h
  have hvalid := toNat_valid d
  have hsix (n : Nat) : n / 4096 = n / 64 / 64 ∧ n / 262144 = n / 64 / 64 / 64 := by omega
  -- The cases are the lengths of the two encodings. The first byte that differs decides.
  rcases encode_cases c with ⟨hc, hbytes⟩ | ⟨hc, hc', hbytes⟩ | ⟨hc, hc', hbytes⟩ | ⟨hc, hbytes⟩ <;>
    rcases encode_cases d with
      ⟨hd, hbytes'⟩ | ⟨hd, hd', hbytes'⟩ | ⟨hd, hd', hbytes'⟩ | ⟨hd, hbytes'⟩ <;>
    rw [hbytes, hbytes'] <;>
    simp only [List.cons_append, List.cons_lt_cons_iff, UInt8.lt_iff_toNat_lt, ← UInt8.toNat_inj,
      toNat_trail, UInt8.toNat_ofNat', hsix] <;>
    omega

/-- Smaller texts have smaller bytes. -/
theorem utf8_lt_of_lt {text other : String} (h : text < other) : utf8 text < utf8 other := by
  have hchars : ∀ cs ds : List Char, cs < ds → utf8Of cs < utf8Of ds := by
    intro cs
    induction cs with
    | nil =>
      intro ds hlt
      cases ds with
      | nil => exact absurd hlt (List.lt_irrefl [])
      | cons d ds =>
        have hne : String.utf8EncodeChar d ≠ [] := String.utf8EncodeChar_ne_nil
        obtain ⟨b, bytes, hbytes⟩ := List.exists_cons_of_ne_nil hne
        change [] < String.utf8EncodeChar d ++ utf8Of ds
        rw [hbytes]
        exact List.nil_lt_cons b _
    | cons c cs ih =>
      intro ds hlt
      cases ds with
      | nil => exact absurd hlt (List.not_lt_nil _)
      | cons d ds =>
        rcases List.cons_lt_cons_iff.1 hlt with hfirst | ⟨rfl, hrest⟩
        · exact encode_append_lt hfirst _ _
        · exact List.append_left_lt (ih ds hrest)
  exact hchars _ _ h

end MetricGateway.Text
