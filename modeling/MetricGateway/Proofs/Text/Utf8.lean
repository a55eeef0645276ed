import MetricGateway.Text.Utf8

/-!
# Texts come back from their bytes

The first byte of a character says how many bytes follow it, and each of these brings six more bits
of the character (`charactersFrom_middle`, `charactersFrom_last`). So the bytes of a character are
read as this character whatever follows them (`charactersFrom_encode`), and a text comes back from
its bytes (`ofUtf8?_utf8`, `ofUtf8Lossy_utf8Of`).
-/

namespace MetricGateway.Text

/-- A number below 256 is the number of its byte. -/
theorem toNat_ofNat_byte {n : Nat} (h : n < 256) : (UInt8.ofNat n).toNat = n := by
  rw [UInt8.toNat_ofNat']
  exact Nat.mod_eq_of_lt h

/-- The byte that brings the last six bits of a number. -/
def trail (n : Nat) : UInt8 := UInt8.ofNat (n % 0x40 + 0x80)

/-- A byte behind the first one holds six bits. -/
theorem toNat_trail (n : Nat) : (trail n).toNat = n % 0x40 + 0x80 :=
  toNat_ofNat_byte (by omega)

section Bytes

variable {value missing low high n : Nat} {rest : Bytes}

/-- A byte in the middle of a character adds its bits. -/
theorem charactersFrom_middle (hlow : low ≤ n % 0x40 + 0x80) (hhigh : n % 0x40 + 0x80 ≤ high)
    (hmissing : 1 < missing) :
    charactersFrom (some { value, missing, low, high }) (trail n :: rest) =
      charactersFrom (some { value := value * 64 + n % 64, missing := missing - 1 }) rest := by
  have hmore : ¬missing ≤ 1 := by omega
  rw [charactersFrom, toNat_trail]
  refine (if_pos ⟨hlow, hhigh⟩).trans ((if_neg hmore).trans ?_)
  rw [Nat.add_sub_cancel]

/-- The last byte of a character completes it. -/
theorem charactersFrom_last :
    charactersFrom (some { value, missing := 1 }) (trail n :: rest) =
      some (Char.ofNat (value * 64 + n % 64)) :: charactersFrom none rest := by
  have hlow : 0x80 ≤ n % 0x40 + 0x80 := by omega
  have hhigh : n % 0x40 + 0x80 ≤ 0xBF := by omega
  rw [charactersFrom, toNat_trail]
  refine (if_pos ⟨hlow, hhigh⟩).trans ((if_pos (Nat.le_refl 1)).trans ?_)
  rw [Nat.add_sub_cancel]

/-- The first byte of a longer character begins it. -/
theorem charactersFrom_longer {pending : Pending} (hn : n < 256) (h : lead n = .longer pending) :
    charactersFrom none (UInt8.ofNat n :: rest) = charactersFrom (some pending) rest := by
  rw [charactersFrom, toNat_ofNat_byte hn, h]

end Bytes

/-! ## What a first byte announces -/

/-- The first of two bytes says that one is missing. -/
theorem lead_two {n : Nat} (h : 2 ≤ n) (h' : n < 32) :
    lead (n + 0xC0) = .longer { value := n, missing := 1 } := by
  unfold lead
  rw [if_neg (by omega), if_pos (by omega), Nat.add_sub_cancel]

/-- The second of three bytes keeps out what has a shorter encoding, and halves of pairs. -/
theorem lead_three {n : Nat} (h : n < 16) :
    lead (n + 0xE0) = .longer {
      value := n
      missing := 2
      low := if n = 0 then 0xA0 else 0x80
      high := if n = 0xD then 0x9F else 0xBF } := by
  unfold lead
  rw [if_neg (by omega), if_neg (by omega)]
  by_cases hzero : n = 0
  · rw [hzero]
    rfl
  by_cases hpair : n = 0xD
  · rw [hpair]
    rfl
  rw [if_neg (by omega), if_neg (by omega), if_pos (by omega), Nat.add_sub_cancel, if_neg hzero,
    if_neg hpair]

/-- The second of four bytes keeps out what has a shorter encoding, and what is beyond the last
character. -/
theorem lead_four {n : Nat} (h : n < 5) :
    lead (n + 0xF0) = .longer {
      value := n
      missing := 3
      low := if n = 0 then 0x90 else 0x80
      high := if n = 4 then 0x8F else 0xBF } := by
  match n, h with
  | 0, _ | 1, _ | 2, _ | 3, _ | 4, _ => rfl

/-! ## Whole characters -/

/-- The number of a character is none of the halves of pairs, and not beyond the last character. -/
theorem toNat_valid (c : Char) : c.toNat < 0xD800 ∨ 0xDFFF < c.toNat ∧ c.toNat < 0x110000 :=
  c.valid

/-- The bytes of a character of a single byte. -/
theorem encode_one {c : Char} (h : c.toNat < 0x80) :
    String.utf8EncodeChar c = [UInt8.ofNat c.toNat] := by
  have hone : c.toNat ≤ 0x7F := by omega
  exact if_pos hone

/-- A character of two bytes. -/
theorem encode_two {c : Char} (h : 0x80 ≤ c.toNat) (h' : c.toNat < 0x800) :
    String.utf8EncodeChar c = [UInt8.ofNat (c.toNat / 64 + 0xC0), trail c.toNat] := by
  have hone : ¬c.toNat ≤ 0x7F := by omega
  have htwo : c.toNat ≤ 0x7FF := by omega
  -- The first byte holds all bits that are left for it.
  have hlead : c.toNat / 64 % 0x20 = c.toNat / 64 := Nat.mod_eq_of_lt (by omega)
  rw [← hlead]
  exact (if_neg hone).trans (if_pos htwo)

/-- A character of three bytes. -/
theorem encode_three {c : Char} (h : 0x800 ≤ c.toNat) (h' : c.toNat < 0x10000) :
    String.utf8EncodeChar c =
      [UInt8.ofNat (c.toNat / 4096 + 0xE0), trail (c.toNat / 64), trail c.toNat] := by
  have hone : ¬c.toNat ≤ 0x7F := by omega
  have htwo : ¬c.toNat ≤ 0x7FF := by omega
  have hthree : c.toNat ≤ 0xFFFF := by omega
  have hlead : c.toNat / 4096 % 0x10 = c.toNat / 4096 := Nat.mod_eq_of_lt (by omega)
  rw [← hlead]
  exact (if_neg hone).trans ((if_neg htwo).trans (if_pos hthree))

/-- A character of four bytes. -/
theorem encode_four {c : Char} (h : 0x10000 ≤ c.toNat) :
    String.utf8EncodeChar c =
      [UInt8.ofNat (c.toNat / 262144 + 0xF0), trail (c.toNat / 4096), trail (c.toNat / 64),
        trail c.toNat] := by
  have hvalid := toNat_valid c
  have hone : ¬c.toNat ≤ 0x7F := by omega
  have htwo : ¬c.toNat ≤ 0x7FF := by omega
  have hthree : ¬c.toNat ≤ 0xFFFF := by omega
  have hlead : c.toNat / 262144 % 8 = c.toNat / 262144 := Nat.mod_eq_of_lt (by omega)
  rw [← hlead]
  exact (if_neg hone).trans ((if_neg htwo).trans (if_neg hthree))

/-- The bytes of a character of several bytes are none of the first 128. -/
theorem le_of_mem_encode {c : Char} (h : 0x80 ≤ c.toNat) {b : UInt8}
    (hb : b ∈ String.utf8EncodeChar c) : 0x80 ≤ b.toNat := by
  have hvalid := toNat_valid c
  have hlead {n : Nat} (hn : n < 256) (hlow : 0x80 ≤ n) : 0x80 ≤ (UInt8.ofNat n).toNat := by
    rw [toNat_ofNat_byte hn]
    exact hlow
  have htrail (n : Nat) : 0x80 ≤ (trail n).toNat := by
    rw [toNat_trail]
    omega
  -- The cases are the numbers of bytes, of which `h` excludes a single one.
  by_cases htwo : c.toNat < 0x800
  · rw [encode_two h htwo] at hb
    simp only [List.mem_cons, List.not_mem_nil, or_false] at hb
    rcases hb with rfl | rfl
    · exact hlead (by omega) (by omega)
    · exact htrail _
  by_cases hthree : c.toNat < 0x10000
  · rw [encode_three (by omega) hthree] at hb
    simp only [List.mem_cons, List.not_mem_nil, or_false] at hb
    rcases hb with rfl | rfl | rfl
    · exact hlead (by omega) (by omega)
    · exact htrail _
    · exact htrail _
  · rw [encode_four (by omega)] at hb
    simp only [List.mem_cons, List.not_mem_nil, or_false] at hb
    rcases hb with rfl | rfl | rfl | rfl
    · exact hlead (by omega) (by omega)
    · exact htrail _
    · exact htrail _
    · exact htrail _

/-- The bytes of a character are read as this character, whatever follows them. -/
theorem charactersFrom_encode (c : Char) (rest : Bytes) :
    charactersFrom none (String.utf8EncodeChar c ++ rest) =
      some c :: charactersFrom none rest := by
  have hvalid := toNat_valid c
  -- The bits that the bytes bring are those of the character.
  have hread {n : Nat} (h : n = c.toNat) : Char.ofNat n = c := by rw [h, Char.ofNat_toNat]
  -- The cases are the lengths of an encoding.
  by_cases hone : c.toNat < 0x80
  · rw [encode_one hone]
    change charactersFrom none (UInt8.ofNat c.toNat :: rest) = _
    rw [charactersFrom, toNat_ofNat_byte (by omega), lead, if_pos hone]
    exact congrArg (some · :: _) (hread rfl)
  by_cases htwo : c.toNat < 0x800
  · rw [encode_two (by omega) htwo]
    refine (charactersFrom_longer (by omega) (lead_two (by omega) (by omega))).trans ?_
    refine charactersFrom_last.trans ?_
    rw [hread (by omega)]
    rfl
  by_cases hthree : c.toNat < 0x10000
  · rw [encode_three (by omega) hthree]
    refine (charactersFrom_longer (by omega) (lead_three (by omega))).trans ?_
    -- The bounds of the second byte depend on the first one.
    refine (charactersFrom_middle ?_ ?_ (by omega)).trans ?_
    · split <;> omega
    · split <;> omega
    refine charactersFrom_last.trans ?_
    rw [hread (by omega)]
    rfl
  · rw [encode_four (by omega)]
    refine (charactersFrom_longer (by omega) (lead_four (by omega))).trans ?_
    refine (charactersFrom_middle ?_ ?_ (by omega)).trans ?_
    · split <;> omega
    · split <;> omega
    refine (charactersFrom_middle (by omega) (by omega) (by omega)).trans ?_
    refine charactersFrom_last.trans ?_
    rw [hread (by omega)]
    rfl

/-- The characters of a text are read from its bytes, and none of them is malformed. -/
theorem characters_utf8Of (text : List Char) : characters (utf8Of text) = text.map some := by
  induction text with
  | nil => rfl
  | cons c rest ih =>
    change charactersFrom none (String.utf8EncodeChar c ++ utf8Of rest) = _
    rw [charactersFrom_encode, List.map_cons, ← ih]
    rfl

/-- Bytes that hold no malformed sequence are those of a text, which comes back from them. -/
theorem ofUtf8?_utf8 (text : String) : ofUtf8? (utf8 text) = some text := by
  have hwhole (chars : List Char) : (chars.map some).mapM id = some chars := by
    induction chars with
    | nil => rfl
    | cons c rest ih => rw [List.map_cons, List.mapM_cons, ih]; rfl
  unfold ofUtf8? utf8
  rw [characters_utf8Of, hwhole, Option.map_some, String.ofList_toList]

/-- A text comes back from its bytes. -/
theorem ofUtf8Lossy_utf8Of (text : List Char) : ofUtf8Lossy (utf8Of text) = String.ofList text := by
  unfold ofUtf8Lossy
  rw [characters_utf8Of, List.map_map]
  exact congrArg String.ofList (List.map_id text)

end MetricGateway.Text
