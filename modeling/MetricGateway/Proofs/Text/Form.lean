import MetricGateway.Proofs.Text.Utf8
import MetricGateway.Text.Encoding

/-!
# Pairs come back from a form

What is percent encoded is decoded to the same bytes (`percentDecode_percentChar`), so a name or a
value comes back from its form (`formDecode_formEncode`). The characters that separate names, values
and pairs do not stand for themselves in a form (`mem_formEncode`), so pairs come back one for one
and in order (`formPairs_formOf`).
-/

namespace MetricGateway.Text

/-! ## Percent encoding -/

/-- An upper-case digit has its value. -/
theorem hexDigitValue?_upperHexDigit {n : Nat} (h : n < 16) :
    hexDigitValue? (upperHexDigit n) = some n := by
  revert n
  decide

/-- An upper-case digit is a letter or a digit. -/
theorem isAlphanumeric_upperHexDigit {n : Nat} (h : n < 16) :
    isAlphanumeric (upperHexDigit n) = true := by
  revert n
  decide

/-- A byte is read back from its two digits. -/
theorem percentDecode_percentByte (b : UInt8) (rest : List Char) :
    percentDecode (percentByte b ++ rest) = b :: percentDecode rest := by
  have hb := b.toNat_lt
  change percentDecode ('%' :: upperHexDigit (b.toNat / 16) :: upperHexDigit (b.toNat % 16) :: rest)
    = _
  rw [percentDecode, hexDigitValue?_upperHexDigit (by omega),
    hexDigitValue?_upperHexDigit (by omega)]
  have hvalue : b.toNat / 16 * 16 + b.toNat % 16 = b.toNat := by omega
  simp only [hvalue, UInt8.ofNat_toNat]

/-- Bytes that are escaped are read back. -/
theorem percentDecode_flatMap_percentByte (bytes : Bytes) (rest : List Char) :
    percentDecode (bytes.flatMap percentByte ++ rest) = bytes ++ percentDecode rest := by
  induction bytes with
  | nil => rfl
  | cons b bytes ih =>
    rw [List.flatMap_cons, List.append_assoc, percentDecode_percentByte, ih]
    rfl

/-- A character other than the percent sign stands for its bytes. -/
theorem percentDecode_cons_of_ne {c : Char} (h : c ≠ '%') (rest : List Char) :
    percentDecode (c :: rest) = String.utf8EncodeChar c ++ percentDecode rest := by
  rw [percentDecode]
  rintro _ _ _ rfl
  exact absurd rfl h

/-- A character is read back as its bytes, whether it stands for itself or not, as long as the
percent sign does not. -/
theorem percentDecode_percentChar {keeps : Char → Bool} (h : keeps '%' = false) (c : Char)
    (rest : List Char) :
    percentDecode (percentChar keeps c ++ rest) =
      String.utf8EncodeChar c ++ percentDecode rest := by
  unfold percentChar
  split
  · next hkept =>
    -- A percent sign that stood for itself would be read as the start of a byte.
    refine percentDecode_cons_of_ne ?_ rest
    rintro rfl
    rw [h] at hkept
    exact absurd hkept.2 (by decide)
  · exact percentDecode_flatMap_percentByte _ rest

/-- A byte is written with the percent sign, letters and digits. -/
theorem mem_percentByte {b : UInt8} {c : Char} (h : c ∈ percentByte b) :
    c = '%' ∨ isAlphanumeric c = true := by
  have hb := b.toNat_lt
  rcases List.mem_cons.1 h with rfl | h
  · exact .inl rfl
  rcases List.mem_cons.1 h with rfl | h
  · exact .inr (isAlphanumeric_upperHexDigit (by omega))
  rw [List.mem_singleton.1 h]
  exact .inr (isAlphanumeric_upperHexDigit (by omega))

/-- What does not stand for itself is written with the percent sign, letters and digits. -/
theorem mem_percentChar {keeps : Char → Bool} {c d : Char} (h : d ∈ percentChar keeps c) :
    keeps d = true ∨ d = '%' ∨ isAlphanumeric d = true := by
  unfold percentChar at h
  split at h
  · next hkept =>
    rw [List.mem_singleton.1 h]
    exact .inl hkept.2
  · obtain ⟨b, -, hd⟩ := List.mem_flatMap.1 h
    exact .inr (mem_percentByte hd)

/-! ## Names and values -/

/-- A character as it stands in a form. -/
def formChar (c : Char) : List Char := if c = ' ' then ['+'] else percentChar keepsInForm c

/-- The plus sign stands for a space. -/
def spaceOfPlus (c : Char) : Char := if c = '+' then ' ' else c

/-- Letters and digits are kept. -/
theorem keepsInForm_of_isAlphanumeric {c : Char} (h : isAlphanumeric c = true) :
    keepsInForm c = true := by
  unfold keepsInForm
  rw [h]
  rfl

/-- Only basic characters stand for themselves in a form. -/
theorem lt_of_keepsInForm {c : Char} (h : keepsInForm c = true) : c.toNat < 0x80 := by
  unfold keepsInForm isAlphanumeric Char.isAlpha Char.isUpper Char.isLower Char.isDigit at h
  simp only [Bool.or_eq_true, Bool.and_eq_true, decide_eq_true_eq, UInt32.le_iff_toNat_le] at h
  rcases h with ((((((h | h) | h) | rfl) | rfl) | rfl) | rfl)
  · exact Nat.lt_of_le_of_lt h.2 (by decide)
  · exact Nat.lt_of_le_of_lt h.2 (by decide)
  · exact Nat.lt_of_le_of_lt h.2 (by decide)
  all_goals decide

/-- An escaped character is made of percent signs and kept characters. -/
theorem mem_percentChar_keepsInForm {c d : Char} (h : d ∈ percentChar keepsInForm c) :
    d = '%' ∨ keepsInForm d = true := by
  rcases mem_percentChar h with hkept | rfl | halpha
  · exact .inr hkept
  · exact .inl rfl
  · exact .inr (keepsInForm_of_isAlphanumeric halpha)

/-- The characters of a name or a value in a form. Those that separate are not among them. -/
theorem mem_formEncode {text : String} {d : Char} (h : d ∈ formEncode text) :
    d = '+' ∨ d = '%' ∨ keepsInForm d = true := by
  obtain ⟨c, -, hd⟩ := List.mem_flatMap.1 h
  split at hd
  · exact .inl (List.mem_singleton.1 hd)
  · exact .inr (mem_percentChar_keepsInForm hd)

/-- An encoded text holds no ampersand. -/
theorem ampersand_not_mem_formEncode (text : String) : '&' ∉ formEncode text := by
  intro h
  exact absurd (mem_formEncode h) (by decide)

/-- An encoded text holds no equals sign. -/
theorem equals_not_mem_formEncode (text : String) : '=' ∉ formEncode text := by
  intro h
  exact absurd (mem_formEncode h) (by decide)

/-- Only spaces are written as plus signs. -/
theorem map_spaceOfPlus_percentChar (c : Char) :
    (percentChar keepsInForm c).map spaceOfPlus = percentChar keepsInForm c := by
  have hkept : ∀ d ∈ percentChar keepsInForm c, spaceOfPlus d = d := by
    intro d hd
    refine if_neg ?_
    rintro rfl
    exact absurd (mem_percentChar_keepsInForm hd) (by decide)
  exact (List.map_congr_left hkept).trans (List.map_id _)

/-- A character comes back from a form as its bytes. -/
theorem percentDecode_formChar (c : Char) (rest : List Char) :
    percentDecode ((formChar c).map spaceOfPlus ++ rest) =
      String.utf8EncodeChar c ++ percentDecode rest := by
  unfold formChar
  split
  · next hspace =>
    rw [hspace]
    exact percentDecode_cons_of_ne (by decide) rest
  · rw [map_spaceOfPlus_percentChar]
    exact percentDecode_percentChar (by decide) c rest

/-- An encoded text is read back as its bytes. -/
theorem percentDecode_flatMap_formChar (text : List Char) :
    percentDecode ((text.flatMap formChar).map spaceOfPlus) = utf8Of text := by
  induction text with
  | nil => rfl
  | cons c rest ih =>
    rw [List.flatMap_cons, List.map_append, percentDecode_formChar, ih]
    rfl

/-- A name or a value comes back from its form. -/
theorem formDecode_formEncode (text : String) : formDecode (formEncode text) = text := by
  change ofUtf8Lossy (percentDecode ((text.toList.flatMap formChar).map spaceOfPlus)) = text
  rw [percentDecode_flatMap_formChar, ofUtf8Lossy_utf8Of, String.ofList_toList]

/-! ## Pairs -/

section Mark

variable {mark : Char} {front : List Char}

/-- A mark that is not in a text is none of its characters. -/
theorem forall_ne_of_not_mem (h : mark ∉ front) : ∀ c ∈ front, decide (c ≠ mark) = true := by
  intro c hc
  refine decide_eq_true ?_
  rintro rfl
  exact h hc

/-- What stands before the first mark of a text. -/
theorem takeWhile_ne_append_cons (h : mark ∉ front) (back : List Char) :
    (front ++ mark :: back).takeWhile (· ≠ mark) = front := by
  rw [List.takeWhile_append_of_pos (forall_ne_of_not_mem h),
    List.takeWhile_cons_of_neg (by simp), List.append_nil]

/-- The first mark of a text, and what stands behind it. -/
theorem dropWhile_ne_append_cons (h : mark ∉ front) (back : List Char) :
    (front ++ mark :: back).dropWhile (· ≠ mark) = mark :: back := by
  rw [List.dropWhile_append_of_pos (forall_ne_of_not_mem h), List.dropWhile_cons_of_neg (by simp)]

end Mark

/-- A pair comes back from its piece of a form. -/
theorem splitPair_formPair (pair : String × String) : splitPair (formPair pair) = pair := by
  have hname := equals_not_mem_formEncode pair.1
  unfold splitPair formPair
  rw [takeWhile_ne_append_cons hname, dropWhile_ne_append_cons hname]
  rw [List.drop_one, List.tail_cons, formDecode_formEncode, formDecode_formEncode]

/-- An encoded pair is not empty. -/
theorem formPair_ne_nil (pair : String × String) : formPair pair ≠ [] := by
  unfold formPair
  exact List.append_ne_nil_of_right_ne_nil _ (List.cons_ne_nil _ _)

/-- An encoded pair holds no ampersand. -/
theorem ampersand_not_mem_formPair (pair : String × String) : '&' ∉ formPair pair := by
  intro h
  rcases List.mem_append.1 h with h | h
  · exact ampersand_not_mem_formEncode _ h
  rcases List.mem_cons.1 h with h | h
  · exact absurd h (by decide)
  · exact ampersand_not_mem_formEncode _ h

/-- Pairs come back from their form, one for one and in order. -/
theorem formPairs_formOf (pairs : List (String × String)) : formPairs (formOf pairs) = pairs := by
  by_cases hpairs : pairs = []
  · rw [hpairs]
    rfl
  have hsplit : (formOf pairs).splitOn '&' = pairs.map formPair := by
    refine List.splitOn_intercalate '&' ?_ (by simpa using hpairs)
    intro piece hpiece
    obtain ⟨pair, -, rfl⟩ := List.mem_map.1 hpiece
    exact ampersand_not_mem_formPair pair
  -- No piece is empty, since each holds an equals sign.
  have hfilter : (pairs.map formPair).filter (· ≠ []) = pairs.map formPair := by
    refine List.filter_eq_self.2 ?_
    intro piece hpiece
    obtain ⟨pair, -, rfl⟩ := List.mem_map.1 hpiece
    exact decide_eq_true (formPair_ne_nil pair)
  unfold formPairs
  rw [hsplit, hfilter, List.map_map]
  refine List.map_id'' ?_ pairs
  exact splitPair_formPair

/-- The characters of a pair: those of its name and its value, and the one between them. -/
theorem mem_formPair {pair : String × String} {c : Char} (h : c ∈ formPair pair) :
    keepsInForm c = true ∨ c ∈ "+%=&".toList := by
  have hencoded {text : String} (hmem : c ∈ formEncode text) :
      keepsInForm c = true ∨ c ∈ "+%=&".toList := by
    rcases mem_formEncode hmem with rfl | rfl | hkept
    · exact .inr (by decide)
    · exact .inr (by decide)
    · exact .inl hkept
  rcases List.mem_append.1 h with h | h
  · exact hencoded h
  rcases List.mem_cons.1 h with rfl | h
  · exact .inr (by decide)
  · exact hencoded h

/-- The characters of a form: those of names and values, and the two that separate. -/
theorem mem_formOf {pairs : List (String × String)} {c : Char} (h : c ∈ formOf pairs) :
    keepsInForm c = true ∨ c ∈ "+%=&".toList := by
  induction pairs with
  | nil => cases h
  | cons pair rest ih =>
    cases rest with
    | nil =>
      have hjoin : formOf [pair] = formPair pair := List.intercalate_singleton
      rw [hjoin] at h
      exact mem_formPair h
    | cons next others =>
      have hjoin : formOf (pair :: next :: others) =
          formPair pair ++ ['&'] ++ formOf (next :: others) := List.intercalate_cons_cons
      rw [hjoin] at h
      rcases List.mem_append.1 h with h | h
      · rcases List.mem_append.1 h with h | h
        · exact mem_formPair h
        · rw [List.mem_singleton.1 h]
          exact .inr (by decide)
      · exact ih h

/-- The last of several pairs stands behind an ampersand at the end of a form. -/
theorem suffix_formOf (first : String × String) (pairs : List (String × String))
    (last : String × String) : '&' :: formPair last <:+ formOf (first :: pairs ++ [last]) := by
  induction pairs generalizing first with
  | nil =>
    have hjoin : formOf [first, last] = formPair first ++ ['&'] ++ formPair last :=
      List.intercalate_cons_cons.trans (congrArg _ List.intercalate_singleton)
    refine ⟨formPair first, ?_⟩
    rw [List.singleton_append, hjoin, List.append_assoc, List.singleton_append]
  | cons second rest ih =>
    obtain ⟨before, hbefore⟩ := ih second
    have hjoin : formOf (first :: second :: rest ++ [last]) =
        formPair first ++ ['&'] ++ formOf (second :: rest ++ [last]) :=
      List.intercalate_cons_cons
    refine ⟨formPair first ++ ['&'] ++ before, ?_⟩
    rw [hjoin, ← hbefore, List.append_assoc _ before]

/-! ## Numbers -/

/-- Digits are kept. -/
theorem keepsInForm_of_isDigit {c : Char} (h : c.isDigit = true) : keepsInForm c = true := by
  refine keepsInForm_of_isAlphanumeric ?_
  unfold isAlphanumeric
  rw [h, Bool.or_true]

/-- A number is written with digits. -/
theorem isDigit_of_mem_toString {n : Nat} {c : Char} (h : c ∈ (toString n).toList) :
    c.isDigit = true := by
  have hdigits : (toString n).toList = Nat.toDigits 10 n := String.toList_ofList
  rw [hdigits] at h
  exact Nat.isDigit_of_mem_toDigits (by decide) (by decide) h

/-- A digit stands for itself in a form. -/
theorem formChar_of_isDigit {c : Char} (h : c.isDigit = true) : formChar c = [c] := by
  have hspace : c ≠ ' ' := by
    rintro rfl
    exact absurd h (by decide)
  have hkept := keepsInForm_of_isDigit h
  exact (if_neg hspace).trans (if_pos ⟨lt_of_keepsInForm hkept, hkept⟩)

/-- A text whose characters all stand for themselves does so too. -/
theorem flatMap_eq_self {f : Char → List Char} {text : List Char} (h : ∀ c ∈ text, f c = [c]) :
    text.flatMap f = text := by
  induction text with
  | nil => rfl
  | cons c rest ih =>
    have hrest := ih fun d hd => h d (List.mem_cons_of_mem _ hd)
    rw [List.flatMap_cons, h c List.mem_cons_self, hrest]
    rfl

/-- A number stands for itself in a form. -/
theorem formEncode_toString (n : Nat) : formEncode (toString n) = (toString n).toList := by
  have hchar : ∀ c ∈ (toString n).toList, formChar c = [c] := fun c hc =>
    formChar_of_isDigit (isDigit_of_mem_toString hc)
  exact flatMap_eq_self hchar

end MetricGateway.Text
