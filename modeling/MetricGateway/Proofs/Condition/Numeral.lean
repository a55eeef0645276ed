import MetricGateway.Proofs.Condition.Spelling
import MetricGateway.Proofs.Json.NumberToken

/-!
# Integers and fractions in labels

A label tells whether a number was given as an integer (`told_apart`). An integer of 64 bits is
written as it was given. Every other number is a fraction, and its text in labels has a point or an
exponent with a sign and two digits or more (`isMarked_numberText`): where it is written
positionally, a whole number keeps a point and a zero, and beyond that its exponent is padded. An
integer has neither mark, so no fraction is compared with the same text.
-/

namespace MetricGateway.Condition.Value

open Json Success

/-! ## Marks of fractions -/

/-- A text ends in the mark of an exponent, a sign, and two digits or more. -/
def EndsInExponent (text : List Char) : Prop :=
  ∃ before sign digits, text = before ++ 'e' :: sign :: digits ∧ (sign = '+' ∨ sign = '-') ∧
    2 ≤ digits.length ∧ ∀ c ∈ digits, c.isDigit = true

/-- A text has what no integer has: a point without an exponent behind it, or an exponent with a
sign. -/
def IsMarked (text : List Char) : Prop :=
  ('.' ∈ text ∧ 'e' ∉ text) ∨ EndsInExponent text

/-- A marked text holds one of the two marks. -/
theorem IsMarked.mem {text : List Char} (h : IsMarked text) : '.' ∈ text ∨ 'e' ∈ text := by
  rcases h with ⟨hpoint, -⟩ | ⟨before, sign, digits, rfl, -⟩
  · exact .inl hpoint
  · exact .inr (List.mem_append_right _ List.mem_cons_self)

/-- A sign in front changes nothing. -/
theorem IsMarked.cons {text : List Char} (h : IsMarked text) {c : Char} (hc : c ≠ 'e') :
    IsMarked (c :: text) := by
  rcases h with ⟨hpoint, hmark⟩ | ⟨before, sign, digits, rfl, hexponent⟩
  · refine .inl ⟨List.mem_cons_of_mem c hpoint, fun hmem => ?_⟩
    exact (List.mem_cons.1 hmem).elim (fun heq => hc heq.symm) hmark
  · exact .inr ⟨c :: before, sign, digits, rfl, hexponent⟩

/-- There is no mark of an exponent among digits around a point. -/
theorem isMarked_point {whole fraction : List Char} (hwhole : ∀ c ∈ whole, c.isDigit = true)
    (hfraction : ∀ c ∈ fraction, c.isDigit = true) : IsMarked (whole ++ '.' :: fraction) := by
  refine .inl ⟨List.mem_append_right _ List.mem_cons_self, fun hmem => ?_⟩
  rcases List.mem_append.1 hmem with hmem | hmem
  · exact absurd (hwhole 'e' hmem) (by decide)
  · rcases List.mem_cons.1 hmem with heq | hmem
    · exact absurd heq (by decide)
    · exact absurd (hfraction 'e' hmem) (by decide)

/-- Written positionally, a number has a point and no exponent. -/
theorem isMarked_positional (d : Decimal) : IsMarked (d.positional true) := by
  have hdigits : ∀ c ∈ Text.digitsOf d.digits, c.isDigit = true :=
    fun c hc => isDigit_of_mem_digitsOf hc
  unfold Decimal.positional
  dsimp only
  split
  next =>
    refine isMarked_point (fun c hc => ?_) (isDigit_zeros 1)
    exact (List.mem_append.1 hc).elim (hdigits c) (isDigit_zeros _ c)
  next =>
    have hpadded := isDigit_padZeros ((-d.exponent).toNat + 1) _ hdigits
    exact isMarked_point (fun c hc => hpadded c (List.mem_of_mem_take hc))
      fun c hc => hpadded c (List.mem_of_mem_drop hc)

/-- Written with an exponent, a number ends in it. -/
theorem endsInExponent_scientific (d : Decimal) {width : Nat} (hwidth : 2 ≤ width) :
    EndsInExponent (d.scientific width) := by
  refine ⟨_, _, _, rfl, ?_, ?_, ?_⟩
  · split
    · exact .inr rfl
    · exact .inl rfl
  · rw [length_padZeros]
    omega
  · exact isDigit_padZeros _ _ fun c hc => isDigit_of_mem_digitsOf hc

/-- Every finite fraction is marked in a layout that keeps the point and pads exponents. -/
theorem isMarked_renderFinite {layout : Decimal.Layout} (hpoint : layout.keepsPoint = true)
    (hwidth : 2 ≤ layout.exponentWidth) (negative : Bool) (mantissa : Nat) (exponent : Int) :
    IsMarked (Decimal.renderFinite layout negative mantissa exponent) := by
  have hrender (d : Decimal) : IsMarked (d.render layout) := by
    unfold Decimal.render
    rw [hpoint]
    split
    · exact isMarked_positional d
    · exact .inr (endsInExponent_scientific d hwidth)
  have hmagnitude : IsMarked (if mantissa = 0 then Decimal.positional layout.keepsPoint ⟨0, 0⟩
      else (Decimal.shortest layout.tie mantissa exponent).render layout) := by
    rw [hpoint]
    split
    · exact isMarked_positional _
    · exact hrender _
  unfold Decimal.renderFinite
  cases negative with
  | true => exact hmagnitude.cons (by decide)
  | false => exact hmagnitude

/-- The text in labels of a fraction that can be printed is marked. -/
theorem isMarked_numberText {x : Binary64} (h : (Number.float x).IsPrintable) :
    IsMarked (numberText (.float x)).toList := by
  obtain ⟨negative, mantissa, exponent, hshape⟩ := h
  rw [numberText, fractionText, Decimal.renderBinary, hshape]
  dsimp only
  rw [String.toList_ofList]
  exact isMarked_renderFinite rfl (by decide) negative mantissa exponent

/-- An integer as it is written has no mark. -/
theorem not_isMarked_of_isWord {token : NumberToken} (h : token.IsWord) : ¬IsMarked token.text := by
  intro hmarked
  rw [NumberToken.text_of_none h.fraction h.exponent] at hmarked
  have hmem (c : Char) (hc : c ∈ (if token.negative then ['-'] else []) ++ token.whole) :
      c = '-' ∨ c.isDigit = true := by
    rcases List.mem_append.1 hc with hc | hc
    · split at hc
      · exact .inl (List.mem_singleton.1 hc)
      · cases hc
    · exact .inr (token.isWhole.isDigit c hc)
  rcases hmarked.mem with hpoint | hmark
  · exact absurd (hmem '.' hpoint) (by decide)
  · exact absurd (hmem 'e' hmark) (by decide)

/-! ## Where numbers are given -/

/-- A place in a text where a number is given as the value of a number condition: what is read
between `before` and `after` is the number that stands there, with the kind of numbers. -/
structure Place where
  scope : Scope
  before : List Char
  after : List Char
  /-- What is left behind the value of the condition. -/
  rest : List Char
  /-- No number goes on behind the place. -/
  ends : EndsNumber after
  /-- A token that stands there decides what is read, and whether it is. -/
  passes : ∀ (token : NumberToken) (given : (String × Json) × List Char),
    record.read scope (before ++ (token.text ++ after)) = .ok given ↔
      ∃ n, readNumber (token.text ++ after) = .ok (n, after) ∧
        given = ((doubleKind, .number n), rest)

namespace Place

variable {token : NumberToken}

/-- What is read of a condition's value when a token stands at a place. -/
def given (place : Place) (token : NumberToken) : Except Fault (Value × List Char) :=
  read place.scope (place.before ++ (token.text ++ place.after))

/-- A token that is read as a number gives the text of the number in labels. -/
theorem given_of_toNumber (place : Place) {n : Number} (h : token.numeral.toNumber = .ok n) :
    place.given token = .ok (.double (numberText n), place.rest) := by
  have hnumber := (token.readNumber_text_eq_ok_iff place.ends).2 h
  have hrecord := (place.passes token _).2 ⟨n, hnumber, rfl⟩
  unfold given read readRefined
  rw [hrecord, ok_bind]
  dsimp only
  rw [ofJson_doubleKind]
  rfl

/-- What a token gives is the text in labels of the number that it is read as. -/
theorem exists_of_given (place : Place) {value : Value} {rest : List Char}
    (h : place.given token = .ok (value, rest)) :
    ∃ n, token.numeral.toNumber = .ok n ∧ value = .double (numberText n) := by
  obtain ⟨read, hrecord, -⟩ := bind_eq_ok_iff.1 h
  obtain ⟨n, hnumber, -⟩ := (place.passes token read).1 hrecord
  have htoken := (token.readNumber_text_eq_ok_iff place.ends).1 hnumber
  have hgiven := place.given_of_toNumber htoken
  rw [h] at hgiven
  exact ⟨n, htoken, (Prod.mk.inj (Except.ok.inj hgiven)).1⟩

/-! ### Layouts of a value -/

/-- What stands behind the value in an object that says its kind. -/
def behindValue (rest : List Char) : List Char :=
  renderMoreEntries [("_type", .string doubleKind)] ++ '\x7d' :: rest

/-- A number ends before the next entry. -/
theorem endsNumber_behindValue (rest : List Char) : EndsNumber (behindValue rest) :=
  endsNumber_renderMoreEntries _ rest

/-- A token is read as a value that is its number, or refused with it. -/
theorem readValue_text (depth : Nat) {after : List Char} (h : EndsNumber after)
    (token : NumberToken) :
    readValue { depth } (token.text ++ after) =
      (token.numeral.toNumber >>= fun n => pure (.number n, after)) :=
  readAny_text token h none depth

/-- Behind its key, a token fills the value of a draft without one, or is refused. -/
theorem readEntry_value (depth : Nat) {after : List Char} (h : EndsNumber after)
    (kind? : Option String) (token : NumberToken) :
    record.readEntry { depth } { kind := kind? } "value" (':' :: (token.text ++ after)) =
      within (.key "value") (token.numeral.toNumber >>= fun n =>
        pure ({ value := some (.number n), kind := kind? }, after)) := by
  change within (.key "value") (readValue { depth } (token.text ++ after) >>=
    fun read => pure (({ value := some read.1, kind := kind? } : Draft), read.2)) = _
  rw [readValue_text depth h]
  cases token.numeral.toNumber with
  | error fault => rfl
  | ok n => rfl

/-- The kind is gathered, with a value or without one. -/
theorem gathers_kind (depth : Nat) (value? : Option Json) :
    Gathers (record.readEntry { depth }) { value := value? } [("_type", .string doubleKind)]
      { value := value?, kind := some doubleKind } := by
  have hkind : Reads readString 0 (Json.string doubleKind).render doubleKind :=
    reads_string doubleKind
  have hcompletes : Completes record 0 { value := value? } [("_type", .string doubleKind)]
      { value := value?, kind := some doubleKind } :=
    .cons rfl rfl (hkind.fill _ _ _ _ _) (.nil _)
  exact hcompletes.gathers rfl (Nat.zero_le depth)

/-- Nothing is read if the token is refused, and the number of the token otherwise. -/
theorem ok_iff_of_bind {α : Type} {number : Except Fault Number} {result : Except Fault α}
    {build : Number → α} (hok : ∀ n, number = .ok n → result = .ok (build n))
    (herror : ∀ fault, number = .error fault → ∃ other, result = .error other) (given : α) :
    result = .ok given ↔ ∃ n, number = .ok n ∧ given = build n := by
  cases number with
  | error fault =>
    obtain ⟨other, hother⟩ := herror fault rfl
    rw [hother]
    exact ⟨nofun, fun ⟨n, hn, _⟩ => nomatch hn⟩
  | ok n =>
    rw [hok n rfl]
    constructor
    · intro h
      exact ⟨n, rfl, (Except.ok.inj h).symm⟩
    · rintro ⟨found, hfound, rfl⟩
      rw [Except.ok.inj hfound]

/-- An object whose value is a token is read with the number of the token, or refused with it. -/
theorem read_object (depth : Nat) (rest : List Char) (token : NumberToken)
    (given : (String × Json) × List Char) :
    record.read { depth := depth + 1 }
        ('\x7b' :: (renderText "value" ++ ':' :: (token.text ++ behindValue rest))) = .ok given ↔
      ∃ n, token.numeral.toNumber = .ok n ∧ given = ((doubleKind, .number n), rest) := by
  unfold Record.read
  -- Behind the opening bracket, the entries are read with one bracket less.
  change (readEntries none (record.readEntry { depth }) _ true record.empty
    (renderText "value" ++ ':' :: (token.text ++ behindValue rest)) >>=
      fun read => record.build read.1 >>= fun value => pure (value, read.2)) = _ ↔ _
  rw [renderText_append, readEntries_bind (nextKey_first _)]
  change ((record.readEntry { depth } { kind := none } "value" _ >>= _) >>= _) = _ ↔ _
  rw [readEntry_value depth (endsNumber_behindValue rest)]
  refine ok_iff_of_bind (fun n hn => ?_) (fun fault hfault => ?_) given
  · rw [hn]
    change (readEntries none (record.readEntry { depth }) _ false _ (behindValue rest) >>= _) = _
    unfold behindValue
    rw [readEntries_renderMoreEntries (gathers_kind depth (some (.number n))) (by simp)]
    rfl
  · rw [hfault]
    exact ⟨_, rfl⟩

/-- The value of an object that says its kind, where room is for `depth` more brackets. -/
def object (depth : Nat) (rest : List Char) : Place where
  scope := { depth := depth + 1 }
  before := '\x7b' :: (renderText "value" ++ [':'])
  after := behindValue rest
  rest
  ends := endsNumber_behindValue rest
  passes token given := by
    rw [List.cons_append, List.append_assoc, List.singleton_append, read_object]
    simp only [token.readNumber_text_eq_ok_iff (endsNumber_behindValue rest)]

/-- So is an object that says its kind first. -/
theorem read_kindFirst (depth : Nat) (rest : List Char) (token : NumberToken)
    (given : (String × Json) × List Char) :
    record.read { depth := depth + 1 }
        ('\x7b' :: (renderText "_type" ++ ':' :: (renderText doubleKind ++
          ',' :: (renderText "value" ++ ':' :: (token.text ++ '\x7d' :: rest))))) = .ok given ↔
      ∃ n, token.numeral.toNumber = .ok n ∧ given = ((doubleKind, .number n), rest) := by
  have hends : EndsNumber ('\x7d' :: rest) := endsNumber_cons (by decide) rest
  have hkind (more : List Char) (hmore : EndsNumber more) :
      record.readEntry { depth } record.empty "_type" (':' :: (renderText doubleKind ++ more)) =
        .ok ({ kind := some doubleKind }, more) := by
    cases gathers_kind depth none with
    | cons read gathers =>
      cases gathers
      exact read more hmore
  unfold Record.read
  change (readEntries none (record.readEntry { depth }) _ true record.empty
    (renderText "_type" ++ ':' :: _) >>=
      fun read => record.build read.1 >>= fun value => pure (value, read.2)) = _ ↔ _
  -- There is room for both entries.
  generalize hsize : List.length _ = size
  obtain ⟨room, rfl⟩ : ∃ room, size = room + 2 := by
    refine Nat.exists_eq_add_of_le' ?_
    rw [← hsize, List.length_append, List.length_cons, List.length_append, List.length_cons]
    omega
  rw [renderText_append, readEntries_succ (nextKey_first _)
    (hkind _ (endsNumber_cons (by decide) _)), renderText_append,
    readEntries_bind (nextKey_comma _), readEntry_value depth hends]
  refine ok_iff_of_bind (fun n hn => ?_) (fun fault hfault => ?_) given
  · rw [hn]
    rfl
  · rw [hfault]
    exact ⟨_, rfl⟩

/-- The value of an object that says its kind first. -/
def kindFirst (depth : Nat) (rest : List Char) : Place where
  scope := { depth := depth + 1 }
  before := '\x7b' :: (renderText "_type" ++ ':' :: (renderText doubleKind ++
    ',' :: (renderText "value" ++ [':'])))
  after := '\x7d' :: rest
  rest
  ends := endsNumber_cons (by decide) rest
  passes token given := by
    have hends : EndsNumber ('\x7d' :: rest) := endsNumber_cons (by decide) rest
    have htext := read_kindFirst depth rest token given
    simp only [List.cons_append, List.append_assoc, List.nil_append] at htext ⊢
    rw [htext]
    simp only [token.readNumber_text_eq_ok_iff hends]

/-- The field of the value. -/
def valueField : Json.Field Draft :=
  Json.field "value" false Draft.value (fun d v => { d with value := some v }) Json.readValue

/-- The field of the kind. -/
def kindField : Json.Field Draft :=
  Json.field "_type" true Draft.kind (fun d v => { d with kind := some v }) Json.readString

/-- A list of a value that is a token and its kind is read likewise. -/
theorem read_list (depth : Nat) (rest : List Char) (token : NumberToken)
    (given : (String × Json) × List Char) :
    record.read { depth := depth + 1 }
        ('[' :: (token.text ++ ',' :: (renderText doubleKind ++ ']' :: rest))) = .ok given ↔
      ∃ n, token.numeral.toNumber = .ok n ∧ given = ((doubleKind, .number n), rest) := by
  obtain ⟨c, hbegins, -⟩ := token.begins_text
  have hfirst : nextItem (record.fields.length - ([kindField].length + 1) = 0)
      (token.text ++ ',' :: (renderText doubleKind ++ ']' :: rest)) = .ok (.next _) :=
    nextItem_first (hbegins.append _)
  have hquote : Begins (renderText doubleKind ++ ']' :: rest) '\"' :=
    .cons (by decide) (by decide) _
  have hsecond : nextItem (record.fields.length - (([] : List (Json.Field Draft)).length + 1) = 0)
      (',' :: (renderText doubleKind ++ ']' :: rest)) = .ok (.next _) :=
    nextItem_comma hquote
  have hkind (draft : Draft) :
      kindField.fill draft { depth } (renderText doubleKind ++ ']' :: rest) =
      .ok ({ draft with kind := some doubleKind }, ']' :: rest) :=
    (reads_string doubleKind).fill _ _ _ _ draft { depth } _ rfl (Nat.zero_le depth)
      (endsNumber_cons (by decide) rest)
  -- The value is in the first place of the array and its kind in the second one.
  unfold Record.read
  change (record.readFields { depth } [valueField, kindField] record.empty _ >>=
    fun read => record.build read.1 >>= fun value => pure (value, read.2)) = _ ↔ _
  rw [record.readFields_cons hfirst]
  change (within (.index 0) (readValue { depth } _ >>=
    fun read => pure (({ value := some read.1 } : Draft), read.2)) >>= _) >>= _ = _ ↔ _
  rw [readValue_text depth (endsNumber_cons (by decide) _)]
  refine ok_iff_of_bind (fun n hn => ?_) (fun fault hfault => ?_) given
  · rw [hn]
    change (record.readFields { depth } [kindField] { value := some (.number n) }
      (',' :: (renderText doubleKind ++ ']' :: rest)) >>=
        fun read => record.build read.1 >>= fun value => pure (value, read.2)) = _
    rw [record.readFields_cons hsecond, hkind]
    rfl
  · rw [hfault]
    exact ⟨_, rfl⟩

/-- The value of a list that goes on with the kind. -/
def list (depth : Nat) (rest : List Char) : Place where
  scope := { depth := depth + 1 }
  before := ['[']
  after := ',' :: (renderText doubleKind ++ ']' :: rest)
  rest
  ends := endsNumber_cons (by decide) _
  passes token given := by
    have hends : EndsNumber (',' :: (renderText doubleKind ++ ']' :: rest)) :=
      endsNumber_cons (by decide) _
    rw [List.singleton_append, read_list]
    simp only [token.readNumber_text_eq_ok_iff hends]

end Place

/-! ## Integers and fractions -/

/-- What labels tell of a number that is given at a place. -/
structure Tells (place : Place) (token : NumberToken) : Prop where
  /-- An integer of 64 bits other than `-0` is accepted, and its text is the token, digit for
  digit. -/
  word : token.IsWord → place.given token = .ok (.double (String.ofList token.text), place.rest)
  /-- The text of any other number that is accepted has the mark of a fraction. -/
  fraction : ¬token.IsWord → ∀ value rest, place.given token = .ok (value, rest) →
    ∃ numeral, value = .double numeral ∧ IsMarked numeral.toList
  /-- No such number is compared with the same text as an integer, wherever that is given. -/
  apart : ¬token.IsWord → ∀ value rest, place.given token = .ok (value, rest) →
    ∀ (other : Place) (word : NumberToken), word.IsWord →
      ∀ value' rest', other.given word = .ok (value', rest') → value.literal ≠ value'.literal

/-- A word gives its text. -/
theorem given_of_isWord (place : Place) {token : NumberToken} (h : token.IsWord) :
    place.given token = .ok (.double (String.ofList token.text), place.rest) := by
  rw [place.given_of_toNumber (NumberToken.toNumber_of_isWord h), numberText,
    NumberToken.renderInt_integer h]

/-- Any other token gives a marked text, if it gives any. -/
theorem exists_isMarked_of_given {place : Place} {token : NumberToken} (hword : ¬token.IsWord)
    {value : Value} {rest : List Char} (h : place.given token = .ok (value, rest)) :
    ∃ numeral, value = .double numeral ∧ IsMarked numeral.toList := by
  obtain ⟨n, hnumber, rfl⟩ := place.exists_of_given h
  have hprintable := isPrintable_of_toNumber hnumber
  obtain ⟨x, rfl⟩ := NumberToken.exists_float_of_toNumber hword hnumber
  exact ⟨_, rfl, isMarked_numberText hprintable⟩

/-- Integers are written in labels as they are given, and all other numbers with a mark that no
integer has. -/
theorem told_apart (place : Place) (token : NumberToken) : Tells place token where
  word := given_of_isWord place
  fraction hword _ _ := exists_isMarked_of_given hword
  apart hword value rest hvalue other word hother value' rest' hvalue' hliteral := by
    obtain ⟨numeral, rfl, hmarked⟩ := exists_isMarked_of_given hword hvalue
    rw [given_of_isWord other hother] at hvalue'
    obtain rfl := (Prod.mk.inj (Except.ok.inj hvalue')).1
    have hnumeral : numeral = String.ofList word.text := quote_inj.1 hliteral
    rw [hnumeral, String.toList_ofList] at hmarked
    exact not_isMarked_of_isWord hother hmarked

/-- The number `10 ^ 16`, written with an exponent that has no sign. -/
def tenToSixteen : NumberToken where
  negative := false
  whole := Text.digitsOf 1
  fraction := none
  exponent := some {
    mark := 'E'
    sign := []
    digits := Text.digitsOf 16
    isMark := .inr rfl
    isSign := .inl rfl
    isDigits := ⟨(isWhole_digitsOf 16).ne_nil, (isWhole_digitsOf 16).isDigit⟩ }
  isWhole := isWhole_digitsOf 1
  isDigits _ hdigits := absurd hdigits (Option.not_mem_none _)

/-- As the value of an object that is a whole document, it is no word, and its exponent is written
with a sign in labels. -/
theorem told_apart_tenToSixteen :
    (Place.object 126 []).before ++ (tenToSixteen.text ++ (Place.object 126 []).after) =
        "\x7b\"value\":1E16,\"_type\":\"DoubleValue\"\x7d".toList ∧
      (Place.object 126 []).given tenToSixteen = .ok (.double "1e+16", []) ∧
      ¬tenToSixteen.IsWord ∧ Tells (Place.object 126 []) tenToSixteen := by
  refine ⟨by decide +kernel, by decide +kernel, fun hword => ?_, told_apart _ tenToSixteen⟩
  exact Option.some_ne_none _ hword.exponent

end MetricGateway.Condition.Value
