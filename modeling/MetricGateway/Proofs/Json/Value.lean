import Mathlib.Data.Bool.AllAny
import MetricGateway.Json.Reader
import MetricGateway.Proofs.Json.Token

/-!
# Reading printed values

Printing a value and reading the text gives the value back, if it is a plain one (`IsPlain`): its
numbers are integers of 64 bits, the keys of its objects are in ascending order, and it is not
nested too deeply (`parse_print`). So plain values are told apart by their texts
(`IsPlain.print_inj`).

Lists and objects are read in rounds. What one round does is fixed by what reads the item or the
entry, so `readItems_renderItems` and `readEntries_renderEntries` take that as given; they serve
readers of records as well.
-/

namespace MetricGateway.Json

open Success

/-! ## Beginnings of printed values -/

/-- There is no blank to pass over before another character. -/
theorem skipSpace_cons {c : Char} (h : isSpace c = false) (rest : List Char) :
    skipSpace (c :: rest) = c :: rest :=
  List.dropWhile_cons_of_neg (by rw [h]; decide)

/-- A text that begins like a value: neither blank nor the end of a list. -/
structure Begins (text : List Char) (c : Char) : Prop where
  head : text.head? = some c
  notSpace : isSpace c = false
  notEnd : c ≠ ']'

/-- A character that is no blank and no closing bracket begins a text. -/
theorem Begins.cons {c : Char} (hspace : isSpace c = false) (hend : c ≠ ']') (rest : List Char) :
    Begins (c :: rest) c := ⟨rfl, hspace, hend⟩

/-- A text begins as it did when others follow it. -/
theorem Begins.append {text : List Char} {c : Char} (h : Begins text c) (rest : List Char) :
    Begins (text ++ rest) c := by
  refine ⟨?_, h.notSpace, h.notEnd⟩
  rw [List.head?_append, h.head]
  rfl

/-- A text that begins with a character has it in front. -/
theorem Begins.eq_cons {text : List Char} {c : Char} (h : Begins text c) :
    ∃ rest, text = c :: rest :=
  ⟨text.tail, List.eq_cons_of_mem_head? h.head⟩

/-- There is no blank at the beginning of a text that begins with something else. -/
theorem Begins.skipSpace_eq {text : List Char} {c : Char} (h : Begins text c) :
    skipSpace text = text := by
  obtain ⟨rest, rfl⟩ := h.eq_cons
  exact skipSpace_cons h.notSpace rest

/-- A digit begins a number and nothing else. -/
theorem begins_digit {c : Char} (h : c.isDigit = true) : isSpace c = false ∧ c ≠ ']' ∧ c ≠ 'n' := by
  refine ⟨?_, ?_, ?_⟩
  · unfold isSpace
    simp only [Bool.or_eq_false_iff, decide_eq_false_iff_not]
    refine ⟨⟨⟨?_, ?_⟩, ?_⟩, ?_⟩ <;> exact fun hc => absurd (hc ▸ h) (by decide)
  · exact fun hc => absurd (hc ▸ h) (by decide)
  · exact fun hc => absurd (hc ▸ h) (by decide)

/-- A printed integer begins with its sign or a digit. -/
theorem begins_renderInt (n : Int) :
    ∃ c, Begins (renderInt n) c ∧ (c = '-' ∨ c.isDigit = true) := by
  unfold renderInt
  split
  · exact ⟨'-', .cons (by decide) (by decide) _, .inl rfl⟩
  · cases hdigits : Text.digitsOf n.natAbs with
    | nil => exact absurd hdigits Nat.toDigits_ne_nil
    | cons d digits =>
      have hd : d.isDigit = true :=
        isDigit_of_mem_digitsOf (n := n.natAbs) (by rw [hdigits]; exact List.mem_cons_self)
      exact ⟨d, .cons (begins_digit hd).1 (begins_digit hd).2.1 _, .inr hd⟩

/-! ## Values without parts -/

/-- A quoted text is its quote, its characters and what follows. -/
theorem renderText_append (s : String) (rest : List Char) :
    renderText s ++ rest = '\"' :: (s.toList.flatMap escapeChar ++ '\"' :: rest) := by
  unfold renderText
  rw [List.cons_append, List.append_assoc, List.singleton_append]

/-- A quoted text is read as a text. -/
theorem readScalar_renderText (s : String) (rest : List Char) :
    readScalar none (renderText s ++ rest) = .ok (.string s, rest) := by
  unfold readScalar
  rw [renderText_append, skipSpace_cons (by decide)]
  change (readText none _ >>= fun read => pure (Found.string read.1, read.2)) = _
  rw [readText_renderText]
  rfl

/-- A sign or a digit leads to a number. -/
theorem readScalar_of_begins {text : List Char} {c : Char} (h : Begins text c)
    (hc : c = '-' ∨ c.isDigit = true) (mark : Option Char) :
    readScalar mark text = (readNumber text >>= fun read => pure (.number read.1, read.2)) := by
  obtain ⟨rest, rfl⟩ := h.eq_cons
  have hother : ∀ other ∈ "ntf\"[\x7b".toList, c ≠ other := by
    have hall : ∀ other ∈ "ntf\"[\x7b".toList, other ≠ '-' ∧ ¬other.isDigit = true :=
      List.all_iff_forall_prop.1 (by decide)
    rintro other hmem rfl
    exact hc.elim (hall c hmem).1 (hall c hmem).2
  unfold readScalar
  rw [skipSpace_cons h.notSpace]
  split
  · next heq => cases heq
  -- The six characters that lead to other values are neither a sign nor a digit.
  iterate 6
    · next heq => exact absurd (List.cons.inj heq).1 (hother _ (by decide))
  · next heq =>
    obtain ⟨rfl, rfl⟩ := List.cons.inj heq
    exact if_pos hc

/-- The text of an integer is read as a number. -/
theorem readScalar_renderInt {n : Int} (hn : FitsWord n) (mark : Option Char) {rest : List Char}
    (h : EndsNumber rest) :
    readScalar mark (renderInt n ++ rest) = .ok (.number (.integer n), rest) := by
  obtain ⟨c, hbegins, hc⟩ := begins_renderInt n
  rw [readScalar_of_begins (hbegins.append rest) hc, readNumber_renderInt hn h]
  rfl

/-! ## Lists -/

/-- Printed items with a comma before each of them. -/
def renderMoreItems (items : List Json) : List Char := items.flatMap fun item => ',' :: item.render

/-- Printed items are the first one and the others behind commas. -/
theorem renderItems_cons (item : Json) (more : List Json) :
    renderItems (item :: more) = item.render ++ renderMoreItems more := by
  induction more generalizing item with
  | nil =>
    rw [renderItems]
    exact (List.append_nil _).symm
  | cons next rest ih =>
    rw [renderItems, ih]
    rfl

/-- What follows an item of a list: another item, or the end. -/
theorem endsNumber_renderMoreItems (items : List Json) (rest : List Char) :
    EndsNumber (renderMoreItems items ++ ']' :: rest) := by
  cases items with
  | nil => exact endsNumber_cons (by decide) rest
  | cons item more => exact endsNumber_cons (by decide) _

/-- Each item has a character of its own in a text. -/
theorem length_le_flatMap_cons {α : Type} (items : List α) (c : Char) (text : α → List Char) :
    items.length ≤ (items.flatMap fun item => c :: text item).length := by
  induction items with
  | nil => exact Nat.le_refl 0
  | cons item more ih =>
    rw [List.flatMap_cons, List.length_append, List.length_cons, List.length_cons]
    omega

/-- The text of a list has room for all its items. -/
theorem room_renderItems (items : List Json) (rest : List Char) :
    items.length < (renderItems items ++ ']' :: rest).length + 1 := by
  cases items with
  | nil => exact Nat.succ_pos _
  | cons item more =>
    have hmore : more.length ≤ (renderMoreItems more).length := length_le_flatMap_cons more _ _
    simp only [renderItems_cons, List.length_append, List.length_cons]
    omega

/-! ### Rounds -/

/-- The first item stands behind the opening bracket. -/
theorem nextItem_first {text : List Char} {c : Char} (h : Begins text c) :
    nextItem true text = .ok (.next text) := by
  obtain ⟨rest, rfl⟩ := h.eq_cons
  unfold nextItem
  rw [h.skipSpace_eq]
  split
  · next heq => cases heq
  · next heq => exact absurd (List.cons.inj heq).1 h.notEnd
  · next heq =>
    obtain ⟨rfl, rfl⟩ := List.cons.inj heq
    rfl

/-- The next item stands behind a comma. -/
theorem nextItem_comma {text : List Char} {c : Char} (h : Begins text c) :
    nextItem false (',' :: text) = .ok (.next text) := by
  unfold nextItem
  rw [skipSpace_cons (by decide)]
  split
  · next heq => cases heq
  · next heq => exact absurd (List.cons.inj heq).1 (by decide)
  · next heq =>
    obtain ⟨rfl, rfl⟩ := List.cons.inj heq
    rw [if_neg Bool.false_ne_true, if_pos rfl, h.skipSpace_eq]
    obtain ⟨rest, rfl⟩ := h.eq_cons
    split
    · next heq => cases heq
    · next heq => exact absurd (List.cons.inj heq).1 h.notEnd
    · rfl

section Items

variable {α : Type} {item : List Char → Except Fault (α × List Char)} {toJson : α → Json}

/-- A value is read from its text, which begins like one. -/
structure ReadsItem (item : List Char → Except Fault (α × List Char)) (toJson : α → Json)
    (value : α) : Prop where
  begins : ∃ c, Begins (toJson value).render c
  read : ∀ rest, EndsNumber rest → item ((toJson value).render ++ rest) = .ok (value, rest)

/-- One round reads the item that comes next. -/
theorem readItems_succ {before : List α} {input start rest : List Char} {value : α}
    (hnext : nextItem before.isEmpty input = .ok (.next start))
    (hitem : item start = .ok (value, rest)) (room : Nat) :
    readItems item (room + 1) before input = readItems item room (value :: before) rest := by
  rw [readItems, hnext]
  change (within (.index before.length) (item start) >>= fun read =>
    readItems item room (read.1 :: before) read.2) = _
  rw [hitem]
  rfl

/-- Behind other items, all items are read up to the end of the list. -/
theorem readItems_renderMoreItems {values : List α}
    (h : ∀ value ∈ values, ReadsItem item toJson value)
    {before : List α} (hbefore : before ≠ []) {room : Nat} (hroom : values.length < room)
    (rest : List Char) :
    readItems item room before (renderMoreItems (values.map toJson) ++ ']' :: rest) =
      .ok (before.reverse ++ values, rest) := by
  induction values generalizing before room with
  | nil =>
    cases room with
    | zero => exact absurd hroom (Nat.lt_irrefl 0)
    | succ room =>
      rw [List.append_nil]
      rfl
  | cons value values ih =>
    cases room with
    | zero => exact absurd hroom (Nat.not_lt_zero _)
    | succ room =>
      have hvalue := h value List.mem_cons_self
      have hvalues : ∀ other ∈ values, ReadsItem item toJson other :=
        fun other hother => h other (List.mem_cons_of_mem _ hother)
      obtain ⟨c, hbegins⟩ := hvalue.begins
      -- Something is there already, so a comma has to come before the next item, and does.
      have hempty : before.isEmpty = false := by
        cases before with
        | nil => exact absurd rfl hbefore
        | cons first others => rfl
      have htext : renderMoreItems ((value :: values).map toJson) ++ ']' :: rest =
          ',' :: ((toJson value).render ++ (renderMoreItems (values.map toJson) ++ ']' ::
            rest)) := by
        unfold renderMoreItems
        rw [List.map_cons, List.flatMap_cons, List.cons_append, List.cons_append, List.append_assoc]
      rw [htext, readItems_succ (by rw [hempty]; exact nextItem_comma (hbegins.append _))
        (hvalue.read _ (endsNumber_renderMoreItems _ rest)),
        ih hvalues (List.cons_ne_nil _ _) (Nat.lt_of_succ_lt_succ hroom), List.reverse_cons,
        List.append_assoc, List.singleton_append]

/-- The printed items of a list are read, behind its opening bracket. -/
theorem readItems_renderItems {values : List α} (h : ∀ value ∈ values, ReadsItem item toJson value)
    {room : Nat} (hroom : values.length < room) (rest : List Char) :
    readItems item room [] (renderItems (values.map toJson) ++ ']' :: rest) =
      .ok (values, rest) := by
  cases room with
  | zero => exact absurd hroom (Nat.not_lt_zero _)
  | succ room =>
    cases values with
    | nil => rfl
    | cons value values =>
      have hvalue := h value List.mem_cons_self
      have hvalues : ∀ other ∈ values, ReadsItem item toJson other :=
        fun other hother => h other (List.mem_cons_of_mem _ hother)
      obtain ⟨c, hbegins⟩ := hvalue.begins
      have hnext (tail : List Char) :
          nextItem ([] : List α).isEmpty ((toJson value).render ++ tail) =
          .ok (.next ((toJson value).render ++ tail)) := nextItem_first (hbegins.append tail)
      rw [List.map_cons, renderItems_cons, List.append_assoc,
        readItems_succ (hnext _) (hvalue.read _ (endsNumber_renderMoreItems _ rest)),
        readItems_renderMoreItems hvalues (List.cons_ne_nil _ _) (Nat.lt_of_succ_lt_succ hroom)]
      rfl

end Items

/-! ## Objects -/

/-- Printed entries with a comma before each of them. -/
def renderMoreEntries (entries : List (String × Json)) : List Char :=
  entries.flatMap fun entry => ',' :: (renderText entry.1 ++ ':' :: entry.2.render)

/-- Printed entries are the first one and the others behind commas. -/
theorem renderEntries_cons (key : String) (value : Json) (more : List (String × Json)) :
    renderEntries ((key, value) :: more) =
      renderText key ++ ':' :: (value.render ++ renderMoreEntries more) := by
  induction more generalizing key value with
  | nil =>
    rw [renderEntries]
    unfold renderMoreEntries
    rw [List.flatMap_nil, List.append_nil]
  | cons next rest ih =>
    obtain ⟨nextKey, nextValue⟩ := next
    rw [renderEntries, ih]
    unfold renderMoreEntries
    rw [List.flatMap_cons, List.cons_append, List.append_assoc, List.cons_append]

/-- A number ends before the next entry, and before the end of an object. -/
theorem endsNumber_renderMoreEntries (entries : List (String × Json)) (rest : List Char) :
    EndsNumber (renderMoreEntries entries ++ '\x7d' :: rest) := by
  cases entries with
  | nil => exact endsNumber_cons (by decide) rest
  | cons entry more => exact endsNumber_cons (by decide) _

/-- The text of an object has room for all its entries. -/
theorem room_renderEntries (entries : List (String × Json)) (rest : List Char) :
    entries.length < (renderEntries entries ++ '\x7d' :: rest).length + 1 := by
  cases entries with
  | nil => exact Nat.succ_pos _
  | cons entry more =>
    obtain ⟨key, value⟩ := entry
    have hmore : more.length ≤ (renderMoreEntries more).length := length_le_flatMap_cons more _ _
    simp only [renderEntries_cons, List.length_append, List.length_cons]
    omega

section Entries

variable {σ : Type} {entry : σ → String → List Char → Except Fault (σ × List Char)}

/-- Entries lead from one state to another: each is read from behind its key. -/
inductive Gathers (entry : σ → String → List Char → Except Fault (σ × List Char)) :
    σ → List (String × Json) → σ → Prop where
  | nil (state : σ) : Gathers entry state [] state
  | cons {state next last : σ} {key : String} {value : Json} {more : List (String × Json)}
    (read : ∀ rest, EndsNumber rest →
      entry state key (':' :: (value.render ++ rest)) = .ok (next, rest))
    (gathers : Gathers entry next more last) : Gathers entry state ((key, value) :: more) last

/-- The first key stands behind the opening bracket. -/
theorem nextKey_first (rest : List Char) : nextKey true ('\"' :: rest) = .ok (.next rest) := rfl

/-- The next key stands behind a comma. -/
theorem nextKey_comma (rest : List Char) :
    nextKey false (',' :: '\"' :: rest) = .ok (.next rest) := rfl

/-- One round goes on from what is read behind the key that comes next. -/
theorem readEntries_bind {isFirst : Bool} {state : σ} {key : String} {input afterKey : List Char}
    (hkey : nextKey isFirst input =
      .ok (.next (key.toList.flatMap escapeChar ++ '\"' :: afterKey))) (room : Nat) :
    readEntries none entry (room + 1) isFirst state input =
      (entry state key afterKey >>= fun read => readEntries none entry room false read.1
        read.2) := by
  rw [readEntries, hkey]
  change (within .unknown (readText none _) >>= fun read =>
    entry state read.1 read.2 >>= fun read =>
      readEntries none entry room false read.1 read.2) = _
  rw [readText_renderText]
  rfl

/-- One round reads the entry whose key comes next. -/
theorem readEntries_succ {isFirst : Bool} {state next : σ} {key : String}
    {input afterKey rest : List Char}
    (hkey : nextKey isFirst input =
      .ok (.next (key.toList.flatMap escapeChar ++ '\"' :: afterKey)))
    (hentry : entry state key afterKey = .ok (next, rest)) (room : Nat) :
    readEntries none entry (room + 1) isFirst state input =
      readEntries none entry room false next rest := by
  rw [readEntries_bind hkey, hentry]
  rfl

/-- Behind other entries, all entries are read up to the end of the object. -/
theorem readEntries_renderMoreEntries {state last : σ} {entries : List (String × Json)}
    (h : Gathers entry state entries last) {room : Nat} (hroom : entries.length < room)
    (rest : List Char) :
    readEntries none entry room false state (renderMoreEntries entries ++ '\x7d' :: rest) =
      .ok (last, rest) := by
  -- The states of the rounds are those of `Gathers`, so the induction follows it.
  induction h generalizing room with
  | nil state =>
    cases room with
    | zero => exact absurd hroom (Nat.lt_irrefl 0)
    | succ room => rfl
  | @cons state next last key value more hread _ ih =>
    cases room with
    | zero => exact absurd hroom (Nat.not_lt_zero _)
    | succ room =>
      have htext : renderMoreEntries ((key, value) :: more) ++ '\x7d' :: rest =
          ',' :: '\"' :: (key.toList.flatMap escapeChar ++ '\"' :: ':' ::
            (value.render ++ (renderMoreEntries more ++ '\x7d' :: rest))) := by
        unfold renderMoreEntries
        rw [List.flatMap_cons, List.cons_append, List.cons_append, List.append_assoc,
          List.append_assoc, renderText_append, List.cons_append]
      rw [htext, readEntries_succ (nextKey_comma _)
        (hread _ (endsNumber_renderMoreEntries more rest))]
      exact ih (Nat.lt_of_succ_lt_succ hroom)

/-- The printed entries of an object are read, behind its opening bracket. -/
theorem readEntries_renderEntries {state last : σ} {entries : List (String × Json)}
    (h : Gathers entry state entries last) {room : Nat} (hroom : entries.length < room)
    (rest : List Char) :
    readEntries none entry room true state (renderEntries entries ++ '\x7d' :: rest) =
      .ok (last, rest) := by
  cases room with
  | zero => exact absurd hroom (Nat.not_lt_zero _)
  | succ room =>
    cases h with
    | nil => rfl
    | @cons _ next _ key value more hread hgathers =>
      rw [renderEntries_cons, List.append_assoc, renderText_append, List.cons_append,
        List.append_assoc, readEntries_succ (nextKey_first _)
          (hread _ (endsNumber_renderMoreEntries more rest)),
        readEntries_renderMoreEntries hgathers (Nat.lt_of_succ_lt_succ hroom)]

end Entries

/-! ## Plain values -/

/-- A value that comes back from its text: all its numbers are integers that fit words, the keys of
its objects are in ascending order, and at most `depth` brackets are open at once. -/
inductive IsPlain : Nat → Json → Prop where
  | null {depth : Nat} : IsPlain depth .null
  | boolean {depth : Nat} (b : Bool) : IsPlain depth (.boolean b)
  | integer {depth : Nat} {n : Int} (fits : FitsWord n) : IsPlain depth (.number (.integer n))
  | string {depth : Nat} (s : String) : IsPlain depth (.string s)
  | array {depth : Nat} {items : List Json} (items_plain : ∀ item ∈ items, IsPlain depth item) :
    IsPlain (depth + 1) (.array items)
  | object {depth : Nat} {entries : List (String × Json)}
    (ascending : (entries.map Prod.fst).Pairwise (· < ·))
    (values_plain : ∀ entry ∈ entries, IsPlain depth entry.2) :
    IsPlain (depth + 1) (.object entries)

/-- The text of a plain value begins like a value. -/
theorem IsPlain.begins {depth : Nat} {value : Json} (h : IsPlain depth value) :
    ∃ c, Begins value.render c := by
  cases h with
  | null => exact ⟨'n', .cons (by decide) (by decide) _⟩
  | boolean b => cases b <;> exact ⟨_, .cons (by decide) (by decide) _⟩
  | integer fits =>
    obtain ⟨c, hbegins, -⟩ := begins_renderInt _
    exact ⟨c, hbegins⟩
  | string s => exact ⟨'\"', .cons (by decide) (by decide) _⟩
  | array _ => exact ⟨'[', .cons (by decide) (by decide) _⟩
  | object _ _ => exact ⟨'\x7b', .cons (by decide) (by decide) _⟩

/-- A key that is larger than all the others goes to the end. -/
theorem insertEntry_append {key : String} {value : Json} {entries : List (String × Json)}
    (h : ∀ entry ∈ entries, entry.1 < key) :
    insertEntry key value entries = entries ++ [(key, value)] := by
  induction entries with
  | nil => rfl
  | cons entry rest ih =>
    obtain ⟨k, v⟩ := entry
    have hk : k < key := h (k, v) List.mem_cons_self
    have hrest : ∀ other ∈ rest, other.1 < key := fun other hother =>
      h other (List.mem_cons_of_mem _ hother)
    have hlt : ¬key < k := String.lt_asymm hk
    have hne : key ≠ k := (String.ne_of_lt hk).symm
    rw [insertEntry, if_neg hlt, if_neg hne, ih hrest, List.cons_append]

/-- Behind an opening bracket, the items of a list are read. -/
theorem readAny_array (mark : Option Char) (depth : Nat) (text : List Char) :
    readAny mark (depth + 1) ('[' :: text) =
      (readItems (readAny mark depth) (text.length + 1) [] text >>= fun read =>
        pure (.array read.1, read.2)) := by
  rw [readAny]
  rfl

/-- How an entry of an object of any shape is read. -/
def anyEntry (mark : Option Char) (depth : Nat) (entries : List (String × Json)) (key : String)
    (input : List Char) : Except Fault (List (String × Json) × List Char) :=
  readMember key (readAny mark depth) input >>= fun read =>
    pure (insertEntry key read.1 entries, read.2)

/-- Behind an opening brace, the entries of an object are read. -/
theorem readAny_object (mark : Option Char) (depth : Nat) (text : List Char) :
    readAny mark (depth + 1) ('\x7b' :: text) =
      (readEntries mark (anyEntry mark depth) (text.length + 1) true [] text >>= fun read =>
        pure (.object read.1, read.2)) := by
  rw [readAny]
  rfl

/-- Behind its key and a colon, a member is read as its value is. -/
theorem readMember_colon {α : Type} {read : List Char → Except Fault (α × List Char)}
    {text rest : List Char} {value : α} (h : read text = .ok (value, rest)) (key : String) :
    readMember key read (':' :: text) = .ok (value, rest) := by
  unfold readMember
  change within (.key key) (read text) = _
  rw [h]
  rfl

/-- Entries in the order in which they are kept, the last one of each key. -/
def gathered (before entries : List (String × Json)) : List (String × Json) :=
  entries.foldl (fun there entry => insertEntry entry.1 entry.2 there) before

/-- Entries are gathered one by one, each in the place of its key. -/
theorem gathers_gathered {depth : Nat} {entries : List (String × Json)}
    (hread : ∀ entry ∈ entries, ∀ rest, EndsNumber rest →
      readAny none depth (entry.2.render ++ rest) = .ok (entry.2, rest))
    (before : List (String × Json)) :
    Gathers (anyEntry none depth) before entries (gathered before entries) := by
  induction entries generalizing before with
  | nil => exact .nil before
  | cons entry more ih =>
    obtain ⟨key, value⟩ := entry
    refine .cons (fun rest hrest => ?_)
      (ih (fun entry hentry => hread entry (List.mem_cons_of_mem _ hentry)) _)
    unfold anyEntry
    rw [readMember_colon (hread (key, value) List.mem_cons_self rest hrest), ok_bind]
    rfl

/-- Entries with ascending keys are kept in their order. -/
theorem gathered_of_ascending {before entries : List (String × Json)}
    (hascending : ((before ++ entries).map Prod.fst).Pairwise (· < ·)) :
    gathered before entries = before ++ entries := by
  induction entries generalizing before with
  | nil => exact (List.append_nil before).symm
  | cons entry more ih =>
    -- The keys ascend, so the next one has its place at the end.
    have hinsert : insertEntry entry.1 entry.2 before = before ++ [entry] := by
      refine insertEntry_append fun other hother => ?_
      rw [List.map_append] at hascending
      exact (List.pairwise_append.1 hascending).2.2 other.1 (List.mem_map_of_mem hother) entry.1
        List.mem_cons_self
    rw [← List.singleton_append, ← List.append_assoc] at hascending ⊢
    rw [← ih hascending, ← hinsert]
    rfl

/-- The text of an object is read as the entries that are gathered from it. -/
theorem readAny_renderObject {depth : Nat} {entries : List (String × Json)}
    (hread : ∀ entry ∈ entries, ∀ rest, EndsNumber rest →
      readAny none depth (entry.2.render ++ rest) = .ok (entry.2, rest)) (rest : List Char) :
    readAny none (depth + 1) ((object entries).render ++ rest) =
      .ok (object (gathered [] entries), rest) := by
  rw [render, List.cons_append, List.append_assoc, List.singleton_append, readAny_object,
    readEntries_renderEntries (gathers_gathered hread []) (room_renderEntries entries rest)]
  rfl

/-- Printing a plain value and reading the text gives the value back. -/
theorem readAny_render {depth : Nat} {value : Json} (h : IsPlain depth value) {rest : List Char}
    (hrest : EndsNumber rest) : readAny none depth (value.render ++ rest) = .ok (value, rest) := by
  -- Each bracket takes one of the levels that are left, as it does in the text.
  induction h generalizing rest with
  | null =>
    rw [readAny]
    rfl
  | boolean b =>
    rw [readAny]
    cases b <;> rfl
  | integer fits =>
    rw [readAny, render, Number.render, readScalar_renderInt fits none hrest]
    rfl
  | string s =>
    rw [readAny, render, readScalar_renderText]
    rfl
  | @array depth items hitems ih =>
    have hread : ∀ item ∈ items, ReadsItem (readAny none depth) id item := by
      intro item hitem
      exact ⟨(hitems item hitem).begins, fun rest hrest => ih item hitem hrest⟩
    have hitems := readItems_renderItems hread (room_renderItems items rest) rest
    rw [List.map_id] at hitems
    rw [render, List.cons_append, List.append_assoc, List.singleton_append, readAny_array, hitems]
    rfl
  | @object depth entries ascending _ ih =>
    have hgathered : gathered [] entries = [] ++ entries := gathered_of_ascending ascending
    rw [readAny_renderObject fun entry hentry rest hrest => ih entry hentry hrest, hgathered,
      List.nil_append]

/-- What is read of the text of a value, with anything behind it, is read of the text alone. -/
theorem parse_of_readAny {value result : Json}
    (h : ∀ rest, EndsNumber rest → readAny none maxDepth (value.render ++ rest) =
      .ok (result, rest)) :
    parse value.print = .ok result := by
  have hread := h [] endsNumber_nil
  rw [List.append_nil] at hread
  unfold parse print
  rw [String.toList_ofList, hread]
  rfl

/-- The text of a plain value is read as the value. -/
theorem parse_print {value : Json} (h : IsPlain maxDepth value) : parse value.print = .ok value :=
  parse_of_readAny fun _ => readAny_render h

/-- The text of an object of plain values is read with its entries in the order of their keys. -/
theorem parse_print_object {entries : List (String × Json)}
    (h : ∀ entry ∈ entries, IsPlain (maxDepth - 1) entry.2) :
    parse (object entries).print = .ok (object (gathered [] entries)) :=
  parse_of_readAny fun rest _ =>
    readAny_renderObject (fun entry hentry _ => readAny_render (h entry hentry)) rest

/-- Plain values are told apart by their texts. -/
theorem IsPlain.print_inj {value other : Json} (hvalue : IsPlain maxDepth value)
    (hother : IsPlain maxDepth other) (h : value.print = other.print) : value = other := by
  have hparse := parse_print hvalue
  rw [h, parse_print hother] at hparse
  exact (Except.ok.inj hparse).symm

end MetricGateway.Json
