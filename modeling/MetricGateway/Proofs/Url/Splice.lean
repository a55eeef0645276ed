import MetricGateway.Proofs.Url.Base

/-!
# Texts spliced into the path of a URL

Whoever puts a text between two slashes of a URL has it read with the rest: line breaks in it count
for nothing, marks in it end a segment or the path, and dots take the segment before them away
(`Base.read_spliced`). The text stays a segment of its own in exactly the cases that `IsSegment`
lists (`Base.spliced_eq_below_iff`).
-/

namespace MetricGateway

open Text
open Url (isSlash)

namespace Path

variable {separates : Char → Bool}

/-- No piece of a text holds what separates the pieces. -/
theorem separates_of_mem_splitWhere {text piece : List Char}
    (h : piece ∈ splitWhere separates text) {c : Char} (hc : c ∈ piece) : separates c = false := by
  induction text generalizing piece c with
  | nil =>
    rw [splitWhere, List.mem_singleton] at h
    subst h
    cases hc
  | cons d rest ih =>
    rw [splitWhere] at h
    split at h
    next hd =>
      rcases List.mem_cons.1 h with rfl | h
      · cases hc
      · exact ih h hc
    next hd =>
      -- The character goes to the front of the first piece of the rest.
      rcases List.mem_cons.1 h with rfl | h
      · rcases List.mem_cons.1 hc with rfl | hc
        · exact Bool.eq_false_iff.2 hd
        · cases hpieces : splitWhere separates rest with
          | nil =>
            rw [hpieces] at hc
            cases hc
          | cons first others =>
            have hfirst : first ∈ splitWhere separates rest := hpieces ▸ List.mem_cons_self
            rw [hpieces] at hc
            exact ih hfirst hc
      · exact ih (List.mem_of_mem_drop h) hc

/-- Taking the last segment away leaves those before it. -/
theorem up_sublist (before : List (List Char)) : (up before).Sublist before := by
  cases before with
  | nil => exact List.Sublist.refl _
  | cons last before =>
    rw [up]
    split
    · exact List.Sublist.refl _
    · exact List.sublist_cons_self _ _

/-- What is left was there, but for an empty segment that dots at the end leave. -/
theorem mem_resolve {before segments : List (List Char)} {segment : List Char}
    (h : segment ∈ resolve before segments) :
    segment = [] ∨ segment ∈ before ∨ segment ∈ segments := by
  -- A segment that goes up drops one, and one that stays here adds at most an empty one at the end.
  fun_induction resolve before segments with
  | case1 before => exact .inr (.inl (List.mem_reverse.1 h))
  | case2 before last hup =>
    rcases List.mem_cons.1 (List.mem_reverse.1 h) with h | h
    · exact .inl h
    · exact .inr (.inl ((up_sublist before).subset h))
  | case3 before last hup hhere =>
    rcases List.mem_cons.1 (List.mem_reverse.1 h) with h | h
    · exact .inl h
    · exact .inr (.inl h)
  | case4 before last hup hhere =>
    rcases List.mem_cons.1 (List.mem_reverse.1 h) with h | h
    · exact .inr (.inr (List.mem_singleton.2 h))
    · exact .inr (.inl h)
  | case5 before next rest hrest hup ih =>
    rcases ih h with h | h | h
    · exact .inl h
    · exact .inr (.inl ((up_sublist before).subset h))
    · exact .inr (.inr (List.mem_cons_of_mem _ h))
  | case6 before next rest hrest hup hhere ih =>
    rcases ih h with h | h | h
    · exact .inl h
    · exact .inr (.inl h)
    · exact .inr (.inr (List.mem_cons_of_mem _ h))
  | case7 before next rest hrest hup hhere ih =>
    rcases ih h with h | h | h
    · exact .inl h
    · rcases List.mem_cons.1 h with rfl | h
      · exact .inr (.inr List.mem_cons_self)
      · exact .inr (.inl h)
    · exact .inr (.inr (List.mem_cons_of_mem _ h))

/-- Plain segments are left, and what is behind them is resolved after them. -/
theorem resolve_append_of_isPlain {before segments rest : List (List Char)}
    (h : ∀ segment ∈ segments, IsPlain segment) (hrest : rest ≠ []) :
    resolve before (segments ++ rest) = resolve (segments.reverse ++ before) rest := by
  induction segments generalizing before with
  | nil => rfl
  | cons segment segments ih =>
    have hsegment := h segment List.mem_cons_self
    have hup : ¬Path.isUp segment = true := by simp [hsegment.isUp]
    have hhere : ¬Path.isHere segment = true := by simp [hsegment.isHere]
    have hne : segments ++ rest ≠ [] := List.append_ne_nil_of_right_ne_nil _ hrest
    rw [List.cons_append, resolve, if_neg hup, if_neg hhere,
      ih fun s hs => h s (List.mem_cons_of_mem _ hs), List.reverse_cons, List.append_assoc]
    · rfl
    · exact hne

/-- Before a plain segment, a segment is left with all before it unless it is dots. -/
theorem resolve_pair_iff {before : List (List Char)} {segment last : List Char}
    (h : IsPlain last) :
    resolve before.reverse [segment, last] = before ++ [segment, last] ↔
      isHere segment = false ∧ isUp segment = false := by
  have hlast (rest : List (List Char)) : resolve rest [last] = rest.reverse ++ [last] :=
    resolve_of_isPlain fun s hs => List.mem_singleton.1 hs ▸ h
  -- A segment that is dropped leaves the path too short.
  have hshort {rest : List (List Char)} (hrest : rest.length ≤ before.length) :
      resolve rest [last] ≠ before ++ [segment, last] := by
    intro heq
    have hlength := congrArg List.length heq
    rw [hlast] at hlength
    simp only [List.length_append, List.length_reverse, List.length_cons,
      List.length_nil] at hlength
    omega
  rw [resolve]
  · split
    next hup =>
      have hle := (up_sublist before.reverse).length_le
      rw [List.length_reverse] at hle
      simp [hshort hle, hup]
    next hup =>
      split
      next hhere =>
        have hle : before.reverse.length ≤ before.length := List.length_reverse.le
        simp [hshort hle, hhere]
      next hhere =>
        rw [hlast]
        simp [hup, hhere]
  · exact List.cons_ne_nil _ _

/-- The segments of a written path come before the pieces of what stands behind it. -/
theorem splitWhere_written_append {segments : List (List Char)}
    (h : ∀ segment ∈ segments, IsPlain segment) (rest : List Char) :
    ∃ path, written segments ++ '/' :: rest = '/' :: path ∧
      splitWhere (isSlash true) path = segments ++ splitWhere (isSlash true) rest := by
  induction segments with
  | nil => exact ⟨rest, rfl, rfl⟩
  | cons segment segments ih =>
    obtain ⟨path, hpath, hpieces⟩ := ih fun s hs => h s (List.mem_cons_of_mem _ hs)
    refine ⟨segment ++ '/' :: path, ?_, ?_⟩
    · rw [← hpath]
      simp [written]
    · have hsegment := (h segment List.mem_cons_self).noSlash
      rw [splitWhere_append_cons hsegment (by decide), hpieces, List.cons_append]

/-- Splitting leaves a segment at least. -/
theorem splitWhere_ne_nil (text : List Char) : splitWhere separates text ≠ [] := by
  cases text with
  | nil => exact List.cons_ne_nil _ _
  | cons c rest =>
    rw [splitWhere]
    split <;> exact List.cons_ne_nil _ _

/-- Behind plain segments, a text is read in pieces, and dots in it reach back to the segments. -/
theorem read_written_append {segments : List (List Char)}
    (h : ∀ segment ∈ segments, IsPlain segment) (rest : List Char) :
    ∃ path, written segments ++ '/' :: rest = '/' :: path ∧
      read (isSlash true) path =
        .segments (resolve segments.reverse ((splitWhere (isSlash true) rest).map encode)) := by
  obtain ⟨path, hpath, hpieces⟩ := splitWhere_written_append h rest
  have hencode : segments.map encode = segments :=
    (List.map_congr_left fun s hs => encode_of_isPlain (h s hs)).trans (List.map_id _)
  have hne : (splitWhere (isSlash true) rest).map encode ≠ [] := by
    rw [Ne, List.map_eq_nil_iff]
    exact splitWhere_ne_nil rest
  refine ⟨path, hpath, ?_⟩
  unfold read
  rw [hpieces, List.map_append, hencode, resolve_append_of_isPlain h hne, List.append_nil]

/-- Without slashes, a text before a plain segment is one piece. -/
theorem map_encode_splitWhere_pair {text last : List Char}
    (h : ∀ c ∈ text, isSlash true c = false) (hlast : IsPlain last) :
    (splitWhere (isSlash true) (text ++ '/' :: last)).map encode = [encode text, last] := by
  rw [splitWhere_append_cons h (by decide), splitWhere_of_none hlast.noSlash, List.map_cons,
    List.map_singleton, encode_of_isPlain hlast]

/-- The characters of a segment as it is written. -/
theorem mem_encode {segment : List Char} {c : Char} (h : c ∈ encode segment) :
    keeps c = true ∧ c.toNat < 0x80 ∧ (c ∈ segment ∨ c = '%' ∨ isAlphanumeric c = true) := by
  obtain ⟨d, hd, hc⟩ := List.mem_flatMap.1 h
  unfold percentChar at hc
  split at hc
  next hkept =>
    rw [List.mem_singleton] at hc
    subst hc
    exact ⟨hkept.2, hkept.1, .inl hd⟩
  next =>
    obtain ⟨b, -, hc⟩ := List.mem_flatMap.1 hc
    have hsign := mem_percentByte hc
    have hbasic : c.toNat < 128 := by
      rcases hsign with rfl | halpha
      · decide
      · exact lt_of_keepsInForm (keepsInForm_of_isAlphanumeric halpha)
    have hkeeps : c = '%' ∨ isAlphanumeric c = true → keeps c = true :=
      forall_basic (p := fun c => c = '%' ∨ isAlphanumeric c = true → keeps c = true)
        (by decide) hbasic
    exact ⟨hkeeps hsign, hbasic, .inr hsign⟩

/-- A slash in a written segment stands in the segment. -/
theorem isSlash_of_mem_encode {segment : List Char}
    (h : ∀ c ∈ segment, isSlash true c = false) {c : Char} (hc : c ∈ encode segment) :
    isSlash true c = false := by
  obtain ⟨-, hbasic, hmem | hsign⟩ := mem_encode hc
  · exact h c hmem
  · exact forall_basic (p := fun c => c = '%' ∨ isAlphanumeric c = true → isSlash true c = false)
      (by decide) hbasic hsign

/-- A slash is written as it is. -/
theorem mem_encode_of_isSlash {segment : List Char} {c : Char} (h : c ∈ segment)
    (hc : isSlash true c = true) : c ∈ encode segment := by
  have hkept : c.toNat < 0x80 ∧ keeps c = true := by
    unfold isSlash at hc
    rw [Bool.true_and, Bool.or_eq_true, decide_eq_true_eq, decide_eq_true_eq] at hc
    rcases hc with rfl | rfl <;> decide
  have hself : percentChar keeps c = [c] := if_pos hkept
  exact List.mem_flatMap.2 ⟨c, h, hself ▸ List.mem_singleton_self c⟩

/-- A slash does not stay in a segment. -/
theorem isSlash_of_mem_resolve {before : List (List Char)}
    (hbefore : ∀ segment ∈ before, IsPlain segment) {text rest : List Char}
    (h : encode text ∈ resolve before.reverse ((splitWhere (isSlash true) rest).map encode)) :
    ∀ c ∈ text, isSlash true c = false := by
  intro c hc
  by_contra hslash
  rw [Bool.not_eq_false] at hslash
  have hwritten : c ∈ encode text := mem_encode_of_isSlash hc hslash
  -- A resolved segment is empty, one from before, or a piece between slashes.
  rcases mem_resolve h with hempty | hmem | hmem
  · rw [hempty] at hwritten
    cases hwritten
  · have hplain := (hbefore _ (List.mem_reverse.1 hmem)).noSlash c hwritten
    rw [hplain] at hslash
    cases hslash
  · obtain ⟨piece, hpiece, heq⟩ := List.mem_map.1 hmem
    rw [← heq] at hwritten
    have hnone : ∀ d ∈ piece, isSlash true d = false :=
      fun d hd => separates_of_mem_splitWhere hpiece hd
    rw [isSlash_of_mem_encode hnone hwritten] at hslash
    cases hslash

/-- Without a percent sign, a segment as it is written stands for the segment. -/
theorem percentDecode_encode {segment : List Char} (h : '%' ∉ segment) :
    percentDecode (encode segment) = utf8Of segment := by
  induction segment with
  | nil => rfl
  | cons c rest ih =>
    have hrest := ih fun hmem => h (List.mem_cons_of_mem _ hmem)
    have hc : c ≠ '%' := fun heq => h (heq ▸ List.mem_cons_self)
    change percentDecode (percentChar keeps c ++ encode rest) =
      String.utf8EncodeChar c ++ utf8Of rest
    unfold percentChar
    split
    · rw [List.singleton_append, percentDecode_cons_of_ne hc, hrest]
    · rw [percentDecode_flatMap_percentByte, hrest]

end Path

namespace Url

/-- What counts of a text within a URL. -/
def counted (text : List Char) : List Char := text.filter fun c => !isDropped c

/-- Texts are counted one after the other. -/
theorem counted_append (text other : List Char) :
    counted (text ++ other) = counted text ++ counted other := List.filter_append _ _

/-- All characters of a visible text count. -/
theorem counted_of_isGraphic {text : List Char} (h : ∀ c ∈ text, IsGraphic c) :
    counted text = text := by
  refine List.filter_eq_self.2 fun c hc => ?_
  have hlow := (h c hc).1
  unfold isDropped
  rw [Bool.not_eq_true', ← Bool.not_eq_true]
  simp only [Bool.or_eq_true, decide_eq_true_eq]
  rintro ((rfl | rfl) | rfl) <;> exact absurd hlow (by decide)

/-- Between characters that count, only tabs and line breaks count for nothing. -/
theorem clean_eq_counted {text : List Char} (hfirst : ∀ c ∈ text.head?, isOuter c = false)
    (hlast : ∀ c ∈ text.getLast?, isOuter c = false) : clean text = counted text := by
  have hdrop : ∀ list : List Char, (∀ c ∈ list.head?, isOuter c = false) →
      list.dropWhile isOuter = list := by
    intro list hhead
    cases list with
    | nil => rfl
    | cons c rest =>
      have hc := hhead c rfl
      exact List.dropWhile_cons_of_neg (by simp [hc])
  have hreverse : ∀ c ∈ text.reverse.head?, isOuter c = false := by
    rw [List.head?_reverse]
    exact hlast
  unfold clean
  rw [hdrop text hfirst, hdrop text.reverse hreverse, List.reverse_reverse]
  rfl

/-- A text stays a segment of its own between the slashes of a URL. -/
structure IsSegment (text : List Char) : Prop where
  /-- No character of it ends a segment or the path. -/
  noMark : ∀ c ∈ text, c ∉ "/\\?#".toList
  /-- It is not read as one dot. -/
  isHere : Path.isHere (Path.encode text) = false
  /-- It is not read as two dots. -/
  isUp : Path.isUp (Path.encode text) = false

/-- A segment holds no slash. -/
theorem IsSegment.noSlash {text : List Char} (h : IsSegment text) :
    ∀ c ∈ text, isSlash true c = false := by
  intro c hc
  have hsign := h.noMark c hc
  unfold isSlash
  rw [Bool.true_and, ← Bool.not_eq_true, Bool.or_eq_true, decide_eq_true_eq, decide_eq_true_eq]
  rintro (rfl | rfl) <;> exact hsign (by decide)

/-- Neither a slash nor a plain segment holds the mark of a query or a fragment. -/
theorem not_mem_slash_cons {mark : Char} (hmark : mark ∈ "?#".toList) {last : List Char}
    (h : Path.IsPlain last) : mark ∉ '/' :: last := by
  have hsigns : ∀ sign ∈ "?#".toList, sign ≠ '/' ∧ Path.keeps sign = false :=
    List.all_iff_forall_prop.1 (by decide)
  intro hmem
  obtain ⟨hne, hkeeps⟩ := hsigns mark hmark
  rcases List.mem_cons.1 hmem with rfl | hmem
  · exact hne rfl
  · rw [(h.chars mark hmem).1] at hkeeps
    cases hkeeps

/-- A part of a text is missing only if its mark is. -/
theorem not_mem_of_splitAt {mark : Char} {text : List Char} (h : (splitAt mark text).2 = none) :
    mark ∉ text := by
  intro hmem
  unfold splitAt at h
  split at h
  next hdrop => exact absurd (List.dropWhile_eq_nil_iff.1 hdrop mark hmem) (by simp)
  next => cases h

/-- A mark that is not in front is looked for behind it. -/
theorem splitAt_append {mark : Char} {front : List Char} (h : mark ∉ front) (back : List Char) :
    splitAt mark (front ++ back) = (front ++ (splitAt mark back).1, (splitAt mark back).2) := by
  have hne := forall_ne_of_not_mem h
  unfold splitAt
  rw [List.dropWhile_append_of_pos hne]
  split
  · rfl
  · rw [List.takeWhile_append_of_pos hne]

namespace Base

variable (base : Base)

/-- The URL that is read of a text behind plain segments below a base URL. -/
def spliced (before : List (List Char)) (text : List Char) : Url :=
  let (rest, fragment) := splitAt '#' text
  let (rest, query) := splitAt '?' rest
  { base.below before with
    path := .segments (Path.resolve (base.segments ++ before).reverse
      ((Path.splitWhere (isSlash true) rest).map Path.encode))
    query := query.map (percentEncode (keepsInQuery true))
    fragment := fragment.map (percentEncode keepsInFragment) }

variable {before : List (List Char)}

/-- A text behind a base URL matters for the path, the query and the fragment only. -/
theorem spliced_eq (text : List Char) :
    base.spliced before text = { base.below before with
      path := (base.spliced before text).path
      query := (base.spliced before text).query
      fragment := (base.spliced before text).fragment } := rfl

/-- What stands before a text behind plain segments below a base URL. -/
def front (before : List (List Char)) : List Char :=
  "//".toList ++ base.authority ++ Path.written (base.segments ++ before)

/-- A clean text behind the place of a label is read as spliced. -/
theorem readClean_spliced (hbefore : ∀ segment ∈ before, Path.IsPlain segment)
    (text : List Char) :
    readClean (base.scheme ++ ':' :: (base.front before ++ '/' :: text)) =
      .ok (base.spliced before text) := by
  have hfile : ¬isFile base.scheme = true := by
    have hschemes : ∀ scheme ∈ Backend.schemes, ¬isFile scheme = true := by decide
    exact hschemes _ base.scheme_mem
  have hmark {mark : Char} (hmark : mark ∈ "?#".toList) : mark ∉ base.front before ++ ['/'] := by
    intro hmem
    rcases List.mem_append.1 hmem with hmem | hmem
    · exact (base.mem_below hbefore hmem).2 hmark
    · rw [List.mem_singleton] at hmem
      subst hmem
      exact absurd hmark (by decide)
  -- The marks of the fragment and the query are looked for behind the slash.
  have hsplit {mark : Char} (hsign : mark ∈ "?#".toList) (rest : List Char) :
      splitAt mark (base.front before ++ '/' :: rest) =
        (base.front before ++ '/' :: (splitAt mark rest).1, (splitAt mark rest).2) := by
    have happend := splitAt_append (hmark hsign) rest
    rwa [List.append_assoc, List.append_assoc] at happend
  have hread (rest : List Char) : readKnown base.scheme (base.front before ++ '/' :: rest) =
      .ok { base.below before with
        path := .segments (Path.resolve (base.segments ++ before).reverse
          ((Path.splitWhere (isSlash true) rest).map Path.encode)) } := by
    obtain ⟨path, hpath, hresolve⟩ :=
      Path.read_written_append (base.isPlain_append hbefore) rest
    unfold front
    rw [List.append_assoc, hpath, base.readKnown_slash, hresolve]
    rfl
  unfold readClean
  rw [splitScheme_of_mem base.scheme_mem]
  dsimp only
  rw [hsplit (by decide)]
  dsimp only
  rw [hsplit (by decide)]
  dsimp only
  rw [if_neg hfile, if_pos base.isKnown_scheme, hread, base.isKnown_scheme]
  rfl

/-- A text behind plain segments below a base URL is read as far as it counts. -/
theorem read_spliced (hbefore : ∀ segment ∈ before, Path.IsPlain segment) {text : List Char}
    (hne : text ≠ []) (hlast : ∀ c ∈ text.getLast?, isOuter c = false) :
    read (String.ofList (base.text ++ Path.written before ++ '/' :: text)) =
      .ok (base.spliced before (counted text)) := by
  have htext : base.text ++ Path.written before ++ '/' :: text =
      (base.scheme ++ ':' :: (base.front before ++ ['/'])) ++ text := by
    unfold Base.text front
    rw [Path.written_append]
    simp
  have hvisible : ∀ c ∈ base.scheme ++ ':' :: (base.front before ++ ['/']), IsGraphic c := by
    intro c hc
    rcases List.mem_append.1 hc with hc | hc
    · exact (mem_scheme base.scheme_mem hc).1
    rcases List.mem_cons.1 hc with rfl | hc
    · decide
    rcases List.mem_append.1 hc with hc | hc
    · exact (base.mem_below hbefore hc).1
    · rw [List.mem_singleton.1 hc]
      decide
  have houter {c : Char} (hc : IsGraphic c) : isOuter c = false := by
    have hlow := hc.1
    unfold isOuter
    rw [decide_eq_false_iff_not]
    omega
  -- Only the text behind the place can hold characters that are dropped, and none at its end.
  have hfront : base.scheme ++ ':' :: (base.front before ++ ['/']) ≠ [] :=
    List.append_ne_nil_of_right_ne_nil _ (List.cons_ne_nil _ _)
  have hclean : clean (base.scheme ++ ':' :: (base.front before ++ ['/']) ++ text) =
      base.scheme ++ ':' :: (base.front before ++ ['/']) ++ counted text := by
    rw [clean_eq_counted, counted_append, counted_of_isGraphic hvisible]
    · intro c hc
      rw [List.head?_append_of_ne_nil _ hfront] at hc
      exact houter (hvisible c (List.mem_of_mem_head? hc))
    · intro c hc
      rw [List.getLast?_append_of_ne_nil _ hne] at hc
      exact hlast c hc
  unfold read
  rw [String.toList_ofList, htext, hclean, ← base.readClean_spliced hbefore]
  simp

section Segment

variable {text last : List Char}

/-- Without the marks of a query and a fragment, all of a text belongs to the path. -/
theorem spliced_of_not_mem (hfragment : '#' ∉ text) (hquery : '?' ∉ text) :
    base.spliced before text = { base.below before with
      path := .segments (Path.resolve (base.segments ++ before).reverse
        ((Path.splitWhere (isSlash true) text).map Path.encode)) } := by
  unfold spliced
  rw [splitAt_of_not_mem hfragment]
  dsimp only
  rw [splitAt_of_not_mem hquery]
  rfl

/-- Before a plain segment, a text stays a segment of its own in exactly the cases of
`IsSegment`. -/
theorem spliced_eq_below_iff (hbefore : ∀ segment ∈ before, Path.IsPlain segment)
    (hlast : Path.IsPlain last) :
    base.spliced before (text ++ '/' :: last) = base.below (before ++ [Path.encode text, last]) ↔
      IsSegment text := by
  have hplain := base.isPlain_append hbefore
  have hpieces (hnone : ∀ c ∈ text, isSlash true c = false) :
      (Path.splitWhere (isSlash true) (text ++ '/' :: last)).map Path.encode =
        [Path.encode text, last] := Path.map_encode_splitWhere_pair hnone hlast
  constructor
  · -- Equal URLs have equal parts: neither has a fragment or a query, and the paths agree.
    intro heq
    have hfragment : '#' ∉ text ++ '/' :: last :=
      not_mem_of_splitAt (Option.map_eq_none_iff.1 (congrArg Url.fragment heq))
    have hquery : '?' ∉ text ++ '/' :: last := by
      have hnone : (splitAt '?' (splitAt '#' (text ++ '/' :: last)).1).2 = none :=
        Option.map_eq_none_iff.1 (congrArg Url.query heq)
      rw [splitAt_of_not_mem hfragment] at hnone
      exact not_mem_of_splitAt hnone
    rw [base.spliced_of_not_mem hfragment hquery] at heq
    have hpath := Path.segments.inj (congrArg Url.path heq)
    rw [← List.append_assoc] at hpath
    have hleft : Path.encode text ∈ Path.resolve (base.segments ++ before).reverse
        ((Path.splitWhere (isSlash true) (text ++ '/' :: last)).map Path.encode) := by
      rw [hpath]
      simp
    have hnone : ∀ c ∈ text, isSlash true c = false := Path.isSlash_of_mem_resolve hplain hleft
    rw [hpieces hnone, Path.resolve_pair_iff hlast] at hpath
    refine ⟨fun c hc hsign => ?_, hpath.1, hpath.2⟩
    have hsigns : ∀ sign ∈ "/\\?#".toList, isSlash true sign = true ∨ sign = '?' ∨ sign = '#' :=
      List.all_iff_forall_prop.1 (by decide)
    rcases hsigns c hsign with hslash | rfl | rfl
    · rw [hnone c hc] at hslash
      cases hslash
    · exact hquery (List.mem_append_left _ hc)
    · exact hfragment (List.mem_append_left _ hc)
  · intro h
    have hnot {mark : Char} (hsign : mark ∈ "?#".toList) (hsigns : mark ∈ "/\\?#".toList) :
        mark ∉ text ++ '/' :: last := by
      intro hmem
      rcases List.mem_append.1 hmem with hmem | hmem
      · exact h.noMark mark hmem hsigns
      · exact not_mem_slash_cons hsign hlast hmem
    rw [base.spliced_of_not_mem (hnot (by decide) (by decide)) (hnot (by decide) (by decide)),
      hpieces h.noSlash, (Path.resolve_pair_iff hlast).2 ⟨h.isHere, h.isUp⟩, List.append_assoc]
    rfl

end Segment

end Base

end Url

end MetricGateway
