import Mathlib.Data.List.TakeWhile
import MetricGateway.Backend
import MetricGateway.Proofs.Success
import MetricGateway.Proofs.Url.Path

/-!
# Plain base URLs

A base URL is plain if it is read as it is written: a scheme over which backends are called, a host,
a port and plain segments (`Base`). What is asked of the backend behind it goes to the same origin,
below the same segments (`Base.read_below`), and the pairs of the request are all that stands behind
the question mark (`Base.splitAt_render_below`).
-/

namespace MetricGateway.Url

open Text

/-- A base URL that is read as it is written. -/
structure Base where
  scheme : List Char
  host : Host
  port : Option Nat
  /-- The segments of the path, which ends without a slash. -/
  segments : List (List Char)
  scheme_mem : scheme ∈ Backend.schemes
  /-- The host is read as it is written. -/
  read_host : Host.read host.render = .ok host
  visible_host : ∀ c ∈ host.render, IsGraphic c
  percent_host : '%' ∉ host.render
  port_le : ∀ number, port = some number → number ≤ 65535
  isPlain : ∀ segment ∈ segments, Path.IsPlain segment

namespace Base

/-- A port behind its colon. -/
def portText : Option Nat → List Char
  | some number => ':' :: digitsOf number
  | none => []

/-- The host and the port. -/
def authority (base : Base) : List Char := base.host.render ++ portText base.port

/-- A base URL as it is written. -/
def text (base : Base) : List Char :=
  base.scheme ++ "://".toList ++ base.authority ++ Path.written base.segments

/-- The port, unless it is the usual one of the scheme. -/
def shownPort (base : Base) : Option Nat :=
  if usualPort base.scheme = base.port then none else base.port

/-- The scheme, the host and the port as a request shows them: the usual port goes unsaid. -/
def origin (base : Base) : List Char :=
  base.scheme ++ "://".toList ++ (base.host.render ++ portText base.shownPort)

/-- The URL below a base URL with more segments. -/
def below (base : Base) (more : List (List Char)) : Url where
  scheme := base.scheme
  host := some base.host
  port := base.shownPort
  path := .segments (base.segments ++ more)

end Base

/-! ## Parts of texts -/

section Mark

variable {mark : Char} {front : List Char}

/-- A text without the mark is not split. -/
theorem splitAt_of_not_mem (h : mark ∉ front) : splitAt mark front = (front, none) := by
  have hdrop : front.dropWhile (· ≠ mark) = [] :=
    List.dropWhile_eq_nil_iff.2 (forall_ne_of_not_mem h)
  unfold splitAt
  rw [hdrop]

/-- A text is split at the first mark. -/
theorem splitAt_append_cons (h : mark ∉ front) (back : List Char) :
    splitAt mark (front ++ mark :: back) = (front, some back) := by
  unfold splitAt
  rw [dropWhile_ne_append_cons h, takeWhile_ne_append_cons h]

end Mark

/-- All characters of a visible text count. -/
theorem clean_of_isGraphic {text : List Char} (h : ∀ c ∈ text, IsGraphic c) :
    clean text = text := by
  -- Nothing is trimmed at an end with a visible character.
  have hdrop : ∀ visible : List Char, (∀ c ∈ visible, IsGraphic c) →
      visible.dropWhile isOuter = visible := by
    intro visible hvisible
    cases visible with
    | nil => rfl
    | cons c rest =>
      have hc := (hvisible c List.mem_cons_self).1
      have houter : ¬isOuter c = true := by
        unfold isOuter
        rw [decide_eq_true_eq]
        omega
      exact List.dropWhile_cons_of_neg houter
  have hkept : ∀ c ∈ text, (!isDropped c) = true := by
    intro c hc
    have hlow := (h c hc).1
    unfold isDropped
    rw [Bool.not_eq_true', ← Bool.not_eq_true]
    simp only [Bool.or_eq_true, decide_eq_true_eq]
    rintro ((rfl | rfl) | rfl) <;> exact absurd hlow (by decide)
  have hreverse : ∀ c ∈ text.reverse, IsGraphic c := fun c hc => h c (List.mem_reverse.1 hc)
  unfold clean
  rw [hdrop text h, hdrop text.reverse hreverse, List.reverse_reverse]
  exact List.filter_eq_self.2 hkept

/-- The characters of the scheme of a backend. -/
theorem mem_scheme {scheme : List Char} (h : scheme ∈ Backend.schemes) {c : Char}
    (hc : c ∈ scheme) : IsGraphic c ∧ c ∉ "?#".toList := by
  have hall : ∀ d ∈ Backend.schemes.flatten, IsGraphic d ∧ d ∉ "?#".toList :=
    List.all_iff_forall_prop.1 (by decide)
  exact hall c (List.mem_flatten.2 ⟨scheme, h, hc⟩)

/-- The scheme of a backend is found before its colon. -/
theorem splitScheme_of_mem {scheme : List Char} (h : scheme ∈ Backend.schemes) (rest : List Char) :
    splitScheme (scheme ++ ':' :: rest) = some (scheme, rest) := by
  rcases List.mem_cons.1 h with rfl | h
  · rfl
  rcases List.mem_cons.1 h with rfl | h
  · rfl
  · cases h

/-- Without its sign, there is no user. -/
theorem splitUser_of_not_mem {authority : List Char} (h : '@' ∉ authority) :
    splitUser authority = (none, authority) := by
  have hhost : (authority.reverse.takeWhile (· ≠ '@')).reverse = authority := by
    have hreverse : '@' ∉ authority.reverse := fun hmem => h (List.mem_reverse.1 hmem)
    rw [List.takeWhile_eq_self_iff.2 (forall_ne_of_not_mem hreverse), List.reverse_reverse]
  unfold splitUser
  rw [hhost]
  exact if_pos rfl

section Port

variable {inBrackets : Bool} {text rest : List Char}

/-- A colon starts the port unless it stands between brackets. -/
theorem splitPort_append_of_plain
    (h : ∀ c ∈ text, (c = ':' → inBrackets = true) ∧ c ≠ '[' ∧ c ≠ ']') :
    splitPort inBrackets (text ++ rest) =
      (text ++ (splitPort inBrackets rest).1, (splitPort inBrackets rest).2) := by
  induction text with
  | nil => rfl
  | cons c text ih =>
    obtain ⟨hcolon, hopen, hclose⟩ := h c List.mem_cons_self
    have hhost : ¬(c = ':' ∧ (!inBrackets) = true) := by
      rintro ⟨hc, houtside⟩
      rw [hcolon hc] at houtside
      cases houtside
    rw [List.cons_append, splitPort, if_neg hhost, if_neg hopen, if_neg hclose]
    dsimp only
    rw [ih fun d hd => h d (List.mem_cons_of_mem _ hd)]
    rfl

/-- A host ends where its port starts. -/
theorem splitPort_append_of_isWritten (h : Host.IsWritten text) (rest : List Char) :
    splitPort false (text ++ rest) =
      (text ++ (splitPort false rest).1, (splitPort false rest).2) := by
  cases h with
  | name _ chars =>
    refine splitPort_append_of_plain fun c hc => ?_
    have hforbidden := (chars c hc).2
    refine ⟨?_, ?_, ?_⟩ <;> rintro rfl <;> exact absurd hforbidden (by decide)
  | @address inner signs _ =>
    have hinner : ∀ c ∈ inner, (c = ':' → true = true) ∧ c ≠ '[' ∧ c ≠ ']' := by
      intro c hc
      have hsign := signs c hc
      refine ⟨fun _ => rfl, ?_, ?_⟩ <;> rintro rfl <;> exact absurd hsign (by decide)
    have hopen (after : List Char) : splitPort false ('[' :: after) =
        ('[' :: (splitPort true after).1, (splitPort true after).2) := rfl
    -- Colons belong to the address until its bracket is closed.
    have hclose : splitPort true (']' :: rest) =
        (']' :: (splitPort false rest).1, (splitPort false rest).2) := rfl
    change splitPort false ('[' :: (inner ++ [']'] ++ rest)) = _
    rw [hopen, List.append_assoc, List.singleton_append, splitPort_append_of_plain hinner, hclose]
    simp

end Port

/-- The digits of a port are read as its number. -/
theorem readPort_digitsOf {scheme : List Char} {port : Nat} (h : port ≤ 65535) :
    readPort scheme (digitsOf port) =
      .ok (if usualPort scheme = some port then none else some port) := by
  have hvalue : valueOf (digitsOf port) = port := Nat.ofDigitChars_ten_toDigits
  have hdigits : (digitsOf port).all Char.isDigit = true :=
    List.all_eq_true.2 fun c hc => Nat.isDigit_of_mem_toDigits (by decide) (by decide) hc
  have hnonempty : digitsOf port ≠ [] := Nat.toDigits_ne_nil
  have hread : ¬((!(digitsOf port).all Char.isDigit) = true ∨ 65535 < port) := by
    rw [hdigits]
    rintro (hnot | hlarge)
    · cases hnot
    · omega
  unfold readPort
  rw [hvalue, if_neg hread]
  -- There are digits, so the port goes unsaid only if it is the usual one.
  by_cases husual : usualPort scheme = some port
  · rw [if_pos (.inr husual), if_pos husual]
  · rw [if_neg (not_or.2 ⟨hnonempty, husual⟩), if_neg husual]

namespace Base

variable (base : Base)

/-- The host of a base URL is one that can be written. -/
theorem isWritten_host : Host.IsWritten base.host.render :=
  Host.isWritten_render base.read_host base.visible_host base.percent_host

/-- No sign that means something in a URL stands in a host or a port. -/
theorem mem_append_portText {host : List Char} (hhost : Host.IsWritten host) {port : Option Nat}
    {c : Char} (h : c ∈ host ++ portText port) : IsGraphic c ∧ c ∉ "/\\?#@".toList := by
  rcases List.mem_append.1 h with h | h
  · exact hhost.mem h
  cases port with
  | none => cases h
  | some number =>
    rcases List.mem_cons.1 h with rfl | h
    · decide
    · have hdigit : ∀ d < 10, IsGraphic (Nat.digitChar d) ∧ Nat.digitChar d ∉ "/\\?#@".toList := by
        decide
      obtain ⟨d, hd, rfl⟩ := exists_of_mem_toDigits (by decide) h
      exact hdigit d hd

/-- The authority of a base URL holds no character that ends it. -/
theorem mem_authority {c : Char} (h : c ∈ base.authority) :
    IsGraphic c ∧ c ∉ "/\\?#@".toList :=
  mem_append_portText base.isWritten_host h

/-- No character that ends the authority stands in it. -/
theorem not_mem_authority {c : Char} (h : c ∈ "/\\?#@".toList) : c ∉ base.authority :=
  fun hmem => (base.mem_authority hmem).2 h

/-- The host and the digits of the port are told apart. -/
theorem splitPort_authority :
    splitPort false base.authority = (base.host.render, base.port.map digitsOf) := by
  have hsplit := splitPort_append_of_isWritten base.isWritten_host (portText base.port)
  have hport : splitPort false (portText base.port) = ([], base.port.map digitsOf) := by
    cases base.port with
    | none => rfl
    | some number => rfl
  rw [hport, List.append_nil] at hsplit
  exact hsplit

/-- The port of a base URL is read back. -/
theorem readPort_digits :
    readPort base.scheme ((base.port.map digitsOf).getD []) = .ok base.shownPort := by
  unfold shownPort
  cases hport : base.port with
  | none =>
    rw [ite_self]
    rfl
  | some number => exact readPort_digitsOf (base.port_le number hport)

/-- The scheme of a base URL is a known one. -/
theorem isKnown_scheme : isKnown base.scheme = true := by
  have hknown : ∀ scheme ∈ Backend.schemes, isKnown scheme = true := by decide
  exact hknown _ base.scheme_mem

/-- The host and the port are read as they are written, but the usual port goes unsaid. -/
theorem readAuthority_authority :
    readAuthority base.scheme base.authority = .ok {
      scheme := base.scheme
      host := some base.host
      port := base.shownPort
      path := .segments [] } := by
  have hhost : readHost base.scheme base.host.render = .ok base.host := by
    unfold readHost
    rw [if_pos base.isKnown_scheme, base.read_host]
  have hempty : ¬(decide (base.host.render = []) && (false || (base.port.map digitsOf).isSome))
      = true := by
    rw [decide_eq_false base.isWritten_host.ne_nil, Bool.false_and]
    exact Bool.false_ne_true
  unfold readAuthority
  -- Each part is read from what the part before it has left.
  rw [splitUser_of_not_mem (base.not_mem_authority (by decide))]
  dsimp only
  rw [splitPort_authority]
  change (readHost base.scheme base.host.render >>= _) = _
  rw [hhost, Success.ok_bind]
  refine (if_neg hempty).trans ?_
  change (readPort base.scheme ((base.port.map digitsOf).getD []) >>= _) = _
  rw [base.readPort_digits, Success.ok_bind]
  rfl

/-- No slash stands in the authority. -/
theorem isSlash_of_mem_authority {c : Char} (h : c ∈ base.authority) : isSlash true c = false := by
  have hsign := (base.mem_authority h).2
  unfold isSlash
  rw [Bool.true_and, ← Bool.not_eq_true, Bool.or_eq_true, decide_eq_true_eq, decide_eq_true_eq]
  rintro (rfl | rfl) <;> exact hsign (by decide)

/-- The authority is not empty. -/
theorem authority_ne_nil : base.authority ≠ [] :=
  List.append_ne_nil_of_left_ne_nil base.isWritten_host.ne_nil _

variable {more : List (List Char)}

/-- Plain segments stay plain below a base URL. -/
theorem isPlain_append (hplain : ∀ segment ∈ more, Path.IsPlain segment) :
    ∀ segment ∈ base.segments ++ more, Path.IsPlain segment := by
  intro segment h
  rcases List.mem_append.1 h with h | h
  · exact base.isPlain segment h
  · exact hplain segment h

/-- Behind the scheme, the authority ends where the first slash behind it starts the path. -/
theorem readKnown_slash (path : List Char) :
    readKnown base.scheme ("//".toList ++ base.authority ++ '/' :: path) =
      .ok { base.below [] with path := Path.read (isSlash true) path } := by
  have hdrop : ("//".toList ++ base.authority ++ '/' :: path).dropWhile (isSlash true) =
      base.authority ++ '/' :: path := by
    obtain ⟨c, others, hauthority⟩ := List.exists_cons_of_ne_nil base.authority_ne_nil
    have hc := base.isSlash_of_mem_authority (hauthority ▸ List.mem_cons_self)
    rw [hauthority]
    change (c :: (others ++ '/' :: path)).dropWhile (isSlash true) = _
    exact List.dropWhile_cons_of_neg (by simp [hc])
  have htake : (base.authority ++ '/' :: path).takeWhile (fun c => !isSlash true c) =
      base.authority := by
    have hauthority : ∀ c ∈ base.authority, (!isSlash true c) = true := by
      intro c hc
      rw [base.isSlash_of_mem_authority hc]
      rfl
    rw [List.takeWhile_append_of_pos hauthority]
    exact List.append_nil _
  unfold readKnown
  dsimp only
  rw [hdrop, htake, base.readAuthority_authority, Success.ok_bind, List.drop_left]
  rfl

/-- Behind the scheme, a plain URL is read as it is written. -/
theorem readKnown_below (hmore : more ≠ []) (hplain : ∀ segment ∈ more, Path.IsPlain segment) :
    readKnown base.scheme ("//".toList ++ base.authority ++ Path.written (base.segments ++ more)) =
      .ok (base.below more) := by
  have hsegments := base.isPlain_append hplain
  obtain ⟨segment, rest, hcons⟩ : ∃ segment rest, base.segments ++ more = segment :: rest :=
    List.exists_cons_of_ne_nil (List.append_ne_nil_of_right_ne_nil _ hmore)
  have hpath : Path.written (base.segments ++ more) = '/' :: (segment ++ Path.written rest) := by
    rw [hcons]
    rfl
  rw [hcons] at hsegments
  rw [hpath, base.readKnown_slash, Path.read_written hsegments, ← hcons]
  rfl

/-- The characters behind the scheme of a plain URL. -/
theorem mem_below (hplain : ∀ segment ∈ more, Path.IsPlain segment) {c : Char}
    (h : c ∈ "//".toList ++ base.authority ++ Path.written (base.segments ++ more)) :
    IsGraphic c ∧ c ∉ "?#".toList := by
  have hmark : ∀ sign ∈ "?#".toList, sign ∈ "/\\?#@".toList ∧ Path.keeps sign = false :=
    List.all_iff_forall_prop.1 (by decide)
  rcases List.mem_append.1 h with h | h
  · rcases List.mem_append.1 h with h | h
    · have hslashes : ∀ d ∈ "//".toList, IsGraphic d ∧ d ∉ "?#".toList :=
        List.all_iff_forall_prop.1 (by decide)
      exact hslashes c h
    · obtain ⟨hvisible, hsign⟩ := base.mem_authority h
      exact ⟨hvisible, fun hmem => hsign (hmark c hmem).1⟩
  · obtain ⟨hkeeps, hbasic⟩ := Path.mem_written (base.isPlain_append hplain) h
    refine ⟨Path.isGraphic_of_keeps hkeeps hbasic, fun hmem => ?_⟩
    rw [(hmark c hmem).2] at hkeeps
    cases hkeeps

/-- What stands below a plain base URL is read as it is written. -/
theorem read_below (hmore : more ≠ []) (hplain : ∀ segment ∈ more, Path.IsPlain segment) :
    read (String.ofList (base.text ++ Path.written more)) = .ok (base.below more) := by
  have htext : base.text ++ Path.written more = base.scheme ++
      ':' :: ("//".toList ++ base.authority ++ Path.written (base.segments ++ more)) := by
    unfold text
    rw [Path.written_append]
    simp
  have hvisible : ∀ c ∈ base.text ++ Path.written more, IsGraphic c := by
    intro c hc
    rw [htext] at hc
    rcases List.mem_append.1 hc with hc | hc
    · exact (mem_scheme base.scheme_mem hc).1
    rcases List.mem_cons.1 hc with rfl | hc
    · decide
    · exact (base.mem_below hplain hc).1
  have hmark {sign : Char} (hsign : sign ∈ "?#".toList) :
      sign ∉ "//".toList ++ base.authority ++ Path.written (base.segments ++ more) :=
    fun h => (base.mem_below hplain h).2 hsign
  have hfile : ¬isFile base.scheme = true := by
    have hschemes : ∀ scheme ∈ Backend.schemes, ¬isFile scheme = true := by decide
    exact hschemes _ base.scheme_mem
  unfold read
  rw [String.toList_ofList, clean_of_isGraphic hvisible, htext]
  unfold readClean
  rw [splitScheme_of_mem base.scheme_mem]
  dsimp only
  rw [splitAt_of_not_mem (hmark (by decide))]
  dsimp only
  rw [splitAt_of_not_mem (hmark (by decide))]
  dsimp only
  rw [if_neg hfile, if_pos base.isKnown_scheme, base.readKnown_below hmore hplain]
  rfl

end Base

/-! ## The text of a request -/

/-- The text of a URL without its user and its fragment. -/
theorem toList_render_bare (url : Url) :
    url.withoutUser.withoutFragment.render.toList =
      url.scheme ++ ':' :: renderPlace url.withoutUser ++ renderPart '?' url.query := by
  change (String.ofList _).toList = _
  rw [String.toList_ofList]
  exact List.append_nil _

/-- The query of a URL ends with the pairs that were added to it. -/
theorem suffix_extendQuery (query : Option (List Char)) (more : List Char) :
    more <:+ extendQuery query more := by
  unfold extendQuery
  split
  · exact List.suffix_refl _
  · exact (List.suffix_cons '&' more).trans (List.suffix_append _ _)

/-- The text of a URL ends with the pairs that were added to its query. -/
theorem suffix_render_addPairs (url : Url) {pairs : List (String × String)} (h : pairs ≠ []) :
    formOf pairs <:+ (url.addPairs pairs).withoutUser.withoutFragment.render.toList := by
  have hadd : url.addPairs pairs =
      { url with query := some (extendQuery url.query (formOf pairs)) } := if_neg h
  rw [toList_render_bare, hadd]
  refine (suffix_extendQuery url.query _).trans ?_
  exact (List.suffix_cons '?' _).trans (List.suffix_append _ _)

namespace Base

variable (base : Base) {more : List (List Char)}

/-- A URL below a plain base URL names no user and no fragment. -/
theorem bare_below (more : List (List Char)) (pairs : List (String × String)) :
    ((base.below more).addPairs pairs).withoutUser = (base.below more).addPairs pairs ∧
      ((base.below more).addPairs pairs).withoutFragment = (base.below more).addPairs pairs := by
  unfold addPairs
  split <;> exact ⟨rfl, rfl⟩

/-- The text of what stands below a plain base URL: its origin, its path and its query. -/
theorem toList_render_bare_below (more : List (List Char)) (query : Option (List Char)) :
    { base.below more with query }.withoutUser.withoutFragment.render.toList =
      base.origin ++ Path.written (base.segments ++ more) ++ renderPart '?' query := by
  have hport : renderPort (base.below more) = portText base.shownPort := by
    unfold renderPort
    cases hshown : base.shownPort with
    | none => simp only [below, hshown, portText]
    | some number => simp only [below, hshown, portText]
  rw [toList_render_bare]
  change base.scheme ++ ':' :: ("//".toList ++ [] ++ base.host.render ++
    renderPort (base.below more) ++ Path.written (base.segments ++ more)) ++ renderPart '?' query =
      _
  rw [hport]
  unfold origin
  simp

/-- The text of a request to what stands below a plain base URL: its origin, its path and the pairs,
with nothing between them but the question mark. -/
theorem toList_render_below (more : List (List Char)) {pairs : List (String × String)}
    (h : pairs ≠ []) :
    ((base.below more).addPairs pairs).withoutUser.withoutFragment.render.toList =
      base.origin ++ Path.written (base.segments ++ more) ++ '?' :: formOf pairs := by
  have hadd : (base.below more).addPairs pairs =
      { base.below more with query := some (formOf pairs) } := if_neg h
  rw [hadd]
  exact base.toList_render_bare_below more (some (formOf pairs))

/-- No mark of a query or a fragment stands in an origin. -/
theorem mem_origin {c : Char} (h : c ∈ base.origin) : c ∉ "?#".toList := by
  have hmark : ∀ sign ∈ "?#".toList, sign ∈ "/\\?#@".toList :=
    List.all_iff_forall_prop.1 (by decide)
  rcases List.mem_append.1 h with h | h
  · rcases List.mem_append.1 h with h | h
    · exact (mem_scheme base.scheme_mem h).2
    · have hslashes : ∀ d ∈ "://".toList, d ∉ "?#".toList :=
        List.all_iff_forall_prop.1 (by decide)
      exact hslashes c h
  · exact fun hmem => (mem_append_portText base.isWritten_host h).2 (hmark c hmem)

/-- The question mark of a request to what stands below a plain base URL separates its place from
the pairs. -/
theorem splitAt_render_below (hplain : ∀ segment ∈ more, Path.IsPlain segment)
    {pairs : List (String × String)} (h : pairs ≠ []) :
    splitAt '?' ((base.below more).addPairs pairs).withoutUser.withoutFragment.render.toList =
      (base.origin ++ Path.written (base.segments ++ more), some (formOf pairs)) := by
  have hmark : '?' ∉ base.origin ++ Path.written (base.segments ++ more) := by
    intro hmem
    rcases List.mem_append.1 hmem with hmem | hmem
    · exact base.mem_origin hmem (by decide)
    · have hkeeps := (Path.mem_written (base.isPlain_append hplain) hmem).1
      exact absurd hkeeps (by decide)
  rw [base.toList_render_below more h]
  exact splitAt_append_cons hmark _

end Base

end MetricGateway.Url
