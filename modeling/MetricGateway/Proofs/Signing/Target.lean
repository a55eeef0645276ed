import MetricGateway.Proofs.Url.Base
import MetricGateway.Signing.Target

/-!
# Which URLs can be sent

A request can only be sent to a URL that names a target. A URL below a plain base URL does so unless
it is too long or a sign stands in its host that no authority may hold (`isSome_ofUrl_iff`).
-/

namespace MetricGateway.Signing.Target

open Text
open Url (Base)

/-! ## Authorities -/

/-- The signs that may stand in the host of a URL, but not in an authority that is sent. -/
def unsendable : List Char := "\"\x60\x7b\x7d".toList

/-- A character that tells nothing about an authority but how many colons there are. -/
def IsOrdinary (c : Char) : Prop := isAuthorityChar c = true ∧ c ∉ "[]@%".toList

instance (c : Char) : Decidable (IsOrdinary c) := inferInstanceAs (Decidable (_ ∧ _))

/-- After a character that may not stand in an authority, nothing counts. -/
theorem foldlM_next_eq_none {text : List Char} {c : Char} (hc : c ∈ text)
    (h : isAuthorityChar c = false) (seen : Seen) : text.foldlM Seen.next seen = none := by
  induction text generalizing seen with
  | nil => cases hc
  | cons d rest ih =>
    rw [List.foldlM_cons]
    rcases List.mem_cons.1 hc with rfl | hrest
    · have hnext : seen.next c = none := by
        unfold Seen.next
        rw [h]
        rfl
      rw [hnext]
      rfl
    · cases hnext : seen.next d with
      | none => rfl
      | some later => exact ih hrest later

/-- An ordinary character is counted if it is a colon, and forgotten if it is not. -/
theorem next_of_isOrdinary {seen : Seen} {c : Char} (h : IsOrdinary c) (hat : seen.atSign = false)
    (hcolons : seen.colons + [c].count ':' ≤ maxColons) :
    seen.next c = some { seen with colons := seen.colons + [c].count ':' } := by
  obtain ⟨hchar, hsign⟩ := h
  obtain ⟨colons, opened, closed, percent, atSign⟩ := seen
  dsimp only at hat hcolons ⊢
  have hother (sign : Char) (hmem : sign ∈ "[]@%".toList) : c ≠ sign := by
    rintro rfl
    exact hsign hmem
  have hlegal : ¬(!isAuthorityChar c) = true := by
    rw [hchar]
    decide
  unfold Seen.next
  dsimp only
  -- Of all tests on the character, only the one for a colon can succeed.
  rw [if_neg hlegal, decide_eq_false (hother '@' (by decide)), hat]
  by_cases hcolon : c = ':'
  · rw [hcolon] at hcolons ⊢
    have hone : [':'].count ':' = 1 := rfl
    have hroom : ¬maxColons ≤ colons := by omega
    rw [if_pos rfl, hone]
    exact if_neg hroom
  · have hnone : [c].count ':' = 0 :=
      List.count_eq_zero.2 fun hmem => hcolon (List.mem_singleton.1 hmem).symm
    rw [if_neg hcolon, if_neg (hother '[' (by decide)), if_neg (hother ']' (by decide)),
      if_neg (hother '@' (by decide)), if_neg (hother '%' (by decide)), hnone]
    rfl

/-- Of ordinary characters, only colons are counted. -/
theorem foldlM_next_of_isOrdinary {text : List Char} (seen : Seen) (h : ∀ c ∈ text, IsOrdinary c)
    (hat : seen.atSign = false) (hcolons : seen.colons + text.count ':' ≤ maxColons) :
    text.foldlM Seen.next seen = some { seen with colons := seen.colons + text.count ':' } := by
  induction text generalizing seen with
  | nil => rfl
  | cons c rest ih =>
    have hcount : (c :: rest).count ':' = [c].count ':' + rest.count ':' := by
      rw [← List.count_append, List.singleton_append]
    rw [hcount] at hcolons ⊢
    have hnext := next_of_isOrdinary (h c List.mem_cons_self) hat (by omega)
    have hrest := ih { seen with colons := seen.colons + [c].count ':' }
      (fun d hd => h d (List.mem_cons_of_mem _ hd)) hat (by dsimp only; omega)
    rw [List.foldlM_cons, hnext]
    refine hrest.trans ?_
    dsimp only
    rw [Nat.add_assoc]

/-- A port adds a colon at most. -/
theorem portText_spec (port : Option Nat) :
    (∀ c ∈ Base.portText port, IsOrdinary c) ∧ (Base.portText port).count ':' ≤ 1 := by
  cases port with
  | none => exact ⟨nofun, Nat.zero_le 1⟩
  | some number =>
    have hdigit : ∀ d < 10, IsOrdinary (Nat.digitChar d) ∧ Nat.digitChar d ≠ ':' := by decide
    have hmem : ∀ c ∈ digitsOf number, IsOrdinary c ∧ c ≠ ':' := by
      intro c hc
      obtain ⟨d, hd, rfl⟩ := exists_of_mem_toDigits (by decide) hc
      exact hdigit d hd
    constructor
    · intro c hc
      rcases List.mem_cons.1 hc with rfl | hc
      · decide
      · exact (hmem c hc).1
    · have hnone : (digitsOf number).count ':' = 0 :=
        List.count_eq_zero.2 fun hc => (hmem ':' hc).2 rfl
      change (':' :: digitsOf number).count ':' ≤ 1
      rw [List.count_cons_self, hnone]

/-- A text is an authority if nothing that was seen is left open, and at most one colon. -/
theorem isAuthority_of_foldlM {text : List Char} {seen : Seen}
    (h : text.foldlM Seen.next {} = some seen) (hbrackets : seen.opened = seen.closed)
    (hcolons : seen.colons ≤ 1) (hat : seen.atSign = false) (hpercent : seen.percent = false) :
    isAuthority text = true := by
  unfold isAuthority
  rw [h]
  simp [hbrackets, hcolons, hat, hpercent]

/-- A name with a port is an authority unless a sign in it is kept from being sent. -/
theorem isAuthority_name {host : List Char} (port : Option Nat)
    (chars : ∀ c ∈ host, IsGraphic c ∧ Domain.isForbidden c = false)
    (h : ∀ c ∈ host, c ∉ unsendable) : isAuthority (host ++ Base.portText port) = true := by
  obtain ⟨hport, hcolon⟩ := portText_spec port
  have hhost : ∀ c ∈ host, IsOrdinary c ∧ c ≠ ':' := by
    intro c hc
    obtain ⟨hvisible, hforbidden⟩ := chars c hc
    exact forall_basic (p := fun c => IsGraphic c ∧ Domain.isForbidden c = false ∧ c ∉ unsendable →
      IsOrdinary c ∧ c ≠ ':') (by decide) hvisible.lt ⟨hvisible, hforbidden, h c hc⟩
  have hordinary : ∀ c ∈ host ++ Base.portText port, IsOrdinary c := by
    intro c hc
    rcases List.mem_append.1 hc with hc | hc
    · exact (hhost c hc).1
    · exact hport c hc
  have hnone : host.count ':' = 0 := List.count_eq_zero.2 fun hc => (hhost ':' hc).2 rfl
  have hcount : (host ++ Base.portText port).count ':' ≤ 1 := by
    rw [List.count_append, hnone, Nat.zero_add]
    exact hcolon
  have hfold := foldlM_next_of_isOrdinary {} hordinary rfl
    (by dsimp only [maxColons]; omega)
  exact isAuthority_of_foldlM hfold rfl (by dsimp only; omega) rfl rfl

/-- An address between brackets with a port is an authority. The colons of the address are forgotten
at the closing bracket. -/
theorem isAuthority_address {text : List Char} (port : Option Nat)
    (signs : ∀ c ∈ text, c ∈ Ipv6.signs) (colons : text.count ':' ≤ 8) :
    isAuthority ('[' :: text ++ [']'] ++ Base.portText port) = true := by
  obtain ⟨hport, hcolon⟩ := portText_spec port
  have hsigns : ∀ c ∈ Ipv6.signs, IsOrdinary c := List.all_iff_forall_prop.1 (by decide)
  have hopen : Seen.next {} '[' = some { opened := true } := rfl
  have htext := foldlM_next_of_isOrdinary { opened := true }
    (fun c hc => hsigns c (signs c hc)) rfl (by dsimp only [maxColons]; omega)
  have hclose (count : Nat) : Seen.next { colons := count, opened := true } ']' =
      some { opened := true, closed := true } := rfl
  have hrest := foldlM_next_of_isOrdinary { opened := true, closed := true } hport rfl
    (by dsimp only [maxColons]; omega)
  have hfold : ('[' :: text ++ [']'] ++ Base.portText port).foldlM Seen.next {} =
      some { opened := true, closed := true, colons := 0 + (Base.portText port).count ':' } := by
    rw [List.append_assoc, List.cons_append, List.foldlM_cons, hopen]
    change (text ++ ([']'] ++ Base.portText port)).foldlM Seen.next { opened := true } = _
    rw [List.foldlM_append, htext]
    change (']' :: Base.portText port).foldlM Seen.next
      { opened := true, colons := 0 + text.count ':' } = _
    rw [List.foldlM_cons, hclose]
    exact hrest
  exact isAuthority_of_foldlM hfold rfl (by dsimp only; omega) rfl rfl

/-- A host with a port is an authority if and only if no sign in it is kept from being sent. -/
theorem isAuthority_iff {host : List Char} (h : Host.IsWritten host) (port : Option Nat) :
    isAuthority (host ++ Base.portText port) = true ↔ ∀ c ∈ host, c ∉ unsendable := by
  constructor
  · intro hauthority c hc hunsendable
    have hillegal : ∀ d ∈ unsendable, isAuthorityChar d = false :=
      List.all_iff_forall_prop.1 (by decide)
    have hnone := foldlM_next_eq_none (List.mem_append_left (Base.portText port) hc)
      (hillegal c hunsendable) {}
    unfold isAuthority at hauthority
    rw [hnone] at hauthority
    cases hauthority
  · intro hsendable
    cases h with
    | name _ chars => exact isAuthority_name port chars hsendable
    | address signs colons => exact isAuthority_address port signs colons

/-! ## Whole URLs -/

/-- The scheme of a backend is told apart from what follows it. -/
theorem exists_splitScheme {scheme : List Char} (h : scheme ∈ Backend.schemes) (rest : List Char) :
    ∃ told, splitScheme (scheme ++ "://".toList ++ rest) = some (some told, rest) := by
  rcases List.mem_cons.1 h with rfl | h
  · exact ⟨.http, rfl⟩
  rcases List.mem_cons.1 h with rfl | h
  · exact ⟨.https, rfl⟩
  · cases h

/-- A path and a query are told apart at the question mark. -/
theorem splitPath_append_cons {path query : List Char}
    (hpath : ∀ c ∈ path, isPathChar c = true ∧ c ∉ "?#".toList) (hne : path ≠ [])
    (hquery : ∀ c ∈ query, isQueryChar c = true ∧ c ≠ '#') :
    splitPath (path ++ '?' :: query) = some (path, query) := by
  have hmark : '?' ∉ path := fun h => (hpath '?' h).2 (by decide)
  have hfragment : '#' ∉ path ++ '?' :: query := by
    intro h
    rcases List.mem_append.1 h with h | h
    · exact (hpath '#' h).2 (by decide)
    rcases List.mem_cons.1 h with h | h
    · exact absurd h (by decide)
    · exact (hquery '#' h).2 rfl
  have hshown : (path ++ '?' :: query).takeWhile (· ≠ '#') = path ++ '?' :: query :=
    List.takeWhile_eq_self_iff.2 (forall_ne_of_not_mem hfragment)
  have hlegal : (path.all isPathChar && query.all isQueryChar) = true := by
    rw [Bool.and_eq_true, List.all_eq_true, List.all_eq_true]
    exact ⟨fun c hc => (hpath c hc).1, fun c hc => (hquery c hc).1⟩
  unfold splitPath
  dsimp only
  rw [hshown, takeWhile_ne_append_cons hmark, dropWhile_ne_append_cons hmark, List.drop_one,
    List.tail_cons, if_pos hlegal, if_neg hne]

/-- A URL below a plain base URL names a target if and only if it is not too long and no sign in its
host is kept from being sent. -/
theorem isSome_ofUrl_iff {url : String} {scheme host path query : List Char} {port : Option Nat}
    (hscheme : scheme ∈ Backend.schemes) (hhost : Host.IsWritten host)
    (hpath : ∀ c ∈ path, isPathChar c = true ∧ c ∉ "?#".toList)
    (hquery : ∀ c ∈ query, isQueryChar c = true ∧ c ≠ '#')
    (hurl : url.toList = scheme ++ "://".toList ++
      ((host ++ Base.portText port) ++ ('/' :: path ++ '?' :: query))) :
    (ofUrl url).isSome ↔ url.utf8ByteSize ≤ maxBytes ∧ ∀ c ∈ host, c ∉ unsendable := by
  have hauthority := isAuthority_iff hhost port
  -- The host and the port are told apart in the authority only.
  generalize htext : host ++ Base.portText port = authority at hauthority hurl
  have hends : ∀ c ∈ authority, (!endsAuthority c) = true := by
    intro c hc
    rw [← htext] at hc
    have hsign := (Base.mem_append_portText hhost hc).2
    unfold endsAuthority
    rw [Bool.not_eq_true', ← Bool.not_eq_true]
    simp only [Bool.or_eq_true, decide_eq_true_eq]
    rintro ((rfl | rfl) | rfl) <;> exact hsign (by decide)
  have hne : authority ≠ [] := by
    rw [← htext]
    exact List.append_ne_nil_of_left_ne_nil hhost.ne_nil _
  have htake : (authority ++ ('/' :: path ++ '?' :: query)).takeWhile (fun c => !endsAuthority c) =
      authority := by
    rw [List.takeWhile_append_of_pos hends]
    exact List.append_nil _
  have hslash : ∀ c ∈ '/' :: path, isPathChar c = true ∧ c ∉ "?#".toList := by
    intro c hc
    rcases List.mem_cons.1 hc with rfl | hc
    · decide
    · exact hpath c hc
  have hsplit := splitPath_append_cons hslash (List.cons_ne_nil _ _) hquery
  obtain ⟨told, htold⟩ := exists_splitScheme hscheme (authority ++ ('/' :: path ++ '?' :: query))
  -- The length is looked at first, whatever the URL says.
  by_cases hlong : maxBytes < url.utf8ByteSize
  · have hnone : ofUrl url = none := if_pos hlong
    rw [hnone]
    constructor
    · intro h
      cases h
    · rintro ⟨hshort, -⟩
      omega
  have hofUrl : ofUrl url =
      if decide (authority = []) || !isAuthority authority then none
      else some { scheme := some told, authority, path := '/' :: path, query } := by
    unfold ofUrl
    rw [if_neg hlong, hurl, htold]
    simp only [bind, Option.bind_some, htake, List.drop_left, hsplit]
    rfl
  rw [hofUrl, decide_eq_false hne, Bool.false_or, ← hauthority]
  have hshort : url.utf8ByteSize ≤ maxBytes := by omega
  cases isAuthority authority with
  | false => simp
  | true => simp [hshort]

end MetricGateway.Signing.Target
