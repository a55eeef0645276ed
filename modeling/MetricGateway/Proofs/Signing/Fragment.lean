import MetricGateway.Proofs.Success
import MetricGateway.Proofs.Url.Base
import MetricGateway.Signing.Signature

/-!
# Signatures and fragments

The fragment of a URL is not sent. It has no part in a signature either: behind the authority, all
that follows a hash sign is passed over (`Target.ofUrl_append_fragment`). So a URL that is signed is
signed as if it had no fragment (`sign?_withoutFragment`).
-/

namespace MetricGateway

open Success

/-- What is taken from the front of a text is not longer if something that ends it follows. -/
theorem takeWhile_append_cons_of_neg {α : Type} {p : α → Bool} {mark : α} (h : p mark = false)
    (front back : List α) : (front ++ mark :: back).takeWhile p = front.takeWhile p := by
  induction front with
  | nil => exact List.takeWhile_cons_of_neg (by rw [h]; decide)
  | cons c rest ih =>
    rw [List.cons_append]
    cases hc : p c with
    | true => rw [List.takeWhile_cons_of_pos hc, List.takeWhile_cons_of_pos hc, ih]
    | false =>
      have hneg : ¬p c = true := by rw [hc]; decide
      rw [List.takeWhile_cons_of_neg hneg, List.takeWhile_cons_of_neg hneg]

namespace Url

/-- An authority gives a URL of the scheme with a host. -/
theorem of_readAuthority {scheme authority : List Char} {url : Url}
    (h : readAuthority scheme authority = .ok url) :
    url.scheme = scheme ∧ ∃ host, url.host = some host := by
  unfold readAuthority at h
  dsimp only at h
  obtain ⟨host, -, h⟩ := bind_eq_ok_iff.1 h
  split at h
  · cases h
  · obtain ⟨port, -, h⟩ := bind_eq_ok_iff.1 h
    cases h
    exact ⟨rfl, host, rfl⟩

/-- A URL of a known scheme has a host. -/
theorem exists_host_of_readKnown {scheme text : List Char} {url : Url}
    (h : readKnown scheme text = .ok url) : ∃ host, url.host = some host := by
  obtain ⟨placed, hplaced, h⟩ := bind_eq_ok_iff.1 h
  cases h
  exact (of_readAuthority hplaced).2

/-- A URL of a file has a host. -/
theorem exists_host_of_readFile {scheme text : List Char} {url : Url}
    (h : readFile scheme text = .ok url) : ∃ host, url.host = some host := by
  unfold readFile at h
  split at h
  · obtain ⟨host, -, h⟩ := bind_eq_ok_iff.1 h
    cases h
    exact ⟨host, rfl⟩
  · cases h
    exact ⟨.domain [], rfl⟩

/-- A URL of an unknown scheme keeps the scheme. -/
theorem scheme_of_readUnknown {scheme text : List Char} {url : Url}
    (h : readUnknown scheme text = .ok url) : url.scheme = scheme := by
  unfold readUnknown at h
  split at h
  · obtain ⟨placed, hplaced, h⟩ := bind_eq_ok_iff.1 h
    cases h
    exact (of_readAuthority hplaced).1
  · split at h
    · cases h
      rfl
    · cases h
      rfl

/-- A URL with the scheme of a backend names a host. -/
theorem exists_host_of_read {text : String} {url : Url} (h : Url.read text = .ok url)
    (hscheme : url.scheme ∈ Backend.schemes) : ∃ host, url.host = some host := by
  unfold Url.read readClean at h
  split at h
  · cases h
  · next scheme rest _ =>
    dsimp only at h
    split at h
    · obtain ⟨placed, hplaced, h⟩ := bind_eq_ok_iff.1 h
      cases h
      obtain ⟨host, hhost⟩ := exists_host_of_readFile hplaced
      exact ⟨host, hhost⟩
    split at h
    · obtain ⟨placed, hplaced, h⟩ := bind_eq_ok_iff.1 h
      cases h
      obtain ⟨host, hhost⟩ := exists_host_of_readKnown hplaced
      exact ⟨host, hhost⟩
    · next hunknown =>
      -- Another scheme stays in the URL, but those of backends are known.
      obtain ⟨placed, hplaced, h⟩ := bind_eq_ok_iff.1 h
      cases h
      dsimp only at hscheme
      rw [scheme_of_readUnknown hplaced] at hscheme
      have hknown : ∀ scheme ∈ Backend.schemes, isKnown scheme = true := by decide
      exact absurd (hknown scheme hscheme) hunknown

/-- The text of a URL ends with its fragment, if it has one. -/
theorem toList_render_of_fragment {url : Url} {fragment : List Char}
    (h : url.fragment = some fragment) :
    url.render.toList = url.withoutFragment.render.toList ++ '#' :: fragment := by
  unfold render withoutFragment
  rw [String.toList_ofList, String.toList_ofList, h]
  simp only [renderPart, List.append_nil]
  rfl

/-- The text of a URL with a host begins with its scheme and two slashes. -/
theorem exists_toList_render {url : Url} {host : Host} (h : url.host = some host) :
    ∃ rest, url.withoutFragment.render.toList = url.scheme ++ "://".toList ++ rest := by
  refine ⟨renderUser url ++ host.render ++ renderPort url ++ url.path.render ++
    renderPart '?' url.query, ?_⟩
  unfold render withoutFragment
  rw [String.toList_ofList]
  unfold renderPlace
  dsimp only
  rw [h]
  have hmark : "://".toList = ':' :: "//".toList := rfl
  simp only [renderPart, List.append_nil, List.append_assoc, List.cons_append, hmark]
  rfl

end Url

namespace Signing

namespace Target

/-- A path and a query do not go on behind a hash sign. -/
theorem splitPath_append_fragment (text fragment : List Char) :
    splitPath (text ++ '#' :: fragment) = splitPath text := by
  have hshown : (text ++ '#' :: fragment).takeWhile (· ≠ '#') = text.takeWhile (· ≠ '#') :=
    takeWhile_append_cons_of_neg (by decide) text fragment
  unfold splitPath
  rw [hshown]

/-- With the scheme of a backend, a target does not depend on the fragment. -/
theorem ofUrl_append_fragment {scheme rest fragment : List Char} {url bare : String}
    {target : Target} (hscheme : scheme ∈ Backend.schemes)
    (hbare : bare.toList = scheme ++ "://".toList ++ rest)
    (hurl : url.toList = bare.toList ++ '#' :: fragment) (h : ofUrl url = some target) :
    ofUrl bare = some target := by
  -- The scheme is read up to its mark, whatever is behind it.
  obtain ⟨told, htold⟩ : ∃ told, ∀ rest,
      splitScheme (scheme ++ "://".toList ++ rest) = some (some told, rest) := by
    rcases List.mem_cons.1 hscheme with rfl | hscheme
    · exact ⟨.http, fun _ => rfl⟩
    obtain rfl := List.mem_singleton.1 hscheme
    exact ⟨.https, fun _ => rfl⟩
  have hsize :
      url.utf8ByteSize = bare.utf8ByteSize + (String.ofList ('#' :: fragment)).utf8ByteSize := by
    have happend : url = bare ++ String.ofList ('#' :: fragment) := by
      rw [← String.toList_inj, hurl, String.toList_append, String.toList_ofList]
    rw [happend, String.utf8ByteSize_append]
  have hauthority : (rest ++ '#' :: fragment).takeWhile (fun c => !endsAuthority c) =
      rest.takeWhile fun c => !endsAuthority c :=
    takeWhile_append_cons_of_neg (by decide) rest fragment
  have hdrop : (rest ++ '#' :: fragment).drop (rest.takeWhile fun c => !endsAuthority c).length =
      rest.drop (rest.takeWhile fun c => !endsAuthority c).length ++ '#' :: fragment :=
    List.drop_append_of_le_length (List.takeWhile_prefix _).length_le
  unfold ofUrl at h ⊢
  split at h
  · cases h
  · next hshort =>
    have hshort' : ¬maxBytes < bare.utf8ByteSize := by omega
    rw [if_neg hshort', hbare, htold]
    rw [hurl, hbare, List.append_assoc, htold] at h
    simp only [bind, Option.bind_some, hauthority, hdrop, splitPath_append_fragment] at h ⊢
    exact h

end Target

/-- A URL that can be signed is signed as if it had no fragment. -/
theorem sign?_withoutFragment {text : String} {read url : Url} {pairs : List (String × String)}
    (hread : Url.read text = .ok read) (hurl : url = read.addPairs pairs)
    (hscheme : url.scheme ∈ Backend.schemes) {credentials : Credentials} {scope : Scope}
    {method : String} {headers : List Header}
    (h : sign? credentials scope method url.render = some headers) :
    sign? credentials scope method url.withoutFragment.render = some headers := by
  have hadded : url.scheme = read.scheme ∧ url.host = read.host := by
    rw [hurl]
    unfold Url.addPairs
    split <;> exact ⟨rfl, rfl⟩
  cases hfragment : url.fragment with
  | none =>
    have hsame : url.withoutFragment = url := by
      unfold Url.withoutFragment
      rw [← hfragment]
    rwa [hsame]
  | some fragment =>
    -- The target is read from the text, in which the fragment is behind all that counts.
    obtain ⟨host, hhost⟩ := Url.exists_host_of_read hread (hadded.1 ▸ hscheme)
    obtain ⟨rest, hrest⟩ := Url.exists_toList_render (hadded.2.trans hhost)
    unfold sign? at h ⊢
    obtain ⟨target, htarget, h⟩ := Option.bind_eq_some_iff.1 h
    have hbare := Target.ofUrl_append_fragment hscheme hrest
      (Url.toList_render_of_fragment hfragment) htarget
    rw [hbare]
    exact h

end Signing

end MetricGateway
