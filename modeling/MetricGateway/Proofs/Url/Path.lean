import MetricGateway.Proofs.Url.Host
import MetricGateway.Url

/-!
# Paths that are read as they are written

A segment is plain if each of its characters stands for itself and none of them separates, and if it
is not one or two dots. A path of plain segments is read segment by segment (`read_written`).
-/

namespace MetricGateway

open Text
open Url (isSlash)

namespace Path

/-- A segment that is read as it is written. -/
structure IsPlain (segment : List Char) : Prop where
  /-- Each character is basic and stands for itself. -/
  chars : ∀ c ∈ segment, keeps c = true ∧ c.toNat < 0x80
  /-- No character separates segments. -/
  noSlash : ∀ c ∈ segment, isSlash true c = false
  /-- It is not one dot. -/
  isHere : isHere segment = false
  /-- It is not two dots. -/
  isUp : isUp segment = false

/-- Whether a segment is plain can be seen from its characters. -/
instance (segment : List Char) : Decidable (IsPlain segment) :=
  decidable_of_iff
    ((segment.all fun c => keeps c && decide (c.toNat < 0x80) && !isSlash true c) = true ∧
      Path.isHere segment = false ∧ Path.isUp segment = false) (by
    simp only [List.all_eq_true, Bool.and_eq_true, decide_eq_true_eq, Bool.not_eq_true']
    constructor
    · rintro ⟨hchars, hhere, hup⟩
      exact ⟨fun c hc => (hchars c hc).1, fun c hc => (hchars c hc).2, hhere, hup⟩
    · rintro ⟨hchars, hslash, hhere, hup⟩
      exact ⟨fun c hc => ⟨hchars c hc, hslash c hc⟩, hhere, hup⟩)

/-- Segments as they are written, with a slash before each. -/
def written (segments : List (List Char)) : List Char := segments.flatMap ('/' :: ·)

/-- Segments are written one after the other. -/
theorem written_append (segments others : List (List Char)) :
    written (segments ++ others) = written segments ++ written others := List.flatMap_append

/-- A character that stands for itself in a path is visible. -/
theorem isGraphic_of_keeps {c : Char} (h : keeps c = true) (hbasic : c.toNat < 0x80) :
    IsGraphic c := by
  unfold keeps at h
  simp only [Bool.and_eq_true, decide_eq_true_eq] at h
  obtain ⟨⟨hlow, hdelete⟩, -⟩ := h
  unfold IsGraphic
  omega

/-- The characters of a written path. -/
theorem mem_written {segments : List (List Char)} (h : ∀ segment ∈ segments, IsPlain segment)
    {c : Char} (hc : c ∈ written segments) : keeps c = true ∧ c.toNat < 0x80 := by
  obtain ⟨segment, hsegment, hmem⟩ := List.mem_flatMap.1 hc
  rcases List.mem_cons.1 hmem with rfl | hmem
  · decide
  · exact (h segment hsegment).chars c hmem

/-- A plain segment is written as it is. -/
theorem encode_of_isPlain {segment : List Char} (h : IsPlain segment) :
    encode segment = segment := by
  have hchar : ∀ c ∈ segment, percentChar keeps c = [c] := by
    intro c hc
    obtain ⟨hkeeps, hbasic⟩ := h.chars c hc
    exact if_pos ⟨hbasic, hkeeps⟩
  exact flatMap_eq_self hchar

section Split

variable {separates : Char → Bool} {segment rest : List Char} {mark : Char}

/-- A segment without separators is not split. -/
theorem splitWhere_of_none (h : ∀ c ∈ segment, separates c = false) :
    splitWhere separates segment = [segment] := by
  induction segment with
  | nil => rfl
  | cons c segment ih =>
    have hc := h c List.mem_cons_self
    have hrest := ih fun d hd => h d (List.mem_cons_of_mem _ hd)
    unfold splitWhere
    rw [hc, hrest]
    rfl

/-- A segment ends where the first separating character stands. -/
theorem splitWhere_append_cons (h : ∀ c ∈ segment, separates c = false)
    (hmark : separates mark = true) :
    splitWhere separates (segment ++ mark :: rest) = segment :: splitWhere separates rest := by
  induction segment with
  | nil =>
    rw [List.nil_append, splitWhere, hmark]
    rfl
  | cons c segment ih =>
    have hc := h c List.mem_cons_self
    have hrest := ih fun d hd => h d (List.mem_cons_of_mem _ hd)
    rw [List.cons_append, splitWhere, hc, hrest]
    rfl

end Split

/-- The segments of a written path are found in it. -/
theorem splitWhere_written {segment : List Char} {segments : List (List Char)}
    (h : ∀ s ∈ segment :: segments, IsPlain s) :
    splitWhere (isSlash true) (segment ++ written segments) = segment :: segments := by
  induction segments generalizing segment with
  | nil =>
    have hsegment := (h segment List.mem_cons_self).noSlash
    change splitWhere (isSlash true) (segment ++ []) = _
    rw [List.append_nil, splitWhere_of_none hsegment]
  | cons next rest ih =>
    have hsegment := (h segment List.mem_cons_self).noSlash
    have hrest := ih fun s hs => h s (List.mem_cons_of_mem _ hs)
    change splitWhere (isSlash true) (segment ++ '/' :: (next ++ written rest)) = _
    rw [splitWhere_append_cons hsegment (by decide), hrest]

/-- Plain segments are all left. -/
theorem resolve_of_isPlain {before segments : List (List Char)}
    (h : ∀ segment ∈ segments, IsPlain segment) :
    resolve before segments = before.reverse ++ segments := by
  induction segments generalizing before with
  | nil => rw [resolve, List.append_nil]
  | cons segment rest ih =>
    have hsegment := h segment List.mem_cons_self
    have hrest := fun s hs => h s (List.mem_cons_of_mem _ hs)
    have hup : ¬Path.isUp segment = true := by simp [hsegment.isUp]
    have hhere : ¬Path.isHere segment = true := by simp [hsegment.isHere]
    -- The last segment has a case of its own, which matters for dots only.
    cases rest with
    | nil => rw [resolve, if_neg hup, if_neg hhere, List.reverse_cons]
    | cons next others =>
      rw [resolve, if_neg hup, if_neg hhere, ih hrest, List.reverse_cons, List.append_assoc]
      · rfl
      · exact nofun

/-- A path of plain segments is read as it is written. -/
theorem read_written {segment : List Char} {rest : List (List Char)}
    (h : ∀ s ∈ segment :: rest, IsPlain s) :
    read (isSlash true) (segment ++ written rest) = .segments (segment :: rest) := by
  have hencode : (segment :: rest).map encode = segment :: rest :=
    (List.map_congr_left fun s hs => encode_of_isPlain (h s hs)).trans (List.map_id _)
  unfold read
  rw [splitWhere_written h, hencode, resolve_of_isPlain h]
  rfl

end Path

end MetricGateway
