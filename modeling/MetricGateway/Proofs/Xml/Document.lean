import MetricGateway.Xml

/-!
# Documents are read as they are written

`Spells` is the grammar of elements in a document: a tag with attributes, a text, the children with
blanks behind each of them, and the tag that closes the element. A document that spells a single
element is read as this element (`read_of_spells`).

A document is read in two passes. The proof goes along the grammar once and carries both: how a part
of the document is cut into pieces whatever follows (`Cut`), and what these pieces build inside an
element that is open (`Built`).
-/

namespace MetricGateway.Xml

/-! ## How elements are spelled -/

/-- A name of an element, which has letters only. -/
def IsName (name : String) : Prop := name ≠ "" ∧ name.toList.all Char.isAlpha = true

instance (name : String) : Decidable (IsName name) := inferInstanceAs (Decidable (_ ∧ _))

/-- A name is made of letters. -/
theorem IsName.isAlpha {name : String} (h : IsName name) : ∀ c ∈ name.toList, c.isAlpha = true :=
  List.all_eq_true.1 h.2

/-- A tag that opens an element: its name, and attributes behind a space. -/
structure IsTag (name : String) (tag : List Char) : Prop where
  named : IsName name
  spelled : ∃ rest, (rest = [] ∨ ∃ attributes, rest = ' ' :: attributes) ∧ tag = name.toList ++ rest
  noBracket : '>' ∉ tag
  quotesClosed : quotesClosed none tag = true
  notClosing : tag.getLast? ≠ some '/'

/-- What stands in the tag that closes an element. -/
def closingTag (name : String) : List Char := '/' :: name.toList

/-- How elements that follow one another are spelled. -/
inductive Spells : List Xml → List Char → Prop where
  | nil : Spells [] []
  | cons {name : String} {tag text within blanks rest : List Char} {children others : List Xml} :
      IsTag name tag → '<' ∉ text → Spells children within → blanks.all isSpace = true →
      Spells others rest →
      Spells (.element name text children :: others)
        ('<' :: (tag ++ '>' :: (text ++ (within ++
          '<' :: (closingTag name ++ '>' :: (blanks ++ rest))))))

/-! ## How a document is cut -/

variable {text content tag rest seen : List Char} {name : String}

/-- Nothing follows, or markup. -/
def EndsText (rest : List Char) : Prop := rest = [] ∨ ∃ more, rest = '<' :: more

/-- The pieces of a text: none if it is empty. -/
def textPieces (text : List Char) : List Piece := if text = [] then [] else [.text text]

/-- A text is taken up to the next bracket. -/
theorem piecesFrom_text (h : '<' ∉ text) :
    piecesFrom false seen (text ++ rest) = piecesFrom false (text.reverse ++ seen) rest := by
  induction text generalizing seen with
  | nil => rfl
  | cons c text ih =>
    rw [List.mem_cons, not_or] at h
    rw [List.cons_append, piecesFrom, if_neg (Ne.symm h.1), ih h.2, List.reverse_cons,
      List.append_assoc, List.singleton_append]

/-- Markup is taken up to the next bracket. -/
theorem piecesFrom_markup (h : '>' ∉ content) :
    piecesFrom true seen (content ++ rest) = piecesFrom true (content.reverse ++ seen) rest := by
  induction content generalizing seen with
  | nil => rfl
  | cons c content ih =>
    rw [List.mem_cons, not_or] at h
    rw [List.cons_append, piecesFrom, if_neg fun hc => h.1 hc.1.symm, ih h.2, List.reverse_cons,
      List.append_assoc, List.singleton_append]

/-- A text is a piece if markup or nothing follows. -/
theorem pieces_text (h : '<' ∉ text) (hrest : EndsText rest) :
    pieces (text ++ rest) = (pieces rest).map (textPieces text ++ ·) := by
  unfold pieces textPieces
  rw [piecesFrom_text h, List.append_nil]
  obtain rfl | ⟨more, rfl⟩ := hrest
  · simp [piecesFrom]
  · simp only [piecesFrom, if_true, Option.map_map, List.reverse_eq_nil_iff, List.reverse_reverse]
    congr 1
    funext pieces
    split <;> rfl

/-- Markup up to its bracket is a piece. -/
theorem pieces_markup (h : '>' ∉ content) (hcomplete : isComplete content = true) :
    pieces ('<' :: (content ++ '>' :: rest)) = (pieces rest).map (.markup content :: ·) := by
  unfold pieces
  rw [piecesFrom, if_pos rfl, piecesFrom_markup h, List.append_nil, piecesFrom,
    List.reverse_reverse,
    if_pos ⟨rfl, hcomplete⟩, Option.map_map]
  rfl

/-- A part of a document that begins with markup is cut into these pieces if markup or nothing
follows. -/
structure Cut (part : List Char) (cut : List Piece) : Prop where
  begins : EndsText part
  cuts : ∀ rest, EndsText rest → pieces (part ++ rest) = (pieces rest).map (cut ++ ·)

/-- Texts that end where a tag begins can be put together. -/
theorem EndsText.append (h : EndsText content) (hrest : EndsText rest) :
    EndsText (content ++ rest) := by
  obtain rfl | ⟨more, rfl⟩ := h
  · exact hrest
  · exact .inr ⟨more ++ rest, rfl⟩

/-! ## What the pieces build -/

/-- What separates the parts of a tag is no letter. -/
theorem separates_eq_false {c : Char} (h : c.isAlpha = true) : (isSpace c || c = '/') = false := by
  unfold isSpace
  rw [Bool.eq_false_iff]
  intro hc
  simp only [Bool.or_eq_true, decide_eq_true_eq] at hc
  obtain (((rfl | rfl) | rfl) | rfl) | rfl := hc <;> exact absurd h (by decide)

/-- The name of a tag ends at its attributes. -/
theorem tagName_append (h : IsName name)
    (hrest : rest = [] ∨ ∃ attributes, rest = ' ' :: attributes) :
    tagName (name.toList ++ rest) = name := by
  unfold tagName
  rw [List.takeWhile_append_of_pos fun c hc => by rw [separates_eq_false (h.isAlpha c hc)]; rfl]
  obtain rfl | ⟨attributes, rfl⟩ := hrest
  · rw [List.takeWhile_nil, List.append_nil, String.ofList_toList]
  · rw [List.takeWhile_cons_of_neg (by decide), List.append_nil, String.ofList_toList]

/-- Markup that is neither a comment nor an instruction is complete when its quotes are closed. -/
theorem isComplete_cons {c : Char} (hc : c ≠ '!') (hquestion : c ≠ '?')
    (h : quotesClosed none (c :: content) = true) : isComplete (c :: content) = true := by
  have hprefix (opening : List Char) : ('!' :: opening).isPrefixOf (c :: content) = false := by
    rw [List.isPrefixOf_cons_cons, beq_false_of_ne hc.symm, Bool.false_and]
  have hcomment : commentOpening.isPrefixOf (c :: content) = false := hprefix "--".toList
  have hsection : sectionOpening.isPrefixOf (c :: content) = false := hprefix "[CDATA[".toList
  unfold isComplete
  rw [hcomment, hsection]
  simpa [hquestion] using h

/-- There are no quotes in a name. -/
theorem quotesClosed_name {letters : List Char} (h : ∀ c ∈ letters, c.isAlpha = true) :
    quotesClosed none letters = true := by
  induction letters with
  | nil => rfl
  | cons c letters ih =>
    obtain ⟨hc, hletters⟩ := List.forall_mem_cons.1 h
    have hquote : ¬(c = '"' ∨ c = '\'') := by
      rintro (rfl | rfl) <;> exact absurd hc (by decide)
    rw [quotesClosed, if_neg hquote, ih hletters]

namespace IsTag

/-- The name of a tag is the name that it was made with. -/
theorem tagName_eq (h : IsTag name tag) : tagName tag = name := by
  obtain ⟨rest, hrest, rfl⟩ := h.spelled
  exact tagName_append h.named hrest

/-- A tag begins with a letter, and so it is nothing but a tag that opens an element. -/
theorem exists_cons (h : IsTag name tag) :
    ∃ c more, tag = c :: more ∧ c ≠ '!' ∧ c ≠ '?' ∧ c ≠ '/' := by
  obtain ⟨rest, -, rfl⟩ := h.spelled
  cases hname : name.toList with
  | nil => exact absurd (String.toList_eq_nil_iff.1 hname) h.named.1
  | cons c more =>
    have hc : c.isAlpha = true := h.named.isAlpha c (hname ▸ List.mem_cons_self)
    refine ⟨c, more ++ rest, rfl, ?_, ?_, ?_⟩ <;>
    · rintro rfl
      exact absurd hc (by decide)

/-- A tag is complete. -/
theorem isComplete (h : IsTag name tag) : isComplete tag = true := by
  obtain ⟨c, more, rfl, hc, hquestion, -⟩ := h.exists_cons
  exact isComplete_cons hc hquestion h.quotesClosed

/-- A tag opens its element. -/
theorem next_eq (h : IsTag name tag) (building : Building) :
    building.next (.markup tag) =
      some { building with opened := { name := name } :: building.opened } := by
  have hname := h.tagName_eq
  have hlast := h.notClosing
  obtain ⟨c, more, rfl, hc, hquestion, hslash⟩ := h.exists_cons
  simp [Building.next, hc, hquestion, hslash, hname, hlast, h.named.1]

/-- A name alone is a tag. -/
theorem of_isName (h : IsName name) : IsTag name name.toList where
  named := h
  spelled := ⟨[], .inl rfl, (List.append_nil _).symm⟩
  noBracket hmem := absurd (h.isAlpha _ hmem) (by decide)
  quotesClosed := quotesClosed_name h.isAlpha
  notClosing hlast := absurd (h.isAlpha _ (List.mem_of_getLast? hlast)) (by decide)

end IsTag

/-- The tag that closes an element completes it. -/
theorem next_closing (h : IsName name) (building : Building)
    (text : Option (List Char)) (children : List Xml) :
    Building.next { building with opened := ⟨name, text, children⟩ :: building.opened }
        (.markup (closingTag name)) =
      building.add (.element name (text.getD []) children.reverse) := by
  have hname : tagName name.toList = name := by
    simpa using tagName_append h (.inl rfl)
  simp [Building.next, closingTag, hname, Open.close]

/-- A closing tag is complete. -/
theorem isComplete_closing (h : IsName name) :
    isComplete (closingTag name) = true := by
  refine isComplete_cons (by decide) (by decide) ?_
  rw [quotesClosed, if_neg (by decide), quotesClosed_name h.isAlpha]

/-- Inside an element that is open, the pieces build these children. The text of the element is what
it was, or empty if there was none. -/
def Built (cut : List Piece) (children : List Xml) : Prop :=
  ∀ name text before outside root, ∃ text' : Option (List Char), text'.getD [] = text.getD [] ∧
    cut.foldlM Building.next ⟨⟨name, text, before⟩ :: outside, root⟩ =
      some ⟨⟨name, text', children.reverse ++ before⟩ :: outside, root⟩

/-- A text at the beginning of an element is its text. -/
theorem foldlM_textPieces (name : String) (text : List Char) (outside : List Open)
    (root : Option Xml) :
    ∃ text' : Option (List Char), text'.getD [] = text ∧
      (textPieces text).foldlM Building.next ⟨⟨name, none, []⟩ :: outside, root⟩ =
        some ⟨⟨name, text', []⟩ :: outside, root⟩ := by
  unfold textPieces
  split
  · next h => exact ⟨none, h.symm, rfl⟩
  · exact ⟨some text, rfl, rfl⟩

/-- Blanks hold no bracket. -/
theorem bracket_notMem_of_isSpace {blanks : List Char} (h : blanks.all isSpace = true) :
    '<' ∉ blanks :=
  fun hmem => absurd (List.all_eq_true.1 h _ hmem) (by decide)

/-- Between elements a text counts for nothing. -/
theorem foldlM_textPieces_of_some (name : String) (text : List Char) (first : List Char)
    (before : List Xml) (outside : List Open) (root : Option Xml) :
    (textPieces text).foldlM Building.next ⟨⟨name, some first, before⟩ :: outside, root⟩ =
      some ⟨⟨name, some first, before⟩ :: outside, root⟩ := by
  unfold textPieces
  split <;> rfl

/-- Outside all elements blanks count for nothing. -/
theorem foldlM_textPieces_outside {blanks : List Char} (h : blanks.all isSpace = true)
    (root : Option Xml) :
    (textPieces blanks).foldlM Building.next ⟨[], root⟩ = some ⟨[], root⟩ := by
  unfold textPieces
  split
  · rfl
  · simp [Building.next, h]

/-- The pieces of an element. -/
def elementPieces (name : String) (tag text : List Char) (cut : List Piece) : List Piece :=
  .markup tag :: (textPieces text ++ (cut ++ [.markup (closingTag name)]))

/-- The pieces of an element add it to what is built. -/
theorem foldlM_elementPieces {cut : List Piece} {children : List Xml} (htag : IsTag name tag)
    (hcut : Built cut children) (text : List Char) (building : Building) :
    (elementPieces name tag text cut).foldlM Building.next building =
      building.add (.element name text children) := by
  obtain ⟨first, hfirst, htext⟩ := foldlM_textPieces name text building.opened building.root
  obtain ⟨text', htext', hchildren⟩ := hcut name first [] building.opened building.root
  unfold elementPieces
  have hclosing :
      Building.next ⟨⟨name, text', children.reverse ++ []⟩ :: building.opened, building.root⟩
      (.markup (closingTag name)) = building.add (.element name text children) := by
    rw [next_closing htag.named building text' _, htext', hfirst, List.append_nil,
      List.reverse_reverse]
  calc
    _ = (textPieces text ++ (cut ++ [Piece.markup (closingTag name)])).foldlM Building.next
          ⟨⟨name, none, []⟩ :: building.opened, building.root⟩ := by
      rw [List.foldlM_cons, htag.next_eq]
      rfl
    _ = (cut ++ [Piece.markup (closingTag name)]).foldlM Building.next
          ⟨⟨name, first, []⟩ :: building.opened, building.root⟩ := by
      rw [List.foldlM_append, htext]
      rfl
    _ = [Piece.markup (closingTag name)].foldlM Building.next
          ⟨⟨name, text', children.reverse ++ []⟩ :: building.opened, building.root⟩ := by
      rw [List.foldlM_append, hchildren]
      rfl
    _ = building.add (.element name text children) := by
      rw [List.foldlM_cons, hclosing]
      exact bind_pure _

/-- An element is cut into its pieces, whatever follows. -/
theorem pieces_element {within : List Char} {cut : List Piece} (htag : IsTag name tag)
    (htext : '<' ∉ text) (hcut : Cut within cut) (rest : List Char) :
    pieces ('<' :: (tag ++ '>' :: (text ++ (within ++
        '<' :: (closingTag name ++ '>' :: rest))))) =
      (pieces rest).map (elementPieces name tag text cut ++ ·) := by
  have hname : '>' ∉ closingTag name := by
    unfold closingTag
    rw [List.mem_cons, not_or]
    exact ⟨by decide, fun h => absurd (htag.named.isAlpha _ h) (by decide)⟩
  have hends : EndsText ('<' :: (closingTag name ++ '>' :: rest)) := .inr ⟨_, rfl⟩
  have hclosing : pieces ('<' :: (closingTag name ++ '>' :: rest)) = _ :=
    pieces_markup hname (isComplete_closing htag.named)
  rw [pieces_markup htag.noBracket htag.isComplete, pieces_text htext (hcut.begins.append hends),
    hcut.cuts _ hends, hclosing]
  simp [elementPieces, Function.comp_def]

/-- Elements that are spelled are cut into pieces that build them. -/
theorem exists_cut {elements : List Xml} {part : List Char} (h : Spells elements part) :
    ∃ cut, Cut part cut ∧ Built cut elements := by
  induction h with
  | nil =>
    exact ⟨[], ⟨.inl rfl, fun _ _ => Option.map_id'.symm⟩,
      fun _ text _ _ _ => ⟨text, rfl, rfl⟩⟩
  | @cons name tag text within blanks rest children others htag htext _ hblanks _ ihwithin ihrest =>
    obtain ⟨cut, hcut, hbuilt⟩ := ihwithin
    obtain ⟨cutRest, hcutRest, hbuiltRest⟩ := ihrest
    refine ⟨elementPieces name tag text cut ++ (textPieces blanks ++ cutRest), ⟨.inr ⟨_, rfl⟩, ?_⟩,
      ?_⟩
    · -- What follows the element are blanks and then markup, or nothing.
      intro more hmore
      have helement := pieces_element htag htext hcut (blanks ++ (rest ++ more))
      rw [pieces_text (bracket_notMem_of_isSpace hblanks) (hcutRest.begins.append hmore),
        hcutRest.cuts more hmore] at helement
      simpa [Function.comp_def] using helement
    · -- The element comes before the blanks behind it, and with it the text is settled.
      intro outer first before outside root
      obtain ⟨text', htext', hothers⟩ := hbuiltRest outer (some (first.getD []))
        (.element name text children :: before) outside root
      refine ⟨text', htext', ?_⟩
      rw [List.foldlM_append, foldlM_elementPieces htag hbuilt, Building.add, Option.bind_eq_bind,
        Option.bind_some, List.foldlM_append, foldlM_textPieces_of_some, Option.bind_eq_bind,
        Option.bind_some, hothers, List.reverse_cons, List.append_assoc, List.singleton_append]

/-! ## Documents -/

/-- A document that spells one element is read as this element. -/
theorem read_of_spells {root : Xml} {document : List Char} (h : Spells [root] document) :
    read document = some root := by
  cases h with
  | @cons name tag text within blanks rest children _ htag htext hwithin hblanks hrest =>
    cases hrest
    obtain ⟨cut, hcut, hbuilt⟩ := exists_cut hwithin
    have hnil : pieces [] = some [] := rfl
    have hpieces := pieces_element htag htext hcut (blanks ++ [])
    rw [pieces_text (bracket_notMem_of_isSpace hblanks) (.inl rfl), hnil, Option.map_some,
      Option.map_some, List.append_nil (textPieces blanks)] at hpieces
    have hfold : (elementPieces name tag text cut ++ textPieces blanks).foldlM Building.next {} =
        some ⟨[], some (.element name text children)⟩ := by
      rw [List.foldlM_append, foldlM_elementPieces htag hbuilt]
      exact foldlM_textPieces_outside hblanks _
    unfold read
    rw [hpieces, Option.bind_eq_bind, Option.bind_some, hfold]
    rfl

/-- Elements with names and texts that can be spelled can be spelled after others. -/
theorem exists_spells_cons {children others : List Xml} (hname : IsName name) (htext : '<' ∉ text)
    (hchildren : ∃ within, Spells children within) (hothers : ∃ rest, Spells others rest) :
    ∃ part, Spells (.element name text children :: others) part := by
  obtain ⟨within, hwithin⟩ := hchildren
  obtain ⟨rest, hrest⟩ := hothers
  have hblanks : List.all [] isSpace = true := rfl
  exact ⟨_, .cons (.of_isName hname) htext hwithin hblanks hrest⟩

/-! ## Texts -/

/-- A character as it is written: by its name if it has one. -/
def escapeChar (c : Char) : List Char :=
  match entities.find? fun e => e.2 = c with
  | some e => '&' :: (e.1.toList ++ [';'])
  | none => [c]

/-- A text as it is written. -/
def escape (text : List Char) : List Char := text.flatMap escapeChar

/-- Every name stands for its character, and ends where it is thought to end. -/
theorem entity_of_mem : ∀ e ∈ entities, entity e.1.toList = some e.2 ∧ ';' ∉ e.1.toList := by
  decide

/-- A character is escaped by an entity, or stands for itself. -/
theorem escapeChar_cases (c : Char) :
    (∃ e ∈ entities, e.2 = c ∧ escapeChar c = '&' :: (e.1.toList ++ [';'])) ∨
      escapeChar c = [c] ∧ ∀ e ∈ entities, e.2 ≠ c := by
  unfold escapeChar
  split
  · next e he =>
    exact .inl ⟨e, List.mem_of_find?_eq_some he, by simpa using List.find?_some he, rfl⟩
  · next he => exact .inr ⟨rfl, by simpa using List.find?_eq_none.1 he⟩

/-- An entity stands for its character. -/
theorem unescapeFrom_name {given seen : List Char} (h : ';' ∉ given) :
    unescapeFrom (some seen) (given ++ ';' :: rest) =
      (entity (seen.reverse ++ given)).bind fun char =>
        (unescapeFrom none rest).map (char :: ·) := by
  induction given generalizing seen with
  | nil => rw [List.nil_append, unescapeFrom, if_pos rfl, List.append_nil]
  | cons c given ih =>
    rw [List.mem_cons, not_or] at h
    rw [List.cons_append, unescapeFrom, if_neg (Ne.symm h.1), ih h.2, List.reverse_cons,
      List.append_assoc, List.singleton_append]

/-- An escaped character is read back. -/
theorem unescapeFrom_escapeChar (c : Char) :
    unescapeFrom none (escapeChar c ++ rest) = (unescapeFrom none rest).map (c :: ·) := by
  obtain ⟨e, he, rfl, hescape⟩ | ⟨hescape, hnone⟩ := escapeChar_cases c
  · obtain ⟨hentity, hends⟩ := entity_of_mem e he
    rw [hescape, List.cons_append, List.append_assoc, List.singleton_append, unescapeFrom,
      if_pos rfl, unescapeFrom_name hends, List.reverse_nil, List.nil_append, hentity,
      Option.bind_some]
  · have hc : c ≠ '&' := (hnone ("amp", '&') (by decide)).symm
    rw [hescape, List.singleton_append, unescapeFrom, if_neg hc]

/-- A text is read as it is written. -/
theorem unescapeFrom_escape (text : List Char) : unescapeFrom none (escape text) = some text := by
  induction text with
  | nil => rfl
  | cons c text ih =>
    unfold escape at ih ⊢
    rw [List.flatMap_cons, unescapeFrom_escapeChar, ih, Option.map_some]

/-- A text that is written does not end before its element does. -/
theorem bracket_notMem_escape (text : List Char) : '<' ∉ escape text := by
  unfold escape
  rw [List.mem_flatMap]
  rintro ⟨c, -, hmem⟩
  obtain ⟨e, he, rfl, hescape⟩ | ⟨hescape, hnone⟩ := escapeChar_cases c
  · have hname : ∀ e ∈ entities, '<' ∉ '&' :: (e.1.toList ++ [';']) := by decide
    exact hname e he (hescape ▸ hmem)
  · rw [hescape, List.mem_singleton] at hmem
    exact hnone ("lt", '<') (by decide) hmem

end MetricGateway.Xml
