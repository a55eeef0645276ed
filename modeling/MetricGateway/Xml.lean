import MetricGateway.Text.Basic

/-!
# Answers in XML

The token service answers in XML. A document is cut into pieces of text and of markup, and the
pieces are put together to a tree of elements. Comments, instructions and quoted sections count for
nothing.
-/

namespace MetricGateway

/-- An element with what it holds. -/
inductive Xml where
  /-- An element with the first text in it, unless a child comes before that, and its children. -/
  | element (name : String) (text : List Char) (children : List Xml)
  deriving Repr

namespace Xml

/-- The name of an element. -/
def name : Xml → String
  | element name _ _ => name

/-- The children of an element. -/
def children : Xml → List Xml
  | element _ _ children => children

/-- A name without its prefix, which ends with a colon. -/
def withoutPrefix (name : String) : String :=
  match name.toList.dropWhile (· ≠ ':') with
  | [] => name
  | _ :: rest => String.ofList rest

/-- The name of an element without its prefix. -/
def localName (element : Xml) : String := withoutPrefix element.name

/-- The children of a name, whatever their prefixes. -/
def named (parent : Xml) (name : String) : List Xml :=
  parent.children.filter fun child => child.localName = name

/-- A part of a document. -/
inductive Piece where
  /-- What stands between elements. -/
  | text (content : List Char)
  /-- What stands between a pair of angle brackets. -/
  | markup (content : List Char)
  deriving Repr

/-- Whether every quotation mark is closed again, given the one that is open. -/
def quotesClosed : Option Char → List Char → Bool
  | none, [] => true
  | some _, [] => false
  | none, c :: rest => quotesClosed (if c = '"' ∨ c = '\'' then some c else none) rest
  | some quote, c :: rest => quotesClosed (if c = quote then none else some quote) rest

/-- Whether markup that opens in a certain way is ended by an angle bracket here. -/
def endsWith (opening ending content : List Char) : Bool :=
  opening.length + ending.length ≤ content.length && ending.isSuffixOf content

/-- What opens a comment. -/
def commentOpening : List Char := "!--".toList

/-- What opens a quoted section. -/
def sectionOpening : List Char := "![CDATA[".toList

/-- Whether an angle bracket behind this content ends the markup. -/
def isComplete (content : List Char) : Bool :=
  if commentOpening.isPrefixOf content then endsWith commentOpening "--".toList content
  else if sectionOpening.isPrefixOf content then endsWith sectionOpening "]]".toList content
  else if content.head? = some '?' then endsWith ['?'] ['?'] content
  else quotesClosed none content

/-- The pieces of a document, given whether markup is open and the characters of the piece so far,
the last one first. There are none if markup stays open. -/
def piecesFrom : Bool → List Char → List Char → Option (List Piece)
  | false, seen, [] => some (if seen = [] then [] else [.text seen.reverse])
  | true, _, [] => none
  | false, seen, c :: rest =>
    if c = '<' then
      (piecesFrom true [] rest).map fun pieces =>
        if seen = [] then pieces else .text seen.reverse :: pieces
    else piecesFrom false (c :: seen) rest
  | true, seen, c :: rest =>
    if c = '>' ∧ isComplete seen.reverse then
      (piecesFrom false [] rest).map fun pieces => .markup seen.reverse :: pieces
    else piecesFrom true (c :: seen) rest

/-- The pieces of a document. -/
def pieces (document : List Char) : Option (List Piece) := piecesFrom false [] document

/-- Whether a character separates the parts of a tag. -/
def isSpace (c : Char) : Bool := c = ' ' || c = '\t' || c = '\n' || c = '\r'

/-- The name at the beginning of a tag. -/
def tagName (content : List Char) : String :=
  String.ofList (content.takeWhile fun c => !(isSpace c || c = '/'))

/-- An element that is not closed yet, with its children in reverse. -/
structure Open where
  name : String
  text : Option (List Char) := none
  children : List Xml := []

/-- The element when it is closed. -/
def Open.close (opened : Open) : Xml :=
  .element opened.name (opened.text.getD []) opened.children.reverse

/-- The elements that are open, the innermost first, and the whole document once it is closed. -/
structure Building where
  opened : List Open := []
  root : Option Xml := none

/-- What is built when an element is complete. -/
def Building.add (building : Building) (element : Xml) : Option Building :=
  match building.opened, building.root with
  | outer :: rest, root =>
    some ⟨{ outer with
      text := some (outer.text.getD []), children := element :: outer.children } :: rest, root⟩
  | [], none => some ⟨[], some element⟩
  | [], some _ => none

/-- What is built after a piece. -/
def Building.next (building : Building) : Piece → Option Building
  | .text content =>
    match building.opened with
    | outer :: rest =>
      some { building with opened := { outer with text := outer.text <|> some content } :: rest }
    | [] => if content.all isSpace then some building else none
  | .markup content =>
    if content.head? = some '!' ∨ content.head? = some '?' then some building
    else if content.head? = some '/' then
      match building.opened with
      | inner :: rest =>
        if inner.name = tagName (content.drop 1) then
          ({ building with opened := rest } : Building).add inner.close
        else none
      | [] => none
    else if tagName content = "" then none
    else if content.getLast? = some '/' then
      building.add (.element (tagName content) [] [])
    else some { building with opened := { name := tagName content } :: building.opened }

/-- The root element of a document. -/
def read (document : List Char) : Option Xml := do
  let pieces ← pieces document
  let building ← pieces.foldlM Building.next {}
  if building.opened.isEmpty then building.root else none

/-- The characters that have a name. -/
def entities : List (String × Char) :=
  [("amp", '&'), ("lt", '<'), ("gt", '>'), ("quot", '"'), ("apos", '\'')]

/-- The number that digits of a base give. -/
def numberOf (base : Nat) (digits : List Char) : Option Nat :=
  if digits = [] then none
  else digits.foldlM
    (fun n c => do
      let d ← Text.hexDigitValue? c
      if d < base then some (n * base + d) else none)
    0

/-- The character that stands between an ampersand and a semicolon. -/
def entity (given : List Char) : Option Char :=
  let code : Option Nat :=
    match given with
    | '#' :: 'x' :: digits => numberOf 16 digits
    | '#' :: digits => numberOf 10 digits
    | _ => none
  match code with
  | some n => if n.isValidChar then some (Char.ofNat n) else none
  | none => (entities.find? fun e => e.1 = String.ofList given).map Prod.snd

/-- A text with the characters in the place of their names, given the name that has begun, its
last character first. -/
def unescapeFrom : Option (List Char) → List Char → Option (List Char)
  | none, [] => some []
  | some _, [] => none
  | none, c :: rest =>
    if c = '&' then unescapeFrom (some []) rest else (unescapeFrom none rest).map (c :: ·)
  | some given, c :: rest =>
    if c = ';' then
      (entity given.reverse).bind fun char => (unescapeFrom none rest).map (char :: ·)
    else unescapeFrom (some (c :: given)) rest

/-- The text that an element holds. -/
def content? : Xml → Option String
  | element _ text children =>
    if text = [] ∧ children ≠ [] then none
    else (unescapeFrom none text).map String.ofList

end Xml

end MetricGateway
