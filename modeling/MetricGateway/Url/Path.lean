import MetricGateway.Text.Encoding

/-!
# Paths

A path is read segment by segment. A segment of one dot counts for nothing, and a segment of two
dots takes the one before it away; either may have its dots percent encoded.
-/

namespace MetricGateway

/-- The path of a URL. -/
inductive Path where
  /-- A text that is not taken apart. -/
  | plain (text : List Char)
  /-- Segments with a slash before each. -/
  | segments (segments : List (List Char))
  deriving DecidableEq, Repr

namespace Path

/-- Whether a character stands for itself in a path. -/
def keeps (c : Char) : Bool :=
  0x21 ≤ c.toNat && c.toNat ≠ 0x7F && !"\"#<>?\x60\x7b\x7d".toList.contains c

/-- A segment as it is written. -/
def encode (segment : List Char) : List Char := Text.percentEncode keeps segment

/-- A segment with its encoded dots decoded. -/
def plainDots : List Char → List Char
  | '%' :: '2' :: e :: rest =>
    if e = 'e' ∨ e = 'E' then '.' :: plainDots rest else '%' :: plainDots ('2' :: e :: rest)
  | c :: rest => c :: plainDots rest
  | [] => []

/-- Whether a segment is one dot. -/
def isHere (segment : List Char) : Bool := plainDots segment = ['.']

/-- Whether a segment is two dots. -/
def isUp (segment : List Char) : Bool := plainDots segment = ['.', '.']

/-- Whether a segment names a drive, which is never taken away. -/
def isDrive : List Char → Bool
  | [letter, mark] => letter.isAlpha && (mark = ':' || mark = '|')
  | _ => false

/-- The segments without the last one. The last one comes first here. -/
def up : List (List Char) → List (List Char)
  | [] => []
  | last :: before => if isDrive last then last :: before else before

/-- The segments that are left, given those before them, the last one first. -/
def resolve : List (List Char) → List (List Char) → List (List Char)
  | before, [] => before.reverse
  | before, [segment] =>
    if isUp segment then ([] :: up before).reverse
    else if isHere segment then ([] :: before).reverse
    else (segment :: before).reverse
  | before, segment :: rest =>
    if isUp segment then resolve (up before) rest
    else if isHere segment then resolve before rest
    else resolve (segment :: before) rest

/-- The pieces of a text that a class of characters separates. -/
def splitWhere (separates : Char → Bool) : List Char → List (List Char)
  | [] => [[]]
  | c :: rest =>
    let pieces := splitWhere separates rest
    if separates c then [] :: pieces
    else (c :: pieces.headD []) :: pieces.drop 1

/-- The path that a text behind its first slash names, given what separates segments. -/
def read (separates : Char → Bool) (text : List Char) : Path :=
  segments (resolve [] ((splitWhere separates text).map encode))

/-- A path as it is written. -/
def render : Path → List Char
  | plain text => text
  | segments list => list.flatMap ('/' :: ·)

end Path

end MetricGateway
