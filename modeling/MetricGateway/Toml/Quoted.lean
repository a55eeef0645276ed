import MetricGateway.Text.Basic

/-!
# Quoted texts of a configuration file

Between double quotation marks a backslash introduces characters that cannot stand for themselves.
Between single ones every character stands for itself. Three marks in a row enclose several lines.
-/

namespace MetricGateway.Toml

/-- A text that has been read, and what follows it. -/
abbrev ReadText := String × List Char

/-- Whether a character may stand in a line. -/
def isLineChar (c : Char) : Bool := c = '\t' || (0x20 ≤ c.toNat && c.toNat ≠ 0x7F)

/-- The characters that a backslash and a letter stand for. -/
def escapes : List (Char × Char) :=
  [('b', '\x08'), ('t', '\t'), ('n', '\n'), ('f', '\x0c'), ('r', '\r'), ('\"', '\"'), ('\\', '\\')]

/-- The character that exactly `n` hexadecimal digits name, with the length of the escape. -/
def readCode (n : Nat) (text : List Char) : Option (Char × Nat) := do
  let digits := text.take n
  if digits.length ≠ n then none
  let code ← digits.foldlM (fun m c => (Text.hexDigitValue? c).map (m * 16 + ·)) 0
  if code.isValidChar then some (Char.ofNat code, n + 1) else none

/-- The character that an escape behind its backslash stands for, and how long the escape is. -/
def readEscape : List Char → Option (Char × Nat)
  | [] => none
  | 'u' :: rest => readCode 4 rest
  | 'U' :: rest => readCode 8 rest
  | c :: _ => (escapes.lookup c).map (·, 1)

/-- The text up to a double quotation mark, given what comes before it in reverse. -/
def readBasicFrom (seen : List Char) (input : List Char) : Option ReadText :=
  match input with
  | [] => none
  | c :: rest =>
    if c = '\"' then some (String.ofList seen.reverse, rest)
    else if c = '\\' then
      match readEscape rest with
      | some (escaped, size) => readBasicFrom (escaped :: seen) (rest.drop size)
      | none => none
    else if isLineChar c then readBasicFrom (c :: seen) rest
    else none
termination_by input.length
decreasing_by
  · simp only [List.length_drop, List.length_cons]
    omega
  · exact Nat.lt_add_one _

/-- The text up to a single quotation mark. -/
def readLiteral (text : List Char) : Option ReadText :=
  let content := text.takeWhile (· ≠ '\'')
  match text.drop content.length with
  | _ :: rest => if content.all isLineChar then some (String.ofList content, rest) else none
  | [] => none

/-- Whether a character is a space or a tab. -/
def isSpace (c : Char) : Bool := c = ' ' || c = '\t'

/-- What follows the end of a line. -/
def afterLineEnd : List Char → Option (List Char)
  | '\n' :: rest => some rest
  | '\r' :: '\n' :: rest => some rest
  | _ => none

/-- A text without the blanks and line ends at its beginning. -/
def skipBlankLines (text : List Char) : List Char :=
  text.dropWhile fun c => isSpace c || c = '\n' || c = '\r'

/-- Whether nothing but blanks comes before the end of the line. -/
def isAtLineEnd (text : List Char) : Bool := (afterLineEnd (text.dropWhile isSpace)).isSome

/-- Passing over blank lines leaves no more than there was. -/
theorem length_skipBlankLines_le (text : List Char) :
    (skipBlankLines text).length ≤ text.length :=
  (List.dropWhile_suffix _).length_le

/-- The text of several lines, given the quotation marks that have been seen in a row and what
comes before them in reverse. The text ends with three marks; up to two more belong to it. -/
def readLinesFrom (mark : Char) (marks : Nat) (seen : List Char) (input : List Char) :
    Option ReadText :=
  match input with
  | [] =>
    if 3 ≤ marks then some (String.ofList (List.replicate (marks - 3) mark ++ seen).reverse, [])
    else none
  | c :: rest =>
    if c = mark ∧ marks < 5 then readLinesFrom mark (marks + 1) seen rest
    else if 3 ≤ marks then
      some (String.ofList (List.replicate (marks - 3) mark ++ seen).reverse, c :: rest)
    else
      let seen := List.replicate marks mark ++ seen
      if c = '\\' ∧ mark = '\"' then
        if isAtLineEnd rest then readLinesFrom mark 0 seen (skipBlankLines rest)
        else
          match readEscape rest with
          | some (escaped, size) => readLinesFrom mark 0 (escaped :: seen) (rest.drop size)
          | none => none
      else if c = '\r' ∧ rest.head? = some '\n' then readLinesFrom mark 0 seen rest
      else if c = '\n' ∨ isLineChar c then readLinesFrom mark 0 (c :: seen) rest
      else none
termination_by input.length
decreasing_by
  · exact Nat.lt_add_one _
  · exact Nat.lt_add_one_of_le (length_skipBlankLines_le rest)
  · simp only [List.length_drop, List.length_cons]
    omega
  · exact Nat.lt_add_one _
  · exact Nat.lt_add_one _

/-- The text of several lines. A line end right behind the opening marks does not belong to it. -/
def readLines (mark : Char) (text : List Char) : Option ReadText :=
  readLinesFrom mark 0 [] ((afterLineEnd text).getD text)

/-- A quoted text within one line. -/
def readQuotedLine : List Char → Option ReadText
  | '\"' :: rest => readBasicFrom [] rest
  | '\'' :: rest => readLiteral rest
  | _ => none

/-- A quoted text. -/
def readQuoted : List Char → Option ReadText
  | '\"' :: '\"' :: '\"' :: rest => readLines '\"' rest
  | '\'' :: '\'' :: '\'' :: rest => readLines '\'' rest
  | text => readQuotedLine text

end MetricGateway.Toml
