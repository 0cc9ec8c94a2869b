import Lifecycle.Json.Reader

/-!
# Strings and blanks of TOML

Readers of the four kinds of strings, each on the characters after the opening quotes, and of what
may stand between the parts of a document: blanks, comments and line ends. A reader returns what it
read with the characters after it.
-/

namespace Lifecycle.Toml

/-- Whether a character may stand in a comment or, quotes and backslashes apart, in a string: a tab
or anything that is not a control character below U+0080. -/
def isText (c : Char) : Bool := c == '\t' || (decide (0x20 ≤ c.toNat) && c.toNat != 0x7F)

/-- Whether a character is a space or a tab. -/
def isBlank (c : Char) : Bool := c == ' ' || c == '\t'

/-- Skip spaces and tabs. -/
def skipBlanks (cs : List Char) : List Char := cs.dropWhile isBlank

/-- Skip the rest of a comment, up to the end of the line. -/
def skipComment : List Char → Option (List Char)
  | [] => some []
  | '\n' :: cs => some ('\n' :: cs)
  | '\r' :: '\n' :: cs => some ('\n' :: cs)
  | c :: cs => if isText c then skipComment cs else none

/-- The end of a line, after any blanks and a comment. -/
def endLine (cs : List Char) : Option (List Char) := do
  let cs ← match skipBlanks cs with
    | '#' :: cs => skipComment cs
    | cs => some cs
  match cs with
  | [] => some []
  | '\n' :: cs => some cs
  | '\r' :: '\n' :: cs => some cs
  | _ => none

/-- Skip blanks, line ends and comments; `comment` tells whether a comment is open. -/
def skipFiller (comment : Bool) : List Char → Option (List Char)
  | [] => some []
  | '\n' :: cs => skipFiller false cs
  | '\r' :: '\n' :: cs => skipFiller false cs
  | c :: cs =>
    if comment then if isText c then skipFiller true cs else none
    else if isBlank c then skipFiller false cs
    else if c = '#' then skipFiller true cs
    else some (c :: cs)

/-- The character with a code point in hexadecimal digits. Surrogates are no characters. -/
def scalar? (digits : List Char) : Option Char := do
  let n ← digits.foldlM (fun n c => (Json.hexValue? c).map (n * 16 + ·)) 0
  if n.isValidChar then some (Char.ofNat n) else none

/-- The character that a letter stands for after a backslash. -/
def escape? : Char → Option Char
  | 'b' => some '\x08'
  | 't' => some '\t'
  | 'n' => some '\n'
  | 'f' => some '\x0c'
  | 'r' => some '\r'
  | 'e' => some '\x1b'
  | '"' => some '"'
  | '\\' => some '\\'
  | _ => none

/-- The rest of a basic string. `acc` holds what was read, last first. -/
def readBasic (acc : List Char) : List Char → Option (String × List Char)
  | [] => none
  | '"' :: cs => some (String.ofList acc.reverse, cs)
  | '\\' :: 'x' :: a :: b :: cs => do readBasic ((← scalar? [a, b]) :: acc) cs
  | '\\' :: 'u' :: a :: b :: c :: d :: cs => do readBasic ((← scalar? [a, b, c, d]) :: acc) cs
  | '\\' :: 'U' :: a :: b :: c :: d :: e :: f :: g :: h :: cs => do
    readBasic ((← scalar? [a, b, c, d, e, f, g, h]) :: acc) cs
  | '\\' :: c :: cs => do readBasic ((← escape? c) :: acc) cs
  | c :: cs => if isText c && c != '\\' then readBasic (c :: acc) cs else none

/-- The rest of a literal string. -/
def readLiteral (acc : List Char) : List Char → Option (String × List Char)
  | [] => none
  | '\'' :: cs => some (String.ofList acc.reverse, cs)
  | c :: cs => if isText c then readLiteral (c :: acc) cs else none

/-- Whether only blanks stand before the next line end. -/
def endsLine : List Char → Bool
  | '\n' :: _ => true
  | '\r' :: '\n' :: _ => true
  | c :: cs => isBlank c && endsLine cs
  | [] => false

/-- The rest of a basic string over several lines. After a backslash at the end of a line, and while
`trim` says so, blanks and line ends are left out. -/
def readBasicLines (acc : List Char) (trim : Bool) : List Char → Option (String × List Char)
  | [] => none
  | '"' :: '"' :: '"' :: '"' :: '"' :: cs => some (String.ofList ('"' :: '"' :: acc).reverse, cs)
  | '"' :: '"' :: '"' :: '"' :: cs => some (String.ofList ('"' :: acc).reverse, cs)
  | '"' :: '"' :: '"' :: cs => some (String.ofList acc.reverse, cs)
  | '\n' :: cs => readBasicLines (if trim then acc else '\n' :: acc) trim cs
  | '\r' :: '\n' :: cs => readBasicLines (if trim then acc else '\n' :: '\r' :: acc) trim cs
  | '\\' :: 'x' :: a :: b :: cs => do readBasicLines ((← scalar? [a, b]) :: acc) false cs
  | '\\' :: 'u' :: a :: b :: c :: d :: cs => do
    readBasicLines ((← scalar? [a, b, c, d]) :: acc) false cs
  | '\\' :: 'U' :: a :: b :: c :: d :: e :: f :: g :: h :: cs => do
    readBasicLines ((← scalar? [a, b, c, d, e, f, g, h]) :: acc) false cs
  | '\\' :: c :: cs =>
    if endsLine (c :: cs) then readBasicLines acc true cs
    else do readBasicLines ((← escape? c) :: acc) false cs
  | c :: cs =>
    if trim && isBlank c then readBasicLines acc true cs
    else if isText c && c != '\\' then readBasicLines (c :: acc) false cs
    else none

/-- The rest of a literal string over several lines. -/
def readLiteralLines (acc : List Char) : List Char → Option (String × List Char)
  | [] => none
  | '\'' :: '\'' :: '\'' :: '\'' :: '\'' :: cs =>
    some (String.ofList ('\'' :: '\'' :: acc).reverse, cs)
  | '\'' :: '\'' :: '\'' :: '\'' :: cs => some (String.ofList ('\'' :: acc).reverse, cs)
  | '\'' :: '\'' :: '\'' :: cs => some (String.ofList acc.reverse, cs)
  | '\n' :: cs => readLiteralLines ('\n' :: acc) cs
  | '\r' :: '\n' :: cs => readLiteralLines ('\n' :: '\r' :: acc) cs
  | c :: cs => if isText c then readLiteralLines (c :: acc) cs else none

/-- Skip the line end at the start of a string over several lines. -/
def skipFirstLineEnd : List Char → List Char
  | '\n' :: cs => cs
  | '\r' :: '\n' :: cs => cs
  | cs => cs

/-- A string of any kind. -/
def readString : List Char → Option (String × List Char)
  | '"' :: '"' :: '"' :: cs => readBasicLines [] false (skipFirstLineEnd cs)
  | '"' :: cs => readBasic [] cs
  | '\'' :: '\'' :: '\'' :: cs => readLiteralLines [] (skipFirstLineEnd cs)
  | '\'' :: cs => readLiteral [] cs
  | _ => none

end Lifecycle.Toml
