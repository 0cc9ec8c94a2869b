import Lifecycle.Toml.Scalar
import Lifecycle.Toml.Text

/-!
# Reading TOML

`Toml.parse?` reads a document of TOML 1.1. It reads the text line by line into what each line says
(`readLines`) and then builds the entries from that (`ofLines?`). No key has more than `maxDepth`
parts, and no value lies in more than `maxDepth` arrays and inline tables. In both of these, line ends
and comments may stand wherever blanks may, but not within a key.

Values hold values, so their readers are recursive. Each step reads at least one character, hence the
length of the text bounds the recursion.
-/

namespace Lifecycle.Toml

/-- How many parts a key may have, and how deep values may be nested. -/
def maxDepth : Nat := 80

/-- Whether a character may stand in a key without quotes. -/
def isBareChar (c : Char) : Bool := c.isAlphanum || c == '_' || c == '-'

/-- One part of a key. -/
def readKeyPart : List Char → Option (String × List Char)
  | '"' :: cs => readBasic [] cs
  | '\'' :: cs => readLiteral [] cs
  | cs =>
    let (word, rest) := cs.span isBareChar
    if word.isEmpty then none else some (String.ofList word, rest)

/-- A key of at most so many parts, with the blanks after it. -/
def readKeyUpTo : Nat → List Char → Option (Key × List Char)
  | 0, _ => none
  | n + 1, cs => do
    let (part, rest) ← readKeyPart cs
    match skipBlanks rest with
    | '.' :: rest =>
      let (k, rest) ← readKeyUpTo n (skipBlanks rest)
      return (⟨part :: k.path, k.last⟩, rest)
    | rest => return (⟨[], part⟩, rest)

/-- A key, with the blanks after it. -/
def readKey (cs : List Char) : Option (Key × List Char) := readKeyUpTo maxDepth cs

/-- The sign between a key and its value, with the blanks after it. -/
def readEquals : List Char → Option (List Char)
  | '=' :: cs => some (skipBlanks cs)
  | _ => none

mutual

/-- A value. `depth` is how many more arrays and inline tables may open around it. -/
def readValue : Nat → Nat → List Char → Option (Value × List Char)
  | 0, _, _ => none
  | fuel + 1, depth, '[' :: cs =>
    match depth with
    | 0 => none
    | depth + 1 => readItems fuel depth [] cs
  | fuel + 1, depth, '{' :: cs =>
    match depth with
    | 0 => none
    | depth + 1 => readMembers fuel depth [] cs
  | _ + 1, _, c :: cs =>
    if c = '"' ∨ c = '\'' then (readString (c :: cs)).map fun (s, rest) => (.string s, rest)
    else readBare (c :: cs)
  | _ + 1, _, [] => none

/-- The rest of an array. `acc` holds the items before, last first. -/
def readItems : Nat → Nat → List Value → List Char → Option (Value × List Char)
  | 0, _, _, _ => none
  | fuel + 1, depth, acc, cs => do
    match ← skipFiller false cs with
    | ']' :: rest => return (.array acc.reverse, rest)
    | cs =>
      let (v, rest) ← readValue fuel depth cs
      match ← skipFiller false rest with
      | ',' :: rest => readItems fuel depth (v :: acc) rest
      | ']' :: rest => return (.array (v :: acc).reverse, rest)
      | _ => none

/-- The rest of an inline table, which has some entries already. -/
def readMembers : Nat → Nat → Entries → List Char → Option (Value × List Char)
  | 0, _, _, _ => none
  | fuel + 1, depth, es, cs => do
    match ← skipFiller false cs with
    | '}' :: rest => return (.table .inlined es, rest)
    | cs =>
      let (k, rest) ← readKey cs
      let rest ← readEquals (← skipFiller false rest)
      let (v, rest) ← readValue fuel depth (← skipFiller false rest)
      let es ← Entries.assign k.path k.last v es
      match ← skipFiller false rest with
      | ',' :: rest => readMembers fuel depth es rest
      | '}' :: rest => return (.table .inlined es, rest)
      | _ => none

end

/-- One line that says something, with its end. -/
def readLine (fuel : Nat) : List Char → Option (Line × List Char)
  | '[' :: '[' :: cs => do
    let (k, rest) ← readKey (skipBlanks cs)
    match rest with
    | ']' :: ']' :: rest => return (.element k, ← endLine rest)
    | _ => none
  | '[' :: cs => do
    let (k, rest) ← readKey (skipBlanks cs)
    match rest with
    | ']' :: rest => return (.header k, ← endLine rest)
    | _ => none
  | cs => do
    let (k, rest) ← readKey cs
    let (v, rest) ← readValue fuel maxDepth (← readEquals rest)
    return (.assignment k v, ← endLine rest)

/-- The lines of a document. `acc` holds the lines before, last first. -/
def readLines : Nat → List Line → List Char → Option (List Line)
  | 0, _, _ => none
  | fuel + 1, acc, cs => do
    match ← skipFiller false cs with
    | [] => return acc.reverse
    | cs =>
      let (line, rest) ← readLine fuel cs
      readLines fuel (line :: acc) rest

/-- A text without the byte-order mark that it may start with. -/
def dropMark : List Char → List Char
  | '\uFEFF' :: cs => cs
  | cs => cs

/-- **The entries of a document**, or `none` if the text is not TOML. -/
def parse? (text : String) : Option Entries := do
  let cs := dropMark text.toList
  ofLines? (← readLines (cs.length + 1) [] cs)

end Lifecycle.Toml
