import Lifecycle.Text.Classes
import Lifecycle.Text.Bytes

/-!
# Assignments of environment files

A line of an environment file is a name, an equals sign and a value, perhaps after the word `export`.
In a value,

* text between apostrophes stands for itself;
* text between quotes may hold blanks;
* after a backslash stand only the backslash, both quotes, the dollar sign, a blank or `n` for a new line;
* a dollar sign with a name, in braces or not, stands for the value of that variable, except between
  apostrophes;
* after a blank outside of quotes only a comment may follow.

A line that breaks a rule is reported with the place where it does.
-/

namespace Lifecycle.EnvironmentFile

/-- A line that is no assignment, or a value that is none, with the place of the fault. -/
structure LineError where
  text : String
  index : Nat
  deriving Repr, DecidableEq

/-- Whether a character is a blank between the parts of a value. -/
def isBlank (c : Char) : Bool := c == ' ' || c == '\t'

/-- Where a reader of a value is. Names are kept last character first. -/
inductive Place where
  | text
  | afterBackslash
  | apostrophes
  | name (reversed : List Char)
  | bracedName (reversed : List Char)
  | atEnd
  deriving Repr, DecidableEq

/-- What a reader of a value has read: its place, whether quotes are open, and the value so far, last
character first. -/
structure ValueState where
  place : Place := .text
  quotes : Bool := false
  value : List Char := []
  deriving Repr

namespace ValueState

/-- Add a character to the value. -/
def push (s : ValueState) (c : Char) : ValueState := { s with value := c :: s.value }

/-- Add the value of a variable, given by the characters of its name in reverse. -/
def substitute (s : ValueState) (resolve : String → String) (reversed : List Char) : ValueState :=
  { s with value := (resolve (String.ofList reversed.reverse)).toList.reverse ++ s.value }

/-- Read a character of a value outside of names and comments. -/
def stepText (s : ValueState) (c : Char) : ValueState :=
  if c = '$' then { s with place := .name [] }
  else if c = '\\' then { s with place := .afterBackslash }
  else if c = '"' then { s with quotes := !s.quotes }
  else if s.quotes then s.push c
  else if c = '\'' then { s with place := .apostrophes }
  else if isBlank c then { s with place := .atEnd }
  else s.push c

/-- Read the character after a backslash. -/
def stepEscape? (s : ValueState) (c : Char) : Option ValueState :=
  let s := { s with place := .text }
  if c = '\\' ∨ c = '\'' ∨ c = '"' ∨ c = '$' ∨ c = ' ' then some (s.push c)
  else if c = 'n' then some (s.push '\n')
  else none

/-- Read a character after a dollar sign and some of a name. -/
def stepName (resolve : String → String) (s : ValueState) (reversed : List Char) (c : Char) :
    ValueState :=
  if Text.isAlphanumeric c then { s with place := .name (c :: reversed) }
  else if c = '{' ∧ reversed = [] then { s with place := .bracedName [] }
  else
    let s := s.substitute resolve reversed
    if c = '$' then { s with place := .name [] } else { s with place := .text }.push c

/-- Read a character of a name in braces. -/
def stepBracedName (resolve : String → String) (s : ValueState) (reversed : List Char) (c : Char) :
    ValueState :=
  if c = '}' then { s.substitute resolve reversed with place := .text }
  else { s with place := .bracedName (c :: reversed) }

/-- Read a character; `none` if it must not stand there. -/
def step? (resolve : String → String) (s : ValueState) (c : Char) : Option ValueState :=
  match s.place with
  | .text => some (s.stepText c)
  | .afterBackslash => s.stepEscape? c
  | .apostrophes => some (if c = '\'' then { s with place := .text } else s.push c)
  | .name reversed => some (s.stepName resolve reversed c)
  | .bracedName reversed => some (s.stepBracedName resolve reversed c)
  | .atEnd => if isBlank c then some s else none

/-- The value that was read, unless quotes or braces are open. -/
def finish? (resolve : String → String) (s : ValueState) : Option String :=
  match s.place with
  | .apostrophes => none
  | .bracedName _ => none
  | .name reversed =>
    if s.quotes then none else some (String.ofList (s.substitute resolve reversed).value.reverse)
  | _ => if s.quotes then none else some (String.ofList s.value.reverse)

end ValueState

/-- Read the rest of a value, which starts at `index`. -/
def readValueFrom (resolve : String → String) (whole : List Char) :
    ValueState → Nat → List Char → Except LineError String
  | s, _, [] =>
    match s.finish? resolve with
    | some v => .ok v
    | none => .error ⟨String.ofList whole, Text.byteCount whole - 1⟩
  | s, index, c :: cs =>
    if s.place = .atEnd ∧ c = '#' then readValueFrom resolve whole s index []
    else match s.step? resolve c with
      | some s => readValueFrom resolve whole s (index + 1) cs
      | none => .error ⟨String.ofList whole, index⟩

/-- Read a value. -/
def readValue (resolve : String → String) (text : List Char) : Except LineError String :=
  readValueFrom resolve text {} 0 text

/-- Whether a character may start a name. -/
def isNameStart (c : Char) : Bool := c.isAlpha || c == '_'

/-- Whether a character may stand in a name. -/
def isNameChar (c : Char) : Bool := c.isAlphanum || c == '_' || c == '.'

/-- A reader of a line: what is left of it and how many bytes came before. -/
structure Cursor where
  rest : List Char
  position : Nat

namespace Cursor

/-- Go past some characters. -/
def skip (c : Cursor) (skipped rest : List Char) : Cursor :=
  ⟨rest, c.position + Text.byteCount skipped⟩

/-- Go past white space. -/
def skipSpace (c : Cursor) : Cursor :=
  c.skip (c.rest.takeWhile Text.isWhiteSpace) (c.rest.dropWhile Text.isWhiteSpace)

/-- Read a name, and go past the white space after it. -/
def name? (c : Cursor) : Option (String × Cursor) :=
  if (c.rest.head?.map isNameStart).getD false then
    let word := c.rest.takeWhile isNameChar
    some (String.ofList word, (c.skip word (c.rest.dropWhile isNameChar)).skipSpace)
  else none

/-- Go past an equals sign. -/
def equals? (c : Cursor) : Option Cursor :=
  match c.rest with
  | '=' :: rest => some (c.skip ['='] rest)
  | _ => none

end Cursor

/-- Read the name of an assignment up to its equals sign; the failure is a place. The word `export`
before a name counts for nothing, but it may be a name itself. -/
def readName (c : Cursor) : Except Nat (String × Cursor) :=
  match c.name? with
  | none => .error c.position
  | some (name, c) =>
    match c.equals? with
    | some c => .ok (name, c)
    | none =>
      if name = "export" then
        match c.name? with
        | none => .error c.position
        | some (name, c) =>
          match c.equals? with
          | some c => .ok (name, c)
          | none => .error c.position
      else .error c.position

/-- Whether nothing is left of a line but a comment. -/
def isBare (cs : List Char) : Bool := cs.isEmpty || cs.head? == some '#'

/-- A text without the white space at its end. -/
def trimEnd (cs : List Char) : List Char := (cs.reverse.dropWhile Text.isWhiteSpace).reverse

/-- **Read a line**: a name and a value, or nothing if the line is empty or a comment. `resolve` gives
the value of a variable. -/
def readAssignment (resolve : String → String) (line : List Char) :
    Except LineError (Option (String × String)) :=
  let c := (Cursor.mk (trimEnd line) 0).skipSpace
  if isBare c.rest then .ok none
  else
    match readName c with
    | .error index => .error ⟨String.ofList line, index⟩
    | .ok (name, c) =>
      let text := c.skipSpace.rest
      if isBare text then .ok (some (name, ""))
      else (readValue resolve text).map fun value => some (name, value)

end Lifecycle.EnvironmentFile
