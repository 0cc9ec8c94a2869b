import Lifecycle.Files.Basic
import Lifecycle.Text.Classes

/-!
# Lines of environment files

Quotes may run over several lines of a file, so what belongs together is found first
(`EnvironmentFile.lines`). A comment starts at a `#` at the start of a line or after a blank that
follows something else; it is left out, and so are whole lines of comment.

Whatever follows a fault in the text (bytes that are no text, or quotes that do not end) is not looked
at, so a list of lines has a fault at its end or none.
-/

namespace Lifecycle.EnvironmentFile

/-- Whether the end of a text is inside of quotes, after a backslash or after a blank. -/
inductive LineState where
  | outside
  | blank
  | escape
  | apostrophes
  | apostrophesEscape
  | quotes
  | quotesEscape
  deriving Repr, DecidableEq

/-- The state after one more character. -/
def LineState.next (s : LineState) (c : Char) : LineState :=
  let opening : LineState :=
    if c = '\\' then .escape
    else if c = '"' then .quotes
    else if c = '\'' then .apostrophes
    else .outside
  match s with
  | .outside => if Text.isWhiteSpace c && c != '\n' && c != '\r' then .blank else opening
  | .blank => opening
  | .escape => .outside
  | .apostrophes =>
    if c = '\\' then .apostrophesEscape else if c = '\'' then .outside else .apostrophes
  | .apostrophesEscape => .apostrophes
  | .quotes => if c = '\\' then .quotesEscape else if c = '"' then .outside else .quotes
  | .quotesEscape => .quotes

/-- How a line ends: in a state, or in a comment with something before it. -/
inductive LineEnd where
  | state (s : LineState)
  | comment (before : List Char)

/-- How a line ends that starts in a state. `seen` holds the characters before, last first. -/
def LineState.run (s : LineState) (seen : List Char) : List Char → LineEnd
  | [] => .state s
  | c :: cs =>
    if s = .blank ∧ c = '#' then .comment seen.reverse
    else (s.next c).run (c :: seen) cs

/-- Why an environment file cannot be loaded. -/
inductive Fault where
  /-- A line, or a value in it, is faulty at a place. -/
  | line (text : String) (index : Nat)
  | unreadable (cause : ReadError)
  /-- The value for a variable holds the character NUL, which none can hold. A run ends with this. -/
  | nul (name : String)
  deriving Repr, DecidableEq

/-- The text of the report. -/
def Fault.message : Fault → String
  | line text index => s!"Error parsing line: '{text}', error at line index: {index}"
  | unreadable cause => cause.message
  | nul name => s!"The value for '{name}' holds the character NUL"

/-- The lines of some bytes, each with the line feed that ends it. `line` holds the bytes of the line
before, last first. -/
def splitLines (line : List UInt8) : List UInt8 → List (List UInt8)
  | [] => if line.isEmpty then [] else [line.reverse]
  | b :: bs => if b = 10 then (b :: line).reverse :: splitLines [] bs else splitLines (b :: line) bs

/-- A text without the line end that it may end with. -/
def dropLineEnd (cs : List Char) : List Char :=
  match cs.reverse with
  | '\n' :: '\r' :: rest => rest.reverse
  | '\n' :: rest => rest.reverse
  | _ => cs

/-- Put together what belongs together. `pending` is the text of a line whose quotes are open. -/
def assemble (pending : List Char) (s : LineState) :
    List (List UInt8) → List (Except Fault (List Char))
  | [] =>
    if s = .outside then []
    else
      let text := String.ofList pending
      [.error (.line text text.utf8ByteSize)]
  | bytes :: rest =>
    match textOfBytes ⟨bytes.toArray⟩ with
    | .error cause => [.error (.unreadable cause)]
    | .ok text =>
      let whole := pending ++ text.toList
      if (whole.dropWhile Text.isWhiteSpace).head? = some '#' then .ok [] :: assemble [] .outside rest
      else
        match s.run [] text.toList with
        | .comment before => .ok (pending ++ before) :: assemble [] .outside rest
        | .state .outside => .ok (dropLineEnd whole) :: assemble [] .outside rest
        | .state s => assemble whole s rest

/-- Bytes without the byte-order mark that they may start with. -/
def dropMark : List UInt8 → List UInt8
  | 0xEF :: 0xBB :: 0xBF :: bs => bs
  | bs => bs

/-- **The lines of an environment file.** -/
def lines (bytes : ByteArray) : List (Except Fault (List Char)) :=
  assemble [] .outside (splitLines [] (dropMark bytes.toList))

end Lifecycle.EnvironmentFile
