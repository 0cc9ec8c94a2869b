import Lifecycle.Log.Event
import Lifecycle.Log.Pattern
import Lifecycle.Text.Bytes
import Lifecycle.Text.Classes

/-!
# Filters of log events

A filter is written as directives separated by commas, as in `warn,store::index=trace`. A
directive gives the least severe level of interest, for all events or for those whose target starts
with a text; in brackets it may also name a span, and in braces there a field. No event of this
library lies in a span, so directives that name one, or the value of a field, let nothing through.

Of the directives that concern an event **the most specific one decides**: the one with the longest
target, of these the one that names a field, and of these the one with the greatest name. A later
directive replaces an earlier one for the same events.
-/

namespace Lifecycle

/-- A limit on levels: the least severe level of interest, or `none` if no level is. -/
abbrev LevelLimit := Option Level

/-- Whether a limit lets a level through. -/
def LevelLimit.allows (limit : LevelLimit) (level : Level) : Bool :=
  limit.any fun l => decide (level.number ≤ l.number)

/-- A letter of ASCII in lower case. -/
def asciiLower (s : String) : String := String.ofList (s.toList.map Char.toLower)

/-- A limit by its number: 0 for nothing, 5 for everything. A plus sign may stand in front. -/
def LevelLimit.ofNumber? (text : String) : Option LevelLimit :=
  let cs := match text.toList with
    | '+' :: cs => cs
    | cs => cs
  if cs.isEmpty || !cs.all Char.isDigit then none
  else match cs.dropWhile (· == '0') with
    | [] => some none
    | ['1'] => some (some .error)
    | ['2'] => some (some .warning)
    | ['3'] => some (some .info)
    | ['4'] => some (some .debug)
    | ['5'] => some (some .trace)
    | _ => none

/-- A limit by its number or name. Case does not matter. -/
def LevelLimit.parse? (text : String) : Option LevelLimit :=
  LevelLimit.ofNumber? text <|>
    match asciiLower text with
    | "" => some (some .error)
    | "error" => some (some .error)
    | "warn" => some (some .warning)
    | "info" => some (some .info)
    | "debug" => some (some .debug)
    | "trace" => some (some .trace)
    | "off" => some none
    | _ => none

/-- Why a text is no directive. -/
inductive DirectiveFault where
  | unreadable
  /-- A part of it would start or end within a character. -/
  | torn
  deriving Repr, DecidableEq

/-- A directive of a filter. -/
structure Directive where
  target : Option String := none
  /-- Whether it names a span. -/
  inSpan : Bool := false
  /-- The field it names, and whether it asks for a value of it. -/
  field : Option (String × Bool) := none
  limit : LevelLimit := some .trace
  deriving Repr, DecidableEq

namespace Directive

/-- Whether a directive may start with a character. -/
def isStart (c : Char) : Bool := c == '[' || c == '-' || c == ':' || c == '_' || Text.isAlphanumeric c

/-- A text without the white space around it. -/
def trim (cs : List Char) : List Char :=
  ((cs.dropWhile Text.isWhiteSpace).reverse.dropWhile Text.isWhiteSpace).reverse

/-- Whether a text is a number: digits, perhaps with a point and an exponent, or a word for what is no
finite number, in any case. A sign may stand in front. -/
def isNumber (text : List Char) : Bool :=
  let cs := unsigned text
  ["inf", "infinity", "nan"].contains (asciiLower (String.ofList cs)) ||
    match cs.dropWhile Char.isDigit with
    | '.' :: rest =>
      (cs.head? != some '.' || rest.head?.any Char.isDigit) && isExponent (rest.dropWhile Char.isDigit)
    | rest => cs.head?.any Char.isDigit && isExponent rest
where
  /-- A text without the sign in front of it. -/
  unsigned : List Char → List Char
    | '+' :: cs => cs
    | '-' :: cs => cs
    | cs => cs
  /-- Whether a text is empty or an exponent. -/
  isExponent : List Char → Bool
    | [] => true
    | e :: cs => (e == 'e' || e == 'E') && !(unsigned cs).isEmpty && (unsigned cs).all Char.isDigit

/-- What was cut out of a text; it is torn if there is nothing. -/
def orTorn (cut : Option (List Char)) : Except DirectiveFault (List Char) :=
  match cut with
  | some cs => .ok cs
  | none => .error .torn

/-- The limit that starts at a byte. None at all means everything. -/
def readLimit (whole : List Char) (start : Nat) : Except DirectiveFault LevelLimit := do
  let text ← orTorn (Text.dropBytes? start whole)
  if text.isEmpty then return some .trace
  else match LevelLimit.parse? (String.ofList text) with
    | some limit => return limit
    | none => throw .unreadable

/-- A field in braces, perhaps with a value between equals signs: a number or a pattern. -/
def readField (text : List Char) : Except DirectiveFault (String × Bool) :=
  if text.isEmpty then throw .unreadable
  else
    let name := String.ofList (text.takeWhile (· != '='))
    match text.dropWhile (· != '=') with
    | [] => return (name, false)
    | _ :: rest =>
      let value := rest.takeWhile (· != '=')
      if isNumber value || Pattern.isValid value then return (name, true) else throw .unreadable

/-- What follows a span, from a position on: nothing, or an equals sign and a limit. -/
def readAfterSpan (whole : List Char) (position : Nat) (d : Directive) :
    List Char → Except DirectiveFault Directive
  | [] => return d
  | '=' :: _ => do return { d with limit := ← readLimit whole (position + 1) }
  | _ => throw .unreadable

/-- A span whose text starts at a position, right after its opening bracket. -/
def readSpan (whole : List Char) (target : Option String) (start : Nat) (text : List Char) :
    Except DirectiveFault Directive := do
  let (name, rest) := text.span fun c => c != ']' && c != '{'
  let stop := start + Text.byteCount name
  match rest with
  | ']' :: rest =>
    let _ ← orTorn (Text.cut? start stop whole)
    readAfterSpan whole (stop + 1) { target, inSpan := true } rest
  | '{' :: rest =>
    let spanName ← orTorn (Text.cut? start stop whole)
    let (body, rest) := rest.span (· != '}')
    let bodyStop := stop + 1 + Text.byteCount body
    match rest with
    | '}' :: rest =>
      let field ← readField (← orTorn (Text.cut? (stop + 1) bodyStop whole))
      match rest with
      | ']' :: rest =>
        let d := { target, inSpan := !spanName.isEmpty, field := some field }
        readAfterSpan whole (bodyStop + 2) d rest
      | _ => throw .unreadable
    | _ => throw .unreadable
  | _ => throw .unreadable

/-- **Read a directive.** Bytes are counted in the text without the white space around it, but the
parts are cut out of the text as it stands, so white space in front shifts them. The first fault
counts. -/
def parse (text : String) : Except DirectiveFault Directive :=
  let whole := text.toList
  match trim whole with
  | [] => throw .unreadable
  | c :: cs =>
    if !isStart c then throw .unreadable
    else if c == '[' then readSpan whole none 1 cs
    else do
      let (head, rest) := (c :: cs).span fun c => c != '=' && c != '['
      let stop := Text.byteCount head
      match rest with
      | [] =>
        match LevelLimit.parse? text with
        | some limit => return { limit }
        | none => return { target := some text }
      | mark :: rest =>
        let target := String.ofList (← orTorn (Text.cut? 0 stop whole))
        if mark == '[' then readSpan whole (some target) (stop + 1) rest
        else return { target := some target, limit := ← readLimit whole (stop + 1) }

/-- Whether a directive concerns events outside of spans, whatever the values of their fields. -/
def isStatic (d : Directive) : Bool := !d.inSpan && !(d.field.any (·.2))

/-- Whether a directive concerns an event. -/
def concerns (d : Directive) (e : Event) : Bool :=
  d.target.all (fun t => e.topic.path.startsWith t) &&
    d.field.all fun (name, _) => name == "message" || e.fields.any (·.1 == name)

/-- How specific a directive is: by the length of its target, then by whether it names a field. -/
def specificity (d : Directive) : Nat :=
  2 * (d.target.map fun t => t.utf8ByteSize + 1).getD 0 + if d.field.isSome then 1 else 0

/-- The name of the field that a directive names. -/
def fieldName (d : Directive) : String := (d.field.map Prod.fst).getD ""

/-- Whether a directive gives way to one before it. -/
def yields (d before : Directive) : Bool :=
  decide (d.specificity < before.specificity) ||
    (d.specificity == before.specificity && decide (d.fieldName < before.fieldName))

end Directive

/-- The directives that a filter goes by. -/
structure Filter where
  directives : List Directive
  deriving Repr

namespace Filter

/-- **Read a filter**; it fails at the first directive that cannot be read. Without any directive only
errors are let through. -/
def parse (text : String) : Except DirectiveFault Filter := do
  let ds ← ((text.splitOn ",").filter (· != "")).mapM Directive.parse
  return ⟨if ds.isEmpty then [{ limit := some .error }] else ds.filter Directive.isStatic⟩

/-- The directive that decides about an event: the last of the most specific that concern it. -/
def decisive? (f : Filter) (e : Event) : Option Directive :=
  (f.directives.filter (·.concerns e)).foldl (fun best d =>
    if best.any d.yields then best else some d) none

/-- Whether a filter lets an event through. -/
def allows (f : Filter) (e : Event) : Bool :=
  (f.decisive? e).any fun d => d.limit.allows e.level

/-- The text of the filter for a level: the program's own events at that level, others if they are
warnings at least. -/
def textOfLevel (level : Level) : String :=
  let name := Choice.name level
  s!"fortress={name},fortress_lib={name},warn"

/-- The filter for a level, unless a text is given that can be read. There is none if a directive of
the text is torn. -/
def ofLevel (level : Level) (override : Option String) : Option Filter :=
  match override.map parse with
  | some (.ok f) => some f
  | some (.error .torn) => none
  | _ => some ((parse (textOfLevel level)).toOption.getD ⟨[]⟩)

end Filter

end Lifecycle
