import Lifecycle.Json.Printer
import Lifecycle.Log.Event
import Lifecycle.Setting.Basic
import Lifecycle.Text.Quoted

/-!
# Lines of the log

An event is written in one of three forms, with the time it happened at: on one line of text, as a JSON
document, or as a block of text with an empty line after it. Text may be coloured. In a message,
characters that a terminal would act on are written as their codes.

A time is a number of microseconds since the start of 1970 in universal time. It is written as a date
and a time of day, as in `2026-01-31T08:05:09.000120Z`.
-/

namespace Lifecycle

/-- A number in at least `width` digits. -/
def padded (width n : Nat) : String :=
  let digits := toString n
  String.ofList (List.replicate (width - digits.length) '0') ++ digits

/-- The year, month and day of a day, counted from the start of 1970. Years are counted from March, so
that a leap day is the last of its year, in eras of 400 years with 146097 days each. -/
def civilDate (day : Nat) : Nat × Nat × Nat :=
  let shifted := day + 719468
  let era := shifted / 146097
  let dayOfEra := shifted % 146097
  let yearOfEra := (dayOfEra - dayOfEra / 1460 + dayOfEra / 36524 - dayOfEra / 146096) / 365
  let dayOfYear := dayOfEra - (365 * yearOfEra + yearOfEra / 4 - yearOfEra / 100)
  let shiftedMonth := (5 * dayOfYear + 2) / 153
  let month := if shiftedMonth < 10 then shiftedMonth + 3 else shiftedMonth - 9
  let year := yearOfEra + era * 400 + if month ≤ 2 then 1 else 0
  (year, month, dayOfYear - (153 * shiftedMonth + 2) / 5 + 1)

/-- The text of a time in microseconds. -/
def timeText (microseconds : Nat) : String :=
  let seconds := microseconds / 1000000
  let (year, month, day) := civilDate (seconds / 86400)
  let inDay := seconds % 86400
  s!"{padded 4 year}-{padded 2 month}-{padded 2 day}T{padded 2 (inDay / 3600)}:"
    ++ s!"{padded 2 (inDay / 60 % 60)}:{padded 2 (inDay % 60)}."
    ++ s!"{padded 6 (microseconds % 1000000)}Z"

/-- The leap day of a year that is divisible by 400. -/
example : civilDate 11016 = (2000, 2, 29) := by decide

/-- The name of a level in lines of the log. -/
def Level.label : Level → String
  | error => "ERROR"
  | warning => "WARN"
  | info => "INFO"
  | debug => "DEBUG"
  | trace => "TRACE"

/-- The name of a level in five columns, aligned on the right. -/
def Level.paddedLabel (l : Level) : String :=
  String.ofList (List.replicate (5 - l.label.length) ' ') ++ l.label

/-- The number of the colour of a level. -/
def Level.colorCode : Level → String
  | error => "31"
  | warning => "33"
  | info => "32"
  | debug => "34"
  | trace => "35"

/-- The start of text in a style. -/
def styleStart (code : String) : String := "\x1b[" ++ code ++ "m"

/-- Text in a style, if styles are on. -/
def styled (on : Bool) (code text : String) : String :=
  if on then styleStart code ++ text ++ styleStart "0" else text

/-- A character of a message. -/
def Event.escapeChar (c : Char) : List Char :=
  match c with
  | '\x1b' => ['\\', 'x', '1', 'b']
  | '\x07' => ['\\', 'x', '0', '7']
  | '\x08' => ['\\', 'x', '0', '8']
  | '\x0c' => ['\\', 'x', '0', 'c']
  | '\x7f' => ['\\', 'x', '7', 'f']
  | c => if 0x80 ≤ c.toNat ∧ c.toNat ≤ 0x9F then Text.codePoint c else [c]

/-- The message of an event without characters that a terminal acts on. -/
def Event.safeMessage (e : Event) : String := String.ofList (e.message.toList.flatMap escapeChar)

/-- The value of a field in text. -/
def FieldValue.toText : FieldValue → String
  | nat n => toString n
  | flag b => toString b
  | text s => Text.quoted s
  | shown s => s

/-- The value of a field in JSON. -/
def FieldValue.toJson : FieldValue → Json
  | nat n => .nat n
  | flag b => .bool b
  | text s => .str s
  | shown s => .str s

namespace Event

/-- An event on a line of text. -/
def toText (e : Event) (time : String) (color : Bool) : String :=
  let field (f : String × FieldValue) : String :=
    " " ++ styled color "3" f.1 ++ styled color "2" "=" ++ f.2.toText
  styled color "2" time ++ " " ++ styled color e.level.colorCode e.level.paddedLabel ++ " "
    ++ styled color "2" e.topic.path ++ styled color "2" ":" ++ " " ++ e.safeMessage
    ++ String.join (e.fields.map field) ++ "\n"

/-- An event as a JSON document on a line. -/
def toJson (e : Event) (time : String) : String :=
  (Json.obj [("timestamp", .str time), ("level", .str e.level.label),
    ("fields", .obj (("message", .str e.message) :: e.fields.map fun f => (f.1, f.2.toJson))),
    ("target", .str e.topic.path)]).compact ++ "\n"

/-- An event as a block of text. -/
def toBlock (e : Event) (time : String) (color : Bool) : String :=
  let plain := if color then styleStart e.level.colorCode else ""
  let bold (s : String) : String := styled color ("1;" ++ e.level.colorCode) s ++ plain
  "  " ++ styled color "2" time ++ " " ++ styled color e.level.colorCode e.level.paddedLabel ++ " "
    ++ bold e.topic.path ++ ": " ++ plain ++ e.safeMessage
    ++ String.join (e.fields.map fun f => ", " ++ bold f.1 ++ ": " ++ f.2.toText)
    ++ (if color then styleStart "0" else "") ++ "\n\n"

/-- **An event as the log writes it.** -/
def render (e : Event) (format : LogFormat) (color : Bool) (time : String) : String :=
  match format with
  | .text => e.toText time color
  | .json => e.toJson time
  | .yaml => e.toBlock time color

end Event

end Lifecycle
