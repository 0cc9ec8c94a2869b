import Lifecycle.Toml.Basic
import Lifecycle.Toml.Text

/-!
# Values without quotes: numbers, truth values, dates and times

A value that is neither in quotes nor in brackets is a text of words with blanks between them, which
only a date and a time may have. `readBare` reads it, and `bareValue?` says what it is:

* digits with `-` or `:` after them start a date or a time;
* otherwise a point or the letter `e` after the first digits makes a number with a fraction or an
  exponent, in which single underscores may stand between digits;
* otherwise it is an integer. **In base ten the digits after an underscore are only looked at where
  they meet underscores**, so `8_080tcp` is an integer. Since nothing can be made of it, it is
  `Value.illegible`, and so is a base without digits.
-/

namespace Lifecycle.Toml

/-- The value of digits in a base. -/
def valueIn (base : Nat) (ds : List Char) : Nat :=
  ds.foldl (fun n c => n * base + (Json.hexValue? c).getD 0) 0

/-- Whether a character is a digit of a base up to sixteen. -/
def isDigitIn (base : Nat) (c : Char) : Bool := ((Json.hexValue? c).map (decide <| · < base)).getD false

/-- Leave out the underscores of a number. Each stands between two digits; `before` says whether the
character before is one. -/
def ungroup? (isDigit : Char → Bool) (before : Bool) : List Char → Option (List Char)
  | [] => some []
  | ['_'] => none
  | '_' :: c :: cs => if before && isDigit c then ungroup? isDigit true (c :: cs) else none
  | c :: cs => (ungroup? isDigit (isDigit c) cs).map (c :: ·)

/-- A sign and the characters after it. -/
def splitSign : List Char → Bool × List Char
  | '-' :: cs => (true, cs)
  | '+' :: cs => (false, cs)
  | cs => (false, cs)

/-- Whether a text starts with a superfluous zero. -/
def hasSpareZero : List Char → Bool
  | '0' :: cs => !cs.isEmpty
  | _ => false

/-! ## Integers -/

/-- An integer in a base other than ten, after the letter of the base. -/
def radixInteger? (base : Nat) (cs : List Char) : Option Value := do
  let ds ← ungroup? (isDigitIn base) false cs
  if ds.isEmpty then return .illegible
  else if ds.all (isDigitIn base) then return .integer (valueIn base ds)
  else none

/-- An integer in base ten, after its sign. In groups the letters up to `f` count as digits. -/
def decimalInteger? (negative : Bool) (cs : List Char) : Option Value := do
  let ds ← ungroup? (isDigitIn 16) false cs
  if hasSpareZero cs then none
  else if ds.all Char.isDigit then
    let n := Decimal.digitsValue ds
    return .integer (if negative then -(n : Int) else n)
  else return .illegible

/-! ## Numbers with a fraction or an exponent -/

/-- The fraction of a number: its digits, and what comes after it. -/
def fraction? : List Char → Option (List Char × List Char)
  | '.' :: cs =>
    let (ds, rest) := cs.span Char.isDigit
    if ds.isEmpty then none else some (ds, rest)
  | cs => some ([], cs)

/-- The exponent of a number, which ends it. -/
def exponent? : List Char → Option Int
  | [] => some 0
  | c :: cs =>
    let (negative, ds) := splitSign cs
    if (c = 'e' ∨ c = 'E') ∧ ds ≠ [] ∧ ds.all Char.isDigit then
      let n := Decimal.digitsValue ds
      some (if negative then -(n : Int) else n)
    else none

/-- A number with a fraction, an exponent or both, after its sign. -/
def decimal? (negative : Bool) (cs : List Char) : Option Decimal := do
  let (whole, rest) := (← ungroup? Char.isDigit false cs).span Char.isDigit
  if whole.isEmpty || hasSpareZero whole then none
  else
    let (fraction, rest) ← fraction? rest
    let exponent ← exponent? rest
    return ⟨negative, Decimal.digitsValue (whole ++ fraction), exponent - fraction.length⟩

/-! ## Dates and times -/

/-- A number of exactly two digits. -/
def twoDigits? (a b : Char) : Option Nat :=
  if a.isDigit && b.isDigit then some (Decimal.digitsValue [a, b]) else none

/-- How many days a month has. -/
def daysIn (year month : Nat) : Nat :=
  if month = 2 then
    if year % 4 = 0 ∧ (year % 100 ≠ 0 ∨ year % 400 = 0) then 29 else 28
  else if month = 4 ∨ month = 6 ∨ month = 9 ∨ month = 11 then 30
  else 31

/-- Skip a date. -/
def skipDate : List Char → Option (List Char)
  | y :: y' :: y'' :: y''' :: '-' :: m :: m' :: '-' :: d :: d' :: cs => do
    let year := (← twoDigits? y y') * 100 + (← twoDigits? y'' y''')
    let month ← twoDigits? m m'
    let day ← twoDigits? d d'
    if 1 ≤ month ∧ month ≤ 12 ∧ 1 ≤ day ∧ day ≤ daysIn year month then some cs else none
  | _ => none

/-- Skip the fraction of a second. -/
def skipSecondFraction : List Char → Option (List Char)
  | '.' :: cs => if (cs.head?.map Char.isDigit).getD false then some (cs.dropWhile Char.isDigit) else none
  | cs => some cs

/-- Skip the seconds of a time, which may be absent. -/
def skipSeconds : List Char → Option (List Char)
  | ':' :: s :: s' :: cs => do
    if (← twoDigits? s s') ≤ 60 then skipSecondFraction cs else none
  | cs => some cs

/-- Skip a time of day. -/
def skipTime : List Char → Option (List Char)
  | h :: h' :: ':' :: m :: m' :: cs => do
    if (← twoDigits? h h') ≤ 23 ∧ (← twoDigits? m m') ≤ 59 then skipSeconds cs else none
  | _ => none

/-- Whether a text is an offset from universal time, or empty. -/
def isOffset : List Char → Bool
  | [] => true
  | ['Z'] => true
  | ['z'] => true
  | sign :: cs =>
    (sign == '+' || sign == '-') &&
      match cs with
      | [h, h', ':', m, m'] =>
        ((twoDigits? h h').map (decide <| · ≤ 23)).getD false
          && ((twoDigits? m m').map (decide <| · ≤ 59)).getD false
      | _ => false

/-- Whether a word is a date, a time of day, or a date with a time of day and perhaps an offset. -/
def isDateTime (cs : List Char) : Bool :=
  match skipDate cs with
  | some [] => true
  | some (c :: cs) =>
    (c == 'T' || c == 't' || c == ' ') && ((skipTime cs).map isOffset).getD false
  | none => ((skipTime cs).map List.isEmpty).getD false

/-! ## Values without quotes -/

/-- Whether a character makes a number with a fraction or an exponent. -/
def isFractional (c : Char) : Bool := c == '.' || c == 'e' || c == 'E'

/-- The number in a text, or the date or time. -/
def numberOrTime? (text : List Char) : Option Value :=
  let (negative, body) := splitSign text
  let rest := body.dropWhile Char.isDigit
  match rest.head? with
  | some '-' | some ':' => if isDateTime text then some .dateTime else none
  | first =>
    if rest.contains ' ' then none
    else if rest.any isFractional then (decimal? negative body).map fun d => .float (.finite d)
    else if first = some '_' ∨ (first = none ∧ body ≠ []) then decimalInteger? negative body
    else none

/-- **What a text without quotes is.** -/
def bareValue? (text : List Char) : Option Value :=
  match text with
  | ['t', 'r', 'u', 'e'] => some (.boolean true)
  | ['f', 'a', 'l', 's', 'e'] => some (.boolean false)
  | '0' :: 'x' :: cs => radixInteger? 16 cs
  | '0' :: 'o' :: cs => radixInteger? 8 cs
  | '0' :: 'b' :: cs => radixInteger? 2 cs
  | _ =>
    let (negative, body) := splitSign text
    if body = ['i', 'n', 'f'] then some (.float (.infinite negative))
    else if body = ['n', 'a', 'n'] then some (.float .notANumber)
    else numberOrTime? text

/-- Whether a character may stand in a word: none that is white space of TOML, sets values apart or
starts a comment. -/
def isWordChar (c : Char) : Bool :=
  !(isBlank c || c == '\n' || c == '\r' || c == '#' || c == '=' || c == ',' || c == '[' || c == ']'
    || c == '\x7b' || c == '\x7d')

/-- Whether a character may start a word after a blank. -/
def isWordStart (c : Char) : Bool := isWordChar c && c != '"' && c != '\''

/-- Split off the words at the start of a text, with the blanks between them. -/
def spanWords : List Char → List Char × List Char
  | [] => ([], [])
  | c :: cs =>
    if isWordChar c || (isBlank c && (skipBlanks cs).head?.any isWordStart) then
      let (words, rest) := spanWords cs
      (c :: words, rest)
    else ([], c :: cs)

/-- Read a value without quotes. -/
def readBare (cs : List Char) : Option (Value × List Char) :=
  let (text, rest) := spanWords cs
  (bareValue? text).map fun v => (v, rest)

end Lifecycle.Toml
