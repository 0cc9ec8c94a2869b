import Lifecycle.Json.Reader
import Lifecycle.Text.Classes

/-!
# Patterns of field values

A directive of a filter may ask for the value of a field by a regular expression. No event is asked
for a value in this library, so all that counts is **whether a pattern can be used**
(`Pattern.isValid`). It is refused if

* it is not well formed;
* it needs tables of Unicode, as classes such as `\w`, edges of words and letters without regard to
  case do unless the flag `u` is off;
* it could match a part of a character, as a dot or a negated class could with the flag `u` off;
* it is nested deeper than `maxHeight`. Groups, classes, repetitions and operators in classes count as
  nesting, and so do alternatives, sequences and the members of a class where there are several.

A brace that closes ends the field, so no pattern holds one. Hence a repetition count is never
complete, nor is anything else in braces.
-/

namespace Lifecycle.Pattern

/-- The flags that decide what a pattern may hold: letters without regard to case, white space and
comments left out, and whole characters of Unicode. -/
structure Flags where
  ignoreCase : Bool := false
  verbose : Bool := false
  unicode : Bool := true
  deriving Repr, DecidableEq

namespace Flags

/-- Whether letters need a table of their other cases. -/
def folds (f : Flags) : Bool := f.ignoreCase && f.unicode

/-- Skip white space and comments; `comment` tells whether a comment is open. -/
def skipFiller (comment : Bool) : List Char → List Char
  | [] => []
  | c :: cs =>
    if comment then skipFiller (c != '\n') cs
    else if Text.isWhiteSpace c then skipFiller false cs
    else if c = '#' then skipFiller true cs
    else c :: cs

/-- Skip what is left out. -/
def skip (f : Flags) (cs : List Char) : List Char := if f.verbose then skipFiller false cs else cs

/-- Set a flag by its letter. The other flags have no part in whether a pattern can be used. -/
def set (f : Flags) (letter : Char) (value : Bool) : Flags :=
  match letter with
  | 'i' => { f with ignoreCase := value }
  | 'x' => { f with verbose := value }
  | 'u' => { f with unicode := value }
  | _ => f

/-- Read the flags of a group up to the colon or bracket after them. `seen` holds the letters before,
`off` tells whether a minus sign is among them. The result tells whether there were none. -/
def read? (f : Flags) (seen : List Char) (off : Bool) : List Char → Option (Flags × Bool × List Char)
  | [] => none
  | '-' :: cs => if off || !(cs.head?.any Char.isAlpha) then none else read? f seen true cs
  | c :: cs =>
    if c = ':' ∨ c = ')' then some (f, seen.isEmpty, c :: cs)
    else if ['i', 'm', 's', 'U', 'u', 'R', 'x'].contains c && !seen.contains c then
      read? (f.set c (!off)) (c :: seen) off cs
    else none

end Flags

/-- The smallest parts of a pattern. -/
inductive Part where
  /-- A character, perhaps written as a byte in two hexadecimal digits. -/
  | character (c : Char) (byte : Bool)
  /-- A class with a letter for a name, perhaps negated. -/
  | shorthand (negated : Bool)
  /-- The start or the end of the text. -/
  | edge
  /-- A place at the edge of a word, or one that is not. -/
  | wordEdge
  deriving Repr, DecidableEq

/-- Whether a part can be used outside of classes. -/
def Part.isUsable (f : Flags) : Part → Bool
  | .character c byte => !f.folds && (f.unicode || !byte || decide (c.toNat < 0x80))
  | .shorthand negated => !f.unicode && !negated
  | .edge => true
  | .wordEdge => !f.unicode

/-- Whether a part can be used in a class. -/
def Part.isMember (f : Flags) : Part → Bool
  | .character c _ => !f.folds && (f.unicode || decide (c.toNat < 0x80))
  | .shorthand negated => !f.unicode && !negated
  | .edge => false
  | .wordEdge => false

/-- Read so many hexadecimal digits. -/
def readHex? (f : Flags) : Nat → Nat → List Char → Option (Nat × List Char)
  | 0, value, cs => some (value, cs)
  | n + 1, value, cs =>
    match f.skip cs with
    | [] => none
    | d :: cs => do readHex? f n (value * 16 + (← Json.hexValue? d)) cs

/-- Read a character by its code point in so many hexadecimal digits. -/
def readCode? (f : Flags) (digits : Nat) (cs : List Char) : Option (Part × List Char) := do
  let (value, rest) ← readHex? f digits 0 cs
  if value.isValidChar then return (.character (Char.ofNat value) (digits == 2), rest) else none

/-- Read what stands after a backslash. -/
def readEscape? (f : Flags) : List Char → Option (Part × List Char)
  | [] => none
  | c :: cs =>
    if c = 'x' then readCode? f 2 cs
    else if c = 'u' then readCode? f 4 cs
    else if c = 'U' then readCode? f 8 cs
    else if c = 'd' ∨ c = 's' ∨ c = 'w' then some (.shorthand false, cs)
    else if c = 'D' ∨ c = 'S' ∨ c = 'W' then some (.shorthand true, cs)
    else if c = 'A' ∨ c = 'z' then some (.edge, cs)
    else if c = 'b' ∨ c = 'B' ∨ c = '<' ∨ c = '>' then some (.wordEdge, cs)
    else if ['a', 'f', 't', 'n', 'r', 'v'].contains c then some (.character ' ' false, cs)
    else if c.toNat < 0x80 ∧ !c.isAlphanum then some (.character c false, cs)
    else none

/-! ## Classes in brackets -/

/-- The names of classes that stand in brackets and colons. -/
def classNames : List String :=
  ["alnum", "alpha", "ascii", "blank", "cntrl", "digit", "graph", "lower", "print", "punct", "space",
    "upper", "word", "xdigit"]

/-- Read a named class after its bracket: whether it is negated, and what comes after it. -/
def readNamed? : List Char → Option (Bool × List Char)
  | ':' :: cs =>
    let (negated, cs) := match cs with
      | '^' :: cs => (true, cs)
      | cs => (false, cs)
    let name := String.ofList (cs.takeWhile (· != ':'))
    match cs.dropWhile (· != ':') with
    | ':' :: ']' :: rest => if classNames.contains name then some (negated, rest) else none
    | _ => none
  | _ => none

/-- Read a character or an escape of a class. -/
def readMember? (f : Flags) : List Char → Option (Part × List Char)
  | [] => none
  | '\\' :: cs => readEscape? f cs
  | c :: cs => some (.character c false, cs)

/-- Read a member of a class, or a range of characters. A hyphen at the end of the class and one before
another hyphen make no range. -/
def readRange? (f : Flags) (cs : List Char) : Option (List Char) := do
  let (first, rest) ← readMember? f cs
  let single := if first.isMember f then some (f.skip rest) else none
  match f.skip rest with
  | '-' :: after =>
    match f.skip after with
    | ']' :: _ | '-' :: _ => single
    | after => do
      let (last, rest) ← readMember? f after
      match first, last with
      | .character a _, .character b _ =>
        if first.isMember f && last.isMember f && decide (a ≤ b) then return rest else none
      | _, _ => none
  | _ => single

/-- How deep a node is nested over parts that are nested so deep. One part needs no node over it. -/
def heightOver : List Nat → Nat
  | [] => 0
  | [h] => h
  | hs => hs.foldl max 0 + 1

/-- An open class: how deep the members since its last operator are nested, and what stands before
that operator. -/
structure ClassBody where
  before : Option Nat := none
  members : List Nat := []
  deriving Repr, DecidableEq

namespace ClassBody

/-- How deep the inside of a class is nested. -/
def height (b : ClassBody) : Nat :=
  match b.before with
  | none => heightOver b.members
  | some h => max h (heightOver b.members) + 1

/-- Add a member. -/
def add (b : ClassBody) (height : Nat) : ClassBody := { b with members := height :: b.members }

/-- Go past an operator. -/
def operate (b : ClassBody) : ClassBody := ⟨some b.height, []⟩

end ClassBody

/-- Where a reader of a class is: right after its opening, after hyphens there, or further on. -/
inductive ClassPlace where
  | opening
  | hyphens
  | inside
  deriving Repr, DecidableEq

/-- Skip the sign that negates a class. -/
def skipNegation? (f : Flags) (cs : List Char) : Option (List Char) :=
  match f.skip cs with
  | '^' :: cs => if f.unicode then some cs else none
  | cs => some cs

/-- Read the rest of a class that lies in other classes: how deep it is nested, and what comes after it.
The first character after its opening stands for itself even if it is the closing bracket, and so do
hyphens there. -/
def readClass? (f : Flags) :
    Nat → ClassPlace → ClassBody → List ClassBody → List Char → Option (Nat × List Char)
  | 0, _, _, _, _ => none
  | fuel + 1, place, body, outer, cs =>
    match place, f.skip cs with
    | _, [] => none
    | .opening, '-' :: cs => if f.folds then none else readClass? f fuel .hyphens (body.add 0) outer cs
    | .hyphens, '-' :: cs => if f.folds then none else readClass? f fuel .hyphens (body.add 0) outer cs
    | .opening, ']' :: cs => if f.folds then none else readClass? f fuel .inside (body.add 0) outer cs
    | _, '[' :: cs =>
      match readNamed? cs with
      | some (negated, rest) =>
        if f.folds || (negated && !f.unicode) then none
        else readClass? f fuel .inside (body.add 0) outer rest
      | none => do readClass? f fuel .opening {} (body :: outer) (← skipNegation? f cs)
    | _, ']' :: cs =>
      match outer with
      | [] => some (body.height + 1, cs)
      | around :: outer => readClass? f fuel .inside (around.add (body.height + 1)) outer cs
    | _, '&' :: '&' :: cs => readClass? f fuel .inside body.operate outer cs
    | _, '-' :: '-' :: cs => readClass? f fuel .inside body.operate outer cs
    | _, '~' :: '~' :: cs => readClass? f fuel .inside body.operate outer cs
    | _, cs => do readClass? f fuel .inside (body.add 0) outer (← readRange? f cs)

/-! ## Groups -/

/-- Whether a character may stand in the name of a group. -/
def isNameChar (c : Char) : Bool :=
  c == '_' || c == '.' || c == '[' || c == ']' || Text.isAlphanumeric c

/-- Whether a text is the name of a group. -/
def isName : List Char → Bool
  | [] => false
  | c :: cs => (c == '_' || Text.isAlphabetic c) && cs.all isNameChar

/-- What the start of a group says: its name, the flags in it, or flags for the rest of the group
around it. -/
inductive Opening where
  | group (name : Option (List Char)) (flags : Flags)
  | flags (flags : Flags)

/-- Read the name of a group. -/
def readName? (f : Flags) (cs : List Char) : Option (Opening × List Char) :=
  let name := cs.takeWhile (· != '>')
  match cs.dropWhile (· != '>') with
  | _ :: rest => if isName name then some (.group (some name) f, rest) else none
  | [] => none

/-- Read the start of a group after its bracket. There are no groups that look ahead or behind. -/
def readOpening? (f : Flags) (cs : List Char) : Option (Opening × List Char) :=
  match f.skip cs with
  | '?' :: 'P' :: '<' :: cs => readName? f cs
  | '?' :: '<' :: cs => readName? f cs
  | '?' :: cs => do
    let (inner, empty, rest) ← f.read? [] false cs
    match rest with
    | ':' :: rest => return (.group none inner, rest)
    | _ :: rest => if empty then none else return (.flags inner, rest)
    | [] => none
  | cs => some (.group none f, cs)

/-! ## Patterns -/

/-- An open group: its flags, how deep its alternatives so far are nested, and how deep the parts of the
last one are, last first. Flags that are set are a part too, but one that cannot be repeated. -/
structure GroupBody where
  flags : Flags := {}
  alternatives : List Nat := []
  parts : List (Option Nat) := []
  deriving Repr, DecidableEq

namespace GroupBody

/-- How deep the last alternative is nested. -/
def last (g : GroupBody) : Nat := heightOver (g.parts.map fun part => part.getD 0)

/-- How deep the inside of a group is nested. -/
def height (g : GroupBody) : Nat := heightOver (g.last :: g.alternatives)

/-- Add a part. -/
def add (g : GroupBody) (height : Nat) : GroupBody := { g with parts := some height :: g.parts }

/-- Set flags. -/
def setFlags (g : GroupBody) (flags : Flags) : GroupBody := { g with flags, parts := none :: g.parts }

/-- Go on to another alternative. -/
def alternate (g : GroupBody) : GroupBody :=
  { g with alternatives := g.last :: g.alternatives, parts := [] }

/-- Repeat the last part. -/
def repeat? (g : GroupBody) : Option GroupBody :=
  match g.parts with
  | some h :: parts => some { g with parts := some (h + 1) :: parts }
  | _ => none

end GroupBody

/-- Skip the sign after a repetition that prefers few. -/
def skipLazy : List Char → List Char
  | '?' :: cs => cs
  | cs => cs

/-- How deep a pattern is nested, from its rest and the groups that are open; `names` holds the names of
groups so far. `none` if it cannot be used. -/
def height? (g : GroupBody) (outer : List GroupBody) (names : List (List Char)) :
    Nat → List Char → Option Nat
  | 0, _ => none
  | fuel + 1, cs =>
    match g.flags.skip cs with
    | [] => if outer.isEmpty then some g.height else none
    | '(' :: cs =>
      match readOpening? g.flags cs with
      | none => none
      | some (.flags inner, rest) => height? (g.setFlags inner) outer names fuel rest
      | some (.group none inner, rest) => height? { flags := inner } (g :: outer) names fuel rest
      | some (.group (some name) inner, rest) =>
        if names.contains name then none
        else height? { flags := inner } (g :: outer) (name :: names) fuel rest
    | ')' :: cs =>
      match outer with
      | [] => none
      | around :: outer => height? (around.add (g.height + 1)) outer names fuel cs
    | '|' :: cs => height? g.alternate outer names fuel cs
    | '{' :: _ => none
    | '[' :: cs => do
      let (height, rest) ← readClass? g.flags (cs.length + 1) .opening {} [] (← skipNegation? g.flags cs)
      height? (g.add height) outer names fuel rest
    | '\\' :: cs => do
      let (part, rest) ← readEscape? g.flags cs
      if part.isUsable g.flags then height? (g.add 0) outer names fuel rest else none
    | '.' :: cs => if g.flags.unicode then height? (g.add 0) outer names fuel cs else none
    | '^' :: cs => height? (g.add 0) outer names fuel cs
    | '$' :: cs => height? (g.add 0) outer names fuel cs
    | c :: cs =>
      if c = '?' ∨ c = '*' ∨ c = '+' then do height? (← g.repeat?) outer names fuel (skipLazy cs)
      else if (Part.character c false).isUsable g.flags then height? (g.add 0) outer names fuel cs
      else none

/-- How deep a pattern may be nested. -/
def maxHeight : Nat := 250

/-- **Whether a pattern can be used.** -/
def isValid (pattern : List Char) : Bool :=
  (height? {} [] [] (pattern.length + 1) pattern).any (· ≤ maxHeight)

end Lifecycle.Pattern
