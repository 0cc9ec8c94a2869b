/-!
# Positions in bytes

The places in a text are counted in the bytes of its encoding, of which a character takes one to four
(`byteCount`). `cut?` takes out the part of a text between two places, unless one of them is within a
character. **Between the two ends of a part lies that part** (`cut?_append`).
-/

namespace Lifecycle.Text

/-- How many bytes some characters take. -/
def byteCount (cs : List Char) : Nat := cs.foldr (fun c n => c.utf8Size + n) 0

/-- A text without its first `n` bytes, unless they end within a character. -/
def dropBytes? (n : Nat) : List Char → Option (List Char)
  | [] => if n = 0 then some [] else none
  | c :: cs =>
    if n = 0 then some (c :: cs)
    else if c.utf8Size ≤ n then dropBytes? (n - c.utf8Size) cs
    else none

/-- The first `n` bytes of a text, unless they end within a character. -/
def takeBytes? (n : Nat) : List Char → Option (List Char)
  | [] => if n = 0 then some [] else none
  | c :: cs =>
    if n = 0 then some []
    else if c.utf8Size ≤ n then (takeBytes? (n - c.utf8Size) cs).map (c :: ·)
    else none

/-- The part of a text from one place up to another. -/
def cut? (start stop : Nat) (cs : List Char) : Option (List Char) :=
  (dropBytes? start cs).bind (takeBytes? (stop - start))

theorem byteCount_cons (c : Char) (cs : List Char) :
    byteCount (c :: cs) = c.utf8Size + byteCount cs := List.foldr_cons

theorem dropBytes?_append (cs rest : List Char) :
    dropBytes? (byteCount cs) (cs ++ rest) = some rest := by
  induction cs with
  | nil => cases rest <;> rfl
  | cons c cs ih =>
    have hpos := c.utf8Size_pos
    rw [byteCount_cons, List.cons_append, dropBytes?, if_neg (by omega), if_pos (by omega),
      Nat.add_sub_cancel_left, ih]

theorem takeBytes?_append (cs rest : List Char) :
    takeBytes? (byteCount cs) (cs ++ rest) = some cs := by
  induction cs with
  | nil => cases rest <;> rfl
  | cons c cs ih =>
    have hpos := c.utf8Size_pos
    rw [byteCount_cons, List.cons_append, takeBytes?, if_neg (by omega), if_pos (by omega),
      Nat.add_sub_cancel_left, ih, Option.map_some]

/-- The part of a text between the place where it starts and the place where it ends is that part. -/
theorem cut?_append (before part after : List Char) :
    cut? (byteCount before) (byteCount before + byteCount part) (before ++ (part ++ after)) =
      some part := by
  rw [cut?, dropBytes?_append, Option.bind_some, Nat.add_sub_cancel_left, takeBytes?_append]

end Lifecycle.Text
