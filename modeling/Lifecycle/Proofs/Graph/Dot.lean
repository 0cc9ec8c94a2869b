import Lifecycle.Graph.Dot
import Lifecycle.Proofs.Text.PrefixCode
import Mathlib

/-!
# DOT text tells the graph

* `prefixCode_dotChar`, `prefixCode_dotLabel`: a label can be read back, and nothing in it ends its
  quotes.
* `prefixCode_dotVertex`, `prefixCode_dotEdge`: so can a line, and no line of a vertex is one of an edge
  (`dotVertex_ne_dotEdge`).
* **`toDot_eq_iff`**: two graphs have the same text iff they have the same labels and the same edges.
* `dotNodes` reads the nodes off a text, line by line. **`dotNodes_toDot`**: in the text of a graph it finds
  the vertices, with their labels and numbers.
-/

namespace Lifecycle.Graph

variable {α β : Type}

/-! ## Labels -/

/-- **Every character of a label can be read back.** A backslash tells that one more character follows,
and that one tells the rest. -/
theorem prefixCode_dotChar : PrefixCode dotChar := by
  intro a b r s heq
  unfold dotChar at heq
  split at heq <;> split at heq <;> grind

/-- No character of a label ends the quotes. -/
theorem dotChar_ne_quote (c : Char) (r s : List Char) : dotChar c ++ r ≠ ['"'] ++ s := by
  unfold dotChar
  split <;> simp_all

/-- A label and the quote after it. -/
theorem prefixCode_dotLabel : PrefixCode fun name => (dotLabel name).toList ++ ['"'] := by
  have hlabel := (prefixCode_dotChar.terminated dotChar_ne_quote).comp
    (fun _ _ => String.toList_inj.mp : Function.Injective String.toList)
  simpa only [dotLabel, String.toList_ofList] using hlabel

/-! ## Lines -/

theorem toList_dotVertex (v : Nat) (name : String) :
    (dotVertex v name).toList =
      ("    ".toList ++ (((toString v).toList ++ [' ']) ++ "[ label = \"".toList)) ++
        ([] ++ (((dotLabel name).toList ++ ['"']) ++ " ]\n".toList)) := by
  simp only [dotVertex, String.toList_append, List.append_assoc]
  rfl

theorem toList_dotEdge (e : Nat × Nat) :
    (dotEdge e).toList =
      ("    ".toList ++ (((toString e.1).toList ++ [' ']) ++ "-> ".toList)) ++
        ([] ++ (((toString e.2).toList ++ [' ']) ++ "[ ]\n".toList)) := by
  simp only [dotEdge, String.toList_append, List.append_assoc]
  rfl

/-- **A line of a vertex can be read back.** -/
theorem prefixCode_dotVertex : PrefixCode fun x : Nat × String => (dotVertex x.1 x.2).toList := by
  have hline := (prefixCode_numeral.between "    ".toList "[ label = \"".toList).pair
    (prefixCode_dotLabel.between [] " ]\n".toList)
  exact hline.congr fun x => toList_dotVertex x.1 x.2

/-- **A line of an edge can be read back.** -/
theorem prefixCode_dotEdge : PrefixCode fun e => (dotEdge e).toList := by
  have hline := (prefixCode_numeral.between "    ".toList "-> ".toList).pair
    (prefixCode_numeral.between [] "[ ]\n".toList)
  exact hline.congr toList_dotEdge

/-- After the number the line of a vertex goes on differently from that of an edge. -/
theorem dotVertex_ne_dotEdge (v : Nat) (name : String) (e : Nat × Nat) (r s : List Char) :
    (dotVertex v name).toList ++ r ≠ (dotEdge e).toList ++ s := by
  intro heq
  simp only [toList_dotVertex, toList_dotEdge, List.append_assoc] at heq
  obtain ⟨-, hrest⟩ := prefixCode_numeral v e.1 _ _ (by
    simpa only [List.append_assoc] using List.append_cancel_left heq)
  exact absurd (congrArg List.head? hrest) (by simp)

/-- No line is the closing brace. -/
theorem dotVertex_ne_brace (v : Nat) (name : String) (r : List Char) :
    (dotVertex v name).toList ++ r ≠ "\x7d\n".toList := by
  rw [toList_dotVertex]
  exact fun heq => absurd (congrArg List.head? heq) (by simp)

theorem dotEdge_ne_brace (e : Nat × Nat) (r : List Char) :
    (dotEdge e).toList ++ r ≠ "\x7d\n".toList := by
  rw [toList_dotEdge]
  exact fun heq => absurd (congrArg List.head? heq) (by simp)

/-! ## Graphs -/

variable (g : Graph α) (h : Graph β)

theorem map_label_ids : g.ids.map g.label = g.vertices.toList.map (·.label) := by
  refine List.ext_getElem (by simp [ids, size]) fun v hv _ => ?_
  have hlt : v < g.vertices.size := by simpa [ids, size] using hv
  simp [ids, label, vertex?, hlt]

/-- A label is read off the list of all labels. -/
theorem getD_map_label_ids (v : Nat) : (g.ids.map g.label)[v]?.getD "<unknown>" = g.label v := by
  rw [map_label_ids, List.getElem?_map, Array.getElem?_toList]
  rfl

/-- The lines of a text, without those that do not depend on the graph. -/
def dotLines : List Char :=
  (g.ids.map g.label).zipIdx.flatMap (fun x => (dotVertex x.2 x.1).toList)
    ++ (g.edges.toList.flatMap (fun e => (dotEdge e).toList) ++ "\x7d\n".toList)

theorem toList_toDot : g.toDot.toList = "digraph \x7b\n".toList ++ g.dotLines := by
  simp only [toDot, dotLines, map_label_ids, String.toList_append, String.toList_join,
    List.zipIdx_map, List.flatMap_map, List.append_assoc]
  rfl

/-- **The lines tell the labels and the edges.** -/
theorem dotLines_inj (heq : g.dotLines = h.dotLines) :
    g.ids.map g.label = h.ids.map h.label ∧ g.edges = h.edges := by
  have hswap : PrefixCode fun x : String × Nat => (dotVertex x.swap.1 x.swap.2).toList :=
    prefixCode_dotVertex.comp (h := Prod.swap) Prod.swap_injective
  -- what follows the lines of vertices is a line of an edge or the brace
  have hnext : ∀ (es : List (Nat × Nat)) (x : String × Nat) (r : List Char),
      (dotVertex x.2 x.1).toList ++ r
        ≠ es.flatMap (fun e => (dotEdge e).toList) ++ "\x7d\n".toList := by
    intro es x r
    cases es with
    | nil =>
      rw [List.flatMap_nil, List.nil_append]
      exact dotVertex_ne_brace x.2 x.1 r
    | cons e es =>
      rw [List.flatMap_cons, List.append_assoc]
      exact dotVertex_ne_dotEdge x.2 x.1 e r _
  obtain ⟨hlabels, hrest⟩ := hswap.flatMap_inj (hnext _) (hnext _) heq
  obtain ⟨hedges, -⟩ := prefixCode_dotEdge.flatMap_inj dotEdge_ne_brace dotEdge_ne_brace hrest
  refine ⟨?_, Array.toList_inj.mp hedges⟩
  rw [← List.zipIdx_map_fst 0 (g.ids.map g.label), hlabels, List.zipIdx_map_fst]

/-- **The DOT text of a graph tells the graph.** Two graphs have the same text iff they have as many
vertices, the same label at every position and the same edges in the same sequence. Payloads, even of
different types, and committed orders do not count, and whatever a label holds does not pass for a vertex
or an edge. -/
theorem toDot_eq_iff (g : Graph α) (h : Graph β) :
    g.toDot = h.toDot ↔ g.size = h.size ∧ (∀ v, g.label v = h.label v) ∧ g.edges = h.edges := by
  rw [← String.toList_inj, toList_toDot, toList_toDot, List.append_cancel_left_eq]
  constructor
  · intro heq
    obtain ⟨hlabels, hedges⟩ := dotLines_inj g h heq
    have hsize : g.size = h.size := by
      simpa only [ids, List.length_map, List.length_range] using congrArg List.length hlabels
    refine ⟨hsize, fun v => ?_, hedges⟩
    rw [← getD_map_label_ids g, ← getD_map_label_ids h, hlabels]
  · rintro ⟨hsize, hlabel, hedges⟩
    rw [dotLines, dotLines, ids, ids, hsize, funext hlabel, hedges]

/-! ## Nodes of a text -/

/-- What the rest of a line says as a label: it ends with the quotes, and the line with it. -/
def readLabel? : List Char → Option (List Char)
  | ['"', ' ', ']'] => some []
  | '\\' :: 'l' :: cs => (readLabel? cs).map ('\n' :: ·)
  | '\\' :: c :: cs => (readLabel? cs).map (c :: ·)
  | '"' :: _ => none
  | c :: cs => (readLabel? cs).map (c :: ·)
  | [] => none

/-- The node that a line declares, if it declares one: its label and its number. -/
def dotNode? (line : List Char) : Option (String × Nat) := do
  let indented ← "    ".toList.isPrefixOf? line
  let (digits, rest) := indented.span Char.isDigit
  let rest ← " [ label = \"".toList.isPrefixOf? rest
  let label ← readLabel? rest
  if digits.isEmpty then none else some (String.ofList label, Decimal.digitsValue digits)

/-- **The nodes that a DOT text declares**, line by line. -/
def dotNodes (text : String) : List (String × Nat) :=
  (text.toList.splitOn '\n').filterMap dotNode?

/-- The line of a node, without its line break. -/
def nodeLine (x : String × Nat) : List Char :=
  "    ".toList ++ (Nat.toDigits 10 x.2 ++ (" [ label = \"".toList ++
    (x.1.toList.flatMap dotChar ++ ['"', ' ', ']'])))

/-- The line of an edge, without its line break. -/
def edgeLine (e : Nat × Nat) : List Char :=
  "    ".toList ++ (Nat.toDigits 10 e.1 ++ (" -> ".toList ++ (Nat.toDigits 10 e.2 ++ " [ ]".toList)))

/-- A character is escaped by another one, or stands for itself. -/
theorem dotChar_cases (c : Char) :
    (c = '"' ∧ dotChar c = ['\\', '"']) ∨ (c = '\\' ∧ dotChar c = ['\\', '\\']) ∨
      (c = '\n' ∧ dotChar c = ['\\', 'l']) ∨
      (c ≠ '"' ∧ c ≠ '\\' ∧ c ≠ '\n' ∧ dotChar c = [c]) := by
  unfold dotChar
  split <;> simp_all

/-- A label is read back from its characters. -/
theorem readLabel?_dotChar (cs : List Char) :
    readLabel? (cs.flatMap dotChar ++ ['"', ' ', ']']) = some cs := by
  induction cs with
  | nil => rfl
  | cons c cs ih =>
    rw [List.flatMap_cons, List.append_assoc]
    rcases dotChar_cases c with ⟨rfl, hc⟩ | ⟨rfl, hc⟩ | ⟨rfl, hc⟩ | ⟨hquote, hbackslash, -, hc⟩ <;>
      rw [hc]
    · simp [readLabel?, ih]
    · simp [readLabel?, ih]
    · simp [readLabel?, ih]
    · simp [readLabel?, ih, hquote, hbackslash]

/-- A text that starts with another one. -/
theorem isPrefixOf?_append (cs rest : List Char) : cs.isPrefixOf? (cs ++ rest) = some rest :=
  List.isPrefixOf?_eq_some_iff_append_eq.mpr rfl

/-- **A node is read off its line.** -/
theorem dotNode?_nodeLine (x : String × Nat) : dotNode? (nodeLine x) = some x := by
  have hspan (rest : List Char) :
      (Nat.toDigits 10 x.2 ++ (" [ label = \"".toList ++ rest)).span Char.isDigit
        = (Nat.toDigits 10 x.2, " [ label = \"".toList ++ rest) :=
    Decimal.span_toDigits x.2 (.cons rfl _)
  have hdigits : (Nat.toDigits 10 x.2).isEmpty = false :=
    List.isEmpty_eq_false_iff.mpr Nat.toDigits_ne_nil
  simp only [dotNode?, nodeLine, isPrefixOf?_append, hspan, readLabel?_dotChar, hdigits,
    Option.bind_eq_bind, Option.bind_some, Decimal.digitsValue_toDigits, String.ofList_toList,
    Bool.false_eq_true, if_false]

/-- The line of an edge declares no node. -/
theorem dotNode?_edgeLine (e : Nat × Nat) : dotNode? (edgeLine e) = none := by
  have hspan (rest : List Char) :
      (Nat.toDigits 10 e.1 ++ (" -> ".toList ++ rest)).span Char.isDigit
        = (Nat.toDigits 10 e.1, " -> ".toList ++ rest) :=
    Decimal.span_toDigits e.1 (.cons rfl _)
  simp only [dotNode?, edgeLine, isPrefixOf?_append, hspan, Option.bind_eq_bind, Option.bind_some]
  rfl

theorem newline_notMem_toDigits (n : Nat) : '\n' ∉ Nat.toDigits 10 n := fun h =>
  absurd (Decimal.isDigit_of_mem_toDigits _ h) (by decide)

/-- No line of a graph has a line break in it. -/
theorem newline_notMem_nodeLine (x : String × Nat) : '\n' ∉ nodeLine x := by
  have hlabel : '\n' ∉ x.1.toList.flatMap dotChar := by
    intro h
    obtain ⟨c, -, hc⟩ := List.mem_flatMap.mp h
    rcases dotChar_cases c with ⟨-, heq⟩ | ⟨-, heq⟩ | ⟨-, heq⟩ | ⟨-, -, hne, heq⟩ <;> rw [heq] at hc
    · simp at hc
    · simp at hc
    · simp at hc
    · exact hne (List.mem_singleton.mp hc).symm
  simp [nodeLine, newline_notMem_toDigits, hlabel]

theorem newline_notMem_edgeLine (e : Nat × Nat) : '\n' ∉ edgeLine e := by
  simp [edgeLine, newline_notMem_toDigits]

/-- Lines with a break behind each are split at the breaks. Nothing follows the last one. -/
theorem splitOn_flatMap_append {lines : List (List Char)} (h : ∀ line ∈ lines, '\n' ∉ line) :
    (lines.flatMap (· ++ ['\n'])).splitOn '\n' = lines ++ [[]] := by
  have hjoin : lines.flatMap (· ++ ['\n']) = ['\n'].intercalate (lines ++ [[]]) := by
    induction lines with
    | nil => simp
    | cons line lines ih =>
      have hne : lines ++ [[]] ≠ [] := by simp
      obtain ⟨l, ls, hls⟩ := List.exists_cons_of_ne_nil hne
      rw [List.flatMap_cons, List.cons_append, hls, List.intercalate_cons_cons, ← hls,
        ← ih fun l hl => h l (List.mem_cons_of_mem _ hl)]
  rw [hjoin]
  refine List.splitOn_intercalate '\n' (fun line hline => ?_) (by simp)
  rcases List.mem_append.mp hline with hmem | hmem
  · exact h line hmem
  · obtain rfl := List.mem_singleton.mp hmem
    exact List.not_mem_nil

/-- The lines of the text of a graph. -/
def textLines : List (List Char) :=
  "digraph \x7b".toList ::
    ((g.ids.map g.label).zipIdx.map nodeLine ++ (g.edges.toList.map edgeLine ++ [['\x7d']]))

theorem toList_toDot_eq_flatMap : g.toDot.toList = g.textLines.flatMap (· ++ ['\n']) := by
  have hnode : ∀ x : String × Nat, (dotVertex x.2 x.1).toList = nodeLine x ++ ['\n'] := fun x => by
    simp only [toList_dotVertex, nodeLine, dotLabel, String.toList_ofList, Nat.toString_eq_repr,
      Nat.toList_repr, List.append_assoc]
    rfl
  have hedge : ∀ e : Nat × Nat, (dotEdge e).toList = edgeLine e ++ ['\n'] := fun e => by
    simp only [toList_dotEdge, edgeLine, Nat.toString_eq_repr, Nat.toList_repr, List.append_assoc]
    rfl
  simp only [toList_toDot, dotLines, textLines, hnode, hedge, List.flatMap_cons, List.flatMap_append,
    List.flatMap_map]
  rfl

/-- **The nodes of the text of a graph are its vertices**, with their labels and numbers. -/
theorem dotNodes_toDot : dotNodes g.toDot = (g.ids.map g.label).zipIdx := by
  have hlines : ∀ line ∈ g.textLines, '\n' ∉ line := by
    simp only [textLines, List.forall_mem_cons, List.forall_mem_append, List.forall_mem_map]
    exact ⟨by decide, fun x _ => newline_notMem_nodeLine x, fun e _ => newline_notMem_edgeLine e,
      by decide, List.forall_mem_nil _⟩
  have hnodes : dotNode? ∘ nodeLine = some := funext dotNode?_nodeLine
  have hedges : dotNode? ∘ edgeLine = fun _ => none := funext dotNode?_edgeLine
  have hhead : dotNode? "digraph \x7b".toList = none := rfl
  have hend : [['\x7d'], []].filterMap dotNode? = [] := rfl
  rw [dotNodes, toList_toDot_eq_flatMap, splitOn_flatMap_append hlines, textLines, List.cons_append,
    List.filterMap_cons_none hhead, List.append_assoc, List.append_assoc, List.singleton_append,
    List.filterMap_append, List.filterMap_append, List.filterMap_map, List.filterMap_map, hnodes,
    hedges, hend, List.filterMap_some]
  simp

/-- Quotes in a label do not end it, and an edge is no node. -/
example : dotNodes "digraph \x7b\n    0 [ label = \"a\\\"\\l\" ]\n    0 -> 0 [ ]\n\x7d\n" = [("a\"\n", 0)] := by
  cbv

end Lifecycle.Graph
