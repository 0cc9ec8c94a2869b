import Lifecycle.Graph.Basic

/-!
# Graphs in the DOT language

`Graph.toDot` writes a graph for Graphviz: a line per vertex with its label, then a line per edge in
the order of insertion over the whole graph, pointing at the dependency. Labels are quoted, so that
no label can end its own line: a quote and a backslash get a backslash, and a line break is written
`\l`, which also breaks a label to the left.
-/

namespace Lifecycle.Graph

variable {α : Type}

/-- A character of a label as it stands in DOT text. -/
def dotChar : Char → List Char
  | '"' => ['\\', '"']
  | '\\' => ['\\', '\\']
  | '\n' => ['\\', 'l']
  | c => [c]

/-- A label as it stands between quotes in DOT text. -/
def dotLabel (name : String) : String := String.ofList (name.toList.flatMap dotChar)

/-- The line of vertex number `v`. -/
def dotVertex (v : Nat) (name : String) : String :=
  s!"    {v} [ label = \"{dotLabel name}\" ]\n"

/-- The line of an edge. -/
def dotEdge (e : Nat × Nat) : String := s!"    {e.1} -> {e.2} [ ]\n"

/-- **The DOT text of a graph.** Payloads and committed orders do not show. -/
def toDot (g : Graph α) : String :=
  "digraph \x7b\n"
    ++ String.join (g.vertices.toList.zipIdx.map fun (x, v) => dotVertex v x.label)
    ++ String.join (g.edges.toList.map dotEdge)
    ++ "\x7d\n"

end Lifecycle.Graph
