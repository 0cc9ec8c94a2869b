import Lifecycle.Program.Command
import Lifecycle.Proofs.Graph.Dot
import Lifecycle.Proofs.Json.Documents
import Lifecycle.Proofs.Manifest.Load
import Lifecycle.Proofs.Plan.Description
import Mathlib

/-!
# The commands agree on a manifest

Three commands plan a manifest and one only builds its graph, and each writes what it found in its own
way.

* `Writing.Yields`: a command writes a text to any output, or fails and leaves any output as it was.
  **`exists_yields`**: every command does one or the other, since each loads all that it needs before it
  writes anything.
* `yields_writeCheck`, `yields_writeOrder`, `yields_writeGraph`: what it takes for a command to succeed,
  and what it writes then.
* `Command.Reports` says what the commands write about a manifest that can be planned: the lines of a text,
  what a JSON document says and which nodes a graph has. **`reports_of_plan`**: they do.
* **`commands_agree`** puts it together.
-/

namespace Lifecycle

/-- Lines of text, each with its line break. -/
def textOfLines (lines : List String) : String := String.join (lines.map (· ++ "\n"))

/-! ## Writing -/

namespace Writing

variable {α β : Type}

/-- What a command that writes comes to on any output: it adds a text, or it fails and adds nothing. -/
def Yields (w : Writing Unit) : Except CommandError String → Prop
  | .ok text => ∀ out, w.on out = (.ok (), out ++ text)
  | .error e => ∀ out, w.on out = (.error e, out)

/-- One step after another: a failure ends them, and what was written stays. -/
theorem on_bind (x : Writing α) (f : α → Writing β) (out : String) :
    (x >>= f).on out =
      match x.on out with
      | (.ok a, out') => (f a).on out'
      | (.error e, out') => (.error e, out') := by
  -- the output goes on to the continuation, which adds nothing to it if the first step failed
  have hstep : (x >>= f).on out = (ExceptT.bindCont f (x.on out).1).run (x.on out).2 := rfl
  obtain ⟨r, out', hx⟩ : ∃ r out', x.on out = (r, out') := ⟨_, _, rfl⟩
  rw [hstep, hx]
  cases r <;> rfl

/-- What needs no output leaves it as it was. -/
theorem on_lift (r : Except CommandError α) (out : String) :
    (liftM r : Writing α).on out = (r, out) := by
  cases r <;> rfl

/-- Nothing is done, so no line is written. -/
theorem yields_pure : Yields (pure ()) (.ok (textOfLines [])) := fun out => by
  have htext : textOfLines [] = "" := rfl
  rw [htext, String.append_empty]
  rfl

theorem yields_line (s : String) : (line s).Yields (.ok (textOfLines [s])) := fun out => by
  have htext : textOfLines [s] = s ++ "\n" := by simp [textOfLines]
  rw [htext]
  rfl

/-- A step that succeeds, and then others. -/
theorem Yields.bind {x y : Writing Unit} {s t : String} (hx : x.Yields (.ok s))
    (hy : y.Yields (.ok t)) : (x >>= fun _ => y).Yields (.ok (s ++ t)) := fun out => by
  rw [on_bind, hx out]
  show y.on (out ++ s) = _
  rw [hy, String.append_assoc]

/-- What fails before it writes writes nothing. -/
theorem yields_lift {r : Except CommandError α} {f : α → Writing Unit} {text : α → String}
    (h : ∀ a, (f a).Yields (.ok (text a))) : (liftM r >>= f).Yields (r.map text) := by
  cases r with
  | error e =>
    intro out
    rw [on_bind, on_lift]
  | ok a =>
    intro out
    rw [on_bind, on_lift]
    exact h a out

theorem textOfLines_cons (s : String) (lines : List String) :
    textOfLines (s :: lines) = textOfLines [s] ++ textOfLines lines := by
  simp [textOfLines, String.join_cons]

/-- Lines are written one after the other. -/
theorem yields_lines (g : α → String) :
    ∀ xs : List α, Yields (xs.forM fun x => line (g x)) (.ok (textOfLines (xs.map g)))
  | [] => yields_pure
  | x :: xs => by
    rw [List.map_cons, textOfLines_cons]
    exact (yields_line (g x)).bind (yields_lines g xs)

/-- Whether a command succeeds, and how it fails, depends on what it does before it writes. -/
theorem Yields.fst_on_map {w : Writing Unit} {r : Except CommandError α} {text : α → String}
    (h : w.Yields (r.map text)) (out : String) : (w.on out).1 = r.map fun _ => () := by
  cases r with
  | error e => exact congrArg Prod.fst (h out)
  | ok a => exact congrArg Prod.fst (h out)

/-- **What fails leaves the output as it was.** -/
theorem Yields.snd_on_of_error {w : Writing Unit} {r : Except CommandError String} (h : w.Yields r)
    {out : String} {e : CommandError} (he : (w.on out).1 = .error e) : (w.on out).2 = out := by
  cases r with
  | error e' => rw [h out]
  | ok text =>
    rw [h out] at he
    cases he

end Writing

namespace Command

open Writing

variable {read : FileReader} {style : OutputStyle} {path : String}

/-! ## What the commands write -/

/-- The lines of `check` about so many components, of which the `external` ones are not declared. -/
def checkLines (style : OutputStyle) (path : String) (count : Nat) (external : List String) :
    List String :=
  match style.format with
  | .text =>
    (styled style.color "32" "✓" ++ s!" {count} components, no cycles") ::
      if external.length > 0 then
        ["  " ++ styled style.color "33" (toString external.length) ++ " required but not declared"]
      else []
  | .json =>
    [(Json.obj [("acyclic", .bool true), ("components", .nat count), ("external", .strs external),
      ("manifest", .str path)]).pretty]

/-- The lines of `order` about some components. In text each has a line below the heading, and in JSON
they are the items of one array. -/
def orderLines (style : OutputStyle) (d : Direction) (entries : List PlannedComponent) : List String :=
  match style.format with
  | .text =>
    styled style.color "1" d.heading :: (PlannedComponent.describeFrom 1 entries).map ("  " ++ ·)
  | .json => [(Json.arr (entries.map PlannedComponent.toJson)).pretty]

theorem yields_writeCheck (read : FileReader) (style : OutputStyle) (path : String) :
    (writeCheck read style path).Yields ((loadPlan read path).map fun p =>
      textOfLines (checkLines style path p.size (p.external.map (·.name)))) := by
  refine yields_lift fun p => ?_
  unfold checkLines
  cases style.format with
  | text =>
    rw [textOfLines_cons, List.length_map]
    refine (yields_line _).bind ?_
    by_cases hexternal : p.external.length > 0
    · simp only [if_pos hexternal]
      exact yields_line _
    · simp only [if_neg hexternal]
      exact yields_pure
  | json => exact yields_line _

theorem yields_writeOrder (read : FileReader) (style : OutputStyle) (path : String) (d : Direction) :
    (writeOrder read style path d).Yields ((loadPlan read path).map fun p =>
      textOfLines (orderLines style d (p.sequence d))) := by
  refine yields_lift fun p => ?_
  unfold orderLines
  cases style.format with
  | text =>
    rw [textOfLines_cons]
    exact (yields_line _).bind (yields_lines ("  " ++ ·) _)
  | json => exact yields_line _

/-- No edge is refused, so a manifest that loads has a graph. -/
theorem yields_writeGraph (read : FileReader) (path : String) :
    (writeGraph read path).Yields (((Manifest.load read path).mapError fun e =>
      CommandError.mk (some ("Failed to load " ++ path)) (.manifest e)).map (·.graph.toDot)) := by
  refine yields_lift fun m out => ?_
  rw [on_bind, on_lift, m.buildGraph_eq]
  rfl

/-- **Every command writes a text, or fails and writes nothing.** -/
theorem exists_yields (read : FileReader) (style : OutputStyle) (c : Command) :
    ∃ r, (c.run read style).Yields r := by
  cases c with
  | check path => exact ⟨_, yields_writeCheck read style path⟩
  | order path shutdown => exact ⟨_, yields_writeOrder read style path (directionOf shutdown)⟩
  | graph path => exact ⟨_, yields_writeGraph read path⟩
  | version => exact ⟨_, yields_line _⟩

/-! ## What they agree on -/

/-- A manifest is planned iff it is loaded and has a plan. -/
theorem loadPlan_eq_ok_iff {p : Plan} : loadPlan read path = .ok p ↔
    ∃ m, Manifest.load read path = .ok m ∧ m.plan = .ok p := by
  unfold loadPlan Plan.load
  cases Manifest.load read path with
  | error e => simp [Plan.ofResult, Except.mapError]
  | ok m => cases hp : m.plan <;> simp [Plan.ofResult, Except.mapError, hp]

/-- `check` comes to what planning comes to. -/
theorem fst_on_check (read : FileReader) (style : OutputStyle) (path out : String) :
    (((check path).run read style).on out).1 = (loadPlan read path).map fun _ => () :=
  (yields_writeCheck read style path).fst_on_map out

/-- So does `order`. -/
theorem fst_on_order (read : FileReader) (style : OutputStyle) (path : String) (shutdown : Bool)
    (out : String) :
    (((order path shutdown).run read style).on out).1 = (loadPlan read path).map fun _ => () :=
  (yields_writeOrder read style path (directionOf shutdown)).fst_on_map out

/-- `check` succeeds iff the manifest can be loaded and planned. -/
theorem fst_on_check_eq_ok_iff (read : FileReader) (style : OutputStyle) (path out : String) :
    (((check path).run read style).on out).1 = .ok () ↔
      ∃ m p, Manifest.load read path = .ok m ∧ m.plan = .ok p := by
  rw [fst_on_check]
  constructor
  · intro hok
    cases hloaded : loadPlan read path with
    | error e =>
      rw [hloaded] at hok
      cases hok
    | ok p =>
      obtain ⟨m, hload, hplan⟩ := loadPlan_eq_ok_iff.mp hloaded
      exact ⟨m, p, hload, hplan⟩
  · rintro ⟨m, p, hload, hplan⟩
    rw [loadPlan_eq_ok_iff.mpr ⟨m, hload, hplan⟩, Except.map]

/-- `graph` succeeds iff the manifest can be loaded. -/
theorem fst_on_graph_eq_ok_iff (read : FileReader) (style : OutputStyle) (path out : String) :
    (((graph path).run read style).on out).1 = .ok () ↔ ∃ m, Manifest.load read path = .ok m := by
  have hgraph : (((graph path).run read style).on out).1 = _ :=
    (yields_writeGraph read path).fst_on_map out
  rw [hgraph]
  cases Manifest.load read path with
  | error e => simp [Except.map, Except.mapError]
  | ok m => simp [Except.map, Except.mapError]

/-- A text in a style of the terminal, or as it stands. -/
def inStyle (color : Bool) (code text : String) : String :=
  if color then "\x1b[" ++ code ++ "m" ++ text ++ "\x1b[0m" else text

/-- The line of a listing about an entry at a position: its order, its name, and what it requires if that
is anything. -/
def entryLine (position : Nat) (c : PlannedComponent) : String :=
  "  " ++ (c.headline position ++
    if c.requires = [] then "" else PlannedComponent.bracketed c.requires)

/-- What the commands write about a manifest: `count` components, of which the `external` ones are not
declared, and `entries` in the order in which they start. -/
structure Reports (read : FileReader) (path : String) (m : Manifest) (count : Nat)
    (external : List String) (entries : List PlannedComponent) : Prop where
  /-- In text `check` tells the count, and how many names are not declared if there are any. -/
  check_text : ∀ color, ((Command.check path).run read ⟨.text, color⟩).Yields (.ok (textOfLines
    ((inStyle color "32" "✓" ++ s!" {count} components, no cycles") ::
      if external = [] then []
      else ["  " ++ inStyle color "33" (toString external.length) ++ " required but not declared"])))
  /-- In JSON it tells the count and the names that are not declared. -/
  check_json : ∀ color, ∃ text, ((Command.check path).run read ⟨.json, color⟩).Yields (.ok text) ∧
    Json.parse? text = some (.obj [("acyclic", .bool true), ("components", .int count),
      ("external", .arr (external.map .str)), ("manifest", .str path)])
  /-- In text `order` has a heading and a line for each entry. -/
  startup_text : ∀ color, ((order path false).run read ⟨.text, color⟩).Yields (.ok (textOfLines
    (inStyle color "1" "Component initialization order:" ::
      entries.mapIdx fun k c => entryLine (k + 1) c)))
  /-- With `--shutdown` it lists them backwards. -/
  shutdown_text : ∀ color, ((order path true).run read ⟨.text, color⟩).Yields (.ok (textOfLines
    (inStyle color "1" "Component shutdown order:" ::
      entries.reverse.mapIdx fun k c => entryLine (k + 1) c)))
  /-- In JSON `order` has an item for each entry, from which the entry can be read. With `--shutdown` the
  items stand in reverse. -/
  order_json : ∃ items : List Json, items.map PlannedComponent.ofJson? = entries.map some ∧
    ∀ color,
      (∃ text, ((order path false).run read ⟨.json, color⟩).Yields (.ok text) ∧
        Json.parse? text = some (.arr items)) ∧
      ∃ text, ((order path true).run read ⟨.json, color⟩).Yields (.ok text) ∧
        Json.parse? text = some (.arr items.reverse)
  /-- The nodes that `graph` declares are the names, numbered from 0. -/
  graph : ∀ style, ∃ text, ((Command.graph path).run read style).Yields (.ok text) ∧
    Graph.dotNodes text = m.names.zipIdx
  /-- All of them tell of as many components as the manifest has different names. -/
  entries_length : entries.length = count
  names_length : m.names.length = count
  card_mentions : (m.components.flatMap Component.mentions).toFinset.card = count
  /-- The names that are not declared are those of the entries that are flagged so. -/
  external_eq : external = (entries.filter (·.external)).map (·.name)
  /-- The entries are the plan of the manifest. -/
  plan : m.plan = .ok ⟨entries⟩

theorem checkLines_text (color : Bool) (path : String) (count : Nat) (external : List String) :
    checkLines ⟨.text, color⟩ path count external =
      (inStyle color "32" "✓" ++ s!" {count} components, no cycles") ::
        if external = [] then []
        else ["  " ++ inStyle color "33" (toString external.length) ++ " required but not declared"] := by
  cases color <;> cases external <;> rfl

/-- If order 0 means that nothing is required, the lines about entries are those of a listing. -/
theorem map_describeFrom {cs : List PlannedComponent} (h : ∀ c ∈ cs, c.order = 0 ↔ c.requires = [])
    (position : Nat) : (PlannedComponent.describeFrom position cs).map ("  " ++ ·)
      = cs.mapIdx fun k c => entryLine (k + position) c := by
  induction cs generalizing position with
  | nil => rfl
  | cons c cs ih =>
    obtain ⟨hc, hcs⟩ := List.forall_mem_cons.mp h
    have hnext (k : Nat) : k + 1 + position = k + (position + 1) := by omega
    rw [PlannedComponent.describeFrom, List.map_cons, PlannedComponent.describe_eq hc, ih hcs,
      List.mapIdx_cons, Nat.zero_add]
    simp only [entryLine, hnext]

/-- The listing in text of entries whose order is 0 iff they require nothing. -/
theorem orderLines_text {cs : List PlannedComponent} (h : ∀ c ∈ cs, c.order = 0 ↔ c.requires = [])
    (color : Bool) (d : Direction) : orderLines ⟨.text, color⟩ d cs
      = inStyle color "1" d.heading :: cs.mapIdx fun k c => entryLine (k + 1) c := by
  have hheading : styled color "1" d.heading = inStyle color "1" d.heading := by cases color <;> rfl
  rw [orderLines, map_describeFrom h, hheading]

/-- The line of a document is read as that document. -/
theorem parse?_textOfLines (v : Json) : Json.parse? (textOfLines [v.pretty]) = some v := by
  have hline : textOfLines [v.pretty] = v.pretty ++ "\n" := by simp [textOfLines]
  rw [hline]
  exact Json.parse?_pretty_append v (List.forall_mem_singleton.mpr (Or.inr (Or.inr (Or.inl rfl))))

theorem length_planBy (m : Manifest) (f : String → Nat) :
    (m.planBy f).startup.length = m.names.length := by
  unfold Manifest.planBy
  rw [List.length_map, (stableSort_perm f m.names).length_eq]

/-- **The commands tell of the same components.** -/
theorem reports_of_plan {m : Manifest} {p : Plan} (hload : Manifest.load read path = .ok m)
    (hplan : m.plan = .ok p) :
    Reports read path m p.size (p.external.map (·.name)) p.startup := by
  have hloaded : loadPlan read path = .ok p := loadPlan_eq_ok_iff.mpr ⟨m, hload, hplan⟩
  have horder : ∀ style shutdown, ((order path shutdown).run read style).Yields
      (.ok (textOfLines
        (orderLines style (directionOf shutdown) (p.sequence (directionOf shutdown))))) := by
    intro style shutdown
    have hyields := yields_writeOrder read style path (directionOf shutdown)
    rw [hloaded] at hyields
    exact hyields
  -- a plan has the names of its manifest, sorted
  have hlength : m.names.length = p.size := by
    rcases m.plan_cases with ⟨c, -, hcycle⟩ | ⟨f, -, hsorted⟩
    · rw [hplan] at hcycle
      cases hcycle
    · obtain rfl : p = m.planBy f := Except.ok.inj (hplan.symm.trans hsorted)
      exact (length_planBy m f).symm
  have hcheck : ∀ style, ((check path).run read style).Yields
      (.ok (textOfLines (checkLines style path p.size (p.external.map (·.name))))) := by
    intro style
    have hyields := yields_writeCheck read style path
    rw [hloaded] at hyields
    exact hyields
  have hzero : ∀ c ∈ p.startup, c.order = 0 ↔ c.requires = [] := fun c hc =>
    Manifest.order_eq_zero_iff hplan hc
  have hread : (p.startup.map PlannedComponent.toJson).map PlannedComponent.ofJson?
      = p.startup.map some := by
    rw [List.map_map]
    exact List.map_congr_left fun c _ => c.ofJson?_toJson
  exact {
    check_text := fun color => checkLines_text color path _ _ ▸ hcheck ⟨.text, color⟩
    check_json := fun color => ⟨_, hcheck ⟨.json, color⟩, parse?_textOfLines _⟩
    startup_text := fun color => orderLines_text hzero color .startup ▸ horder ⟨.text, color⟩ false
    shutdown_text := fun color => by
      have hback : ∀ c ∈ p.startup.reverse, c.order = 0 ↔ c.requires = [] := fun c hc =>
        hzero c (List.mem_reverse.mp hc)
      exact orderLines_text hback color .shutdown ▸ horder ⟨.text, color⟩ true
    order_json := by
      refine ⟨p.startup.map PlannedComponent.toJson, hread, fun color =>
        ⟨⟨_, horder ⟨.json, color⟩ false, parse?_textOfLines _⟩,
          ⟨_, horder ⟨.json, color⟩ true, ?_⟩⟩⟩
      rw [← List.map_reverse]
      exact parse?_textOfLines _
    graph := fun style => by
      have hyields := yields_writeGraph read path
      rw [hload] at hyields
      refine ⟨_, hyields, ?_⟩
      rw [Graph.dotNodes_toDot, m.describes_graph.map_label_ids]
    entries_length := rfl
    names_length := hlength
    card_mentions := by
      have hnames : m.names.toFinset = (m.components.flatMap Component.mentions).toFinset := by
        ext name
        rw [List.mem_toFinset, List.mem_toFinset, Manifest.names, List.mem_eraseDups]
      rw [← hnames, List.toFinset_card_of_nodup m.nodup_names, hlength]
    external_eq := rfl
    plan := hplan }

/-- **The commands agree on a manifest file**, whatever it holds and whatever the style of the output.
`check`, `order` and `order --shutdown` succeed together, namely if the manifest can be loaded and
planned, and fail with the same error. `graph` succeeds iff the manifest can be loaded, free of cycles or
not. A command that fails leaves the output as it was. If `check` succeeds, all of them tell of the same
components. -/
theorem commands_agree (read : FileReader) (path : String) :
    (∀ style style' shutdown out out',
      (((check path).run read style).on out).1
        = (((order path shutdown).run read style').on out').1) ∧
    (∀ style out, (((check path).run read style).on out).1 = .ok () ↔
      ∃ m p, Manifest.load read path = .ok m ∧ m.plan = .ok p) ∧
    (∀ style out, (((graph path).run read style).on out).1 = .ok () ↔
      ∃ text entries m, read.readText path = .ok text ∧ Toml.parse? text = some entries ∧
        Manifest.ofToml entries = .ok m ∧ m.validate path = .ok ()) ∧
    (∀ (c : Command) style out e,
      ((c.run read style).on out).1 = .error e → ((c.run read style).on out).2 = out) ∧
    (∀ style out, (((check path).run read style).on out).1 = .ok () →
      ∃ m count external entries, Manifest.load read path = .ok m ∧
        Reports read path m count external entries) := by
  refine ⟨fun style style' shutdown out out' => ?_, fun style out => ?_, fun style out => ?_,
    fun c style out e he => ?_, fun style out hok => ?_⟩
  · rw [fst_on_check, fst_on_order]
  · exact fst_on_check_eq_ok_iff read style path out
  · exact (fst_on_graph_eq_ok_iff read style path out).trans Manifest.exists_load_eq_ok_iff
  · obtain ⟨r, hr⟩ := exists_yields read style c
    exact hr.snd_on_of_error he
  · obtain ⟨m, p, hload, hplan⟩ := (fst_on_check_eq_ok_iff read style path out).mp hok
    exact ⟨m, _, _, _, hload, reports_of_plan hload hplan⟩

/-- Two files: in one of them `a` requires `b`, which is not declared, and in the other itself. -/
def twoFiles : FileReader := fun path =>
  if path = "chain.toml" then .ok "component = [['a', 'r', ['b']]]".toUTF8
  else if path = "loop.toml" then .ok "component = [['a', 'r', ['a']]]".toUTF8
  else .error .notFound

/-- The commands report the chain. Of the loop there is a graph, and nothing else is written. -/
theorem chain_reports_and_loop_fails :
    Reports twoFiles "chain.toml" ⟨[⟨"a", some "r", ["b"]⟩]⟩ 2 ["b"]
      [⟨"b", 0, none, [], true⟩, ⟨"a", 1, some "r", ["b"], false⟩] ∧
    (∀ style out, (((graph "loop.toml").run twoFiles style).on out).1 = .ok ()) ∧
    ∀ style shutdown out, ∃ e,
      (((order "loop.toml" shutdown).run twoFiles style).on out).1 = .error e ∧
      (((order "loop.toml" shutdown).run twoFiles style).on out).2 = out := by
  have hchain : Manifest.load twoFiles "chain.toml" = .ok ⟨[⟨"a", some "r", ["b"]⟩]⟩ :=
    Manifest.load_eq_ok_iff.mpr ⟨_, FileReader.readText_of_toUTF8 (if_pos rfl), by cbv⟩
  have hloop : Manifest.load twoFiles "loop.toml" = .ok ⟨[⟨"a", some "r", ["a"]⟩]⟩ :=
    Manifest.load_eq_ok_iff.mpr
      ⟨_, FileReader.readText_of_toUTF8 ((if_neg (by decide)).trans (if_pos rfl)), by cbv⟩
  have hplan : Manifest.plan ⟨[⟨"a", some "r", ["b"]⟩]⟩ = .ok
      ⟨[⟨"b", 0, none, [], true⟩, ⟨"a", 1, some "r", ["b"], false⟩]⟩ := by cbv
  have hcycle : Manifest.plan ⟨[⟨"a", some "r", ["a"]⟩]⟩ = .error (.cycle ⟨["a", "a"], [0, 0]⟩) := by
    cbv
  obtain ⟨-, hcheck, -, -, hreports⟩ := commands_agree twoFiles "chain.toml"
  obtain ⟨hsame, -, hgraph, hunchanged, -⟩ := commands_agree twoFiles "loop.toml"
  refine ⟨?_, fun style out => ?_, fun style shutdown out => ?_⟩
  · obtain ⟨m, count, external, entries, hload, hreport⟩ :=
      hreports {} "" ((hcheck {} "").mpr ⟨_, _, hchain, hplan⟩)
    obtain rfl := Except.ok.inj (hchain.symm.trans hload)
    obtain rfl : entries = _ := congrArg Plan.startup (Except.ok.inj (hreport.plan.symm.trans hplan))
    obtain rfl := hreport.entries_length
    obtain rfl := hreport.external_eq
    exact hreport
  · exact (hgraph style out).mpr (Manifest.exists_load_eq_ok_iff.mp ⟨_, hloop⟩)
  · cases hloaded : loadPlan twoFiles "loop.toml" with
    | ok p =>
      obtain ⟨m, hload, hp⟩ := loadPlan_eq_ok_iff.mp hloaded
      obtain rfl := Except.ok.inj (hloop.symm.trans hload)
      rw [hcycle] at hp
      cases hp
    | error e =>
      have hfails := hsame style style shutdown out out
      rw [fst_on_check, hloaded, Except.map] at hfails
      exact ⟨e, hfails.symm, hunchanged (order "loop.toml" shutdown) style out e hfails.symm⟩

end Command

end Lifecycle
