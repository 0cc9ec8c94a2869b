import Lifecycle.Proofs.Program.Commands
import Mathlib

/-!
# What is logged is what is printed

A plan is listed twice, each time by code of its own: as the events of a log and as the lines that
`order` writes.

* `Plan.Lists`: events that list a plan in a direction, one for the heading and one for each component,
  with the position and the total. **`lists_sequenceEvents`**: a plan reports such events.
* **`lines_eq_messages`**: without colours, the lines of `order` are the messages of the events.
* `Event.IsListing`: an event that lists some plan. `not_isListing_before`: what happens before a plan is
  there gives no such event.
* **`listing_is_logged`** puts it together.
-/

namespace Lifecycle

/-! ## The events of a sequence -/

namespace PlannedComponent

theorem length_eventsFrom (progress : Progress) :
    ∀ (position : Nat) (cs : List PlannedComponent), (eventsFrom progress position cs).length = cs.length
  | _, [] => rfl
  | position, _ :: cs => congrArg (· + 1) (length_eventsFrom progress (position + 1) cs)

/-- The event of a component tells the position of the component. -/
theorem getElem?_eventsFrom (progress : Progress) :
    ∀ (position : Nat) (cs : List PlannedComponent) (k : Nat),
      (eventsFrom progress position cs)[k]? = cs[k]?.map fun c =>
        ⟨.debug, .plan, "  " ++ c.describe (position + k), (progress.reach (position + k)).fields⟩
  | _, [], _ => rfl
  | _, _ :: _, 0 => rfl
  | position, c :: cs, k + 1 => by
    have hnext : position + (k + 1) = position + 1 + k := by omega
    rw [eventsFrom, List.getElem?_cons_succ, List.getElem?_cons_succ, hnext]
    exact getElem?_eventsFrom progress (position + 1) cs k

/-- The messages are the lines about the components. -/
theorem map_message_eventsFrom (progress : Progress) :
    ∀ (position : Nat) (cs : List PlannedComponent),
      (eventsFrom progress position cs).map (·.message) = (describeFrom position cs).map ("  " ++ ·)
  | _, [] => rfl
  | position, _ :: cs => congrArg _ (map_message_eventsFrom progress (position + 1) cs)

end PlannedComponent

namespace Plan

/-- Events that list a plan in a direction. -/
structure Lists (p : Plan) (d : Direction) (events : List Event) : Prop where
  /-- There is one for the heading and one for each component. -/
  length : events.length = 1 + p.size
  level : ∀ e ∈ events, e.level = .debug
  heading : events[0]? = some ⟨.debug, .plan, d.heading, [("operation", .shown d.operation)]⟩
  /-- The event of a component has the line about it, where it stands, and how many there are. -/
  component : ∀ (k : Nat) (c : PlannedComponent), (p.sequence d)[k]? = some c →
    events[k + 1]? = some ⟨.debug, .plan, "  " ++ c.describe (k + 1),
      [("operation", .shown d.operation), ("current", .nat (k + 1)), ("total", .nat p.size)]⟩

theorem length_sequence (p : Plan) (d : Direction) : (p.sequence d).length = p.size := by
  cases d with
  | startup => rfl
  | shutdown => exact List.length_reverse

theorem getElem?_sequenceEvents (p : Plan) (d : Direction) (k : Nat) :
    (p.sequenceEvents d)[k + 1]? = (p.sequence d)[k]?.map fun c =>
      ⟨.debug, .plan, "  " ++ c.describe (k + 1),
        [("operation", .shown d.operation), ("current", .nat (k + 1)), ("total", .nat p.size)]⟩ := by
  rw [sequenceEvents, List.getElem?_cons_succ, PlannedComponent.getElem?_eventsFrom,
    Nat.add_comm 1 k, length_sequence]
  rfl

/-- **A plan reports events that list it.** -/
theorem lists_sequenceEvents (p : Plan) (d : Direction) : p.Lists d (p.sequenceEvents d) where
  length := by
    rw [sequenceEvents, List.length_cons, PlannedComponent.length_eventsFrom, length_sequence,
      Nat.add_comm]
  level := fun e he => by
    obtain ⟨k, hk⟩ := List.mem_iff_getElem?.mp he
    cases k with
    | zero =>
      obtain rfl := Option.some.inj hk
      rfl
    | succ k =>
      rw [getElem?_sequenceEvents] at hk
      obtain ⟨c, -, rfl⟩ := Option.map_eq_some_iff.mp hk
      rfl
  heading := rfl
  component := fun k c hc => by rw [getElem?_sequenceEvents, hc, Option.map_some]

/-- **The lines of a listing are the messages of the events**, if nothing is coloured. -/
theorem lines_eq_messages (p : Plan) (d : Direction) :
    Command.orderLines ⟨.text, false⟩ d (p.sequence d)
      = (p.sequenceEvents d).map (·.message) := by
  rw [sequenceEvents, List.map_cons, PlannedComponent.map_message_eventsFrom]
  rfl

end Plan

/-! ## Events that list no plan -/

namespace Event

/-- An event of some listing of a plan. -/
def IsListing (e : Event) : Prop := ∃ (p : Plan) (d : Direction), e ∈ p.sequenceEvents d

/-- The events of a listing tell its operation, which no other event of planning does. -/
theorem IsListing.operation {e : Event} (h : e.IsListing) : "operation" ∈ e.fields.map Prod.fst := by
  obtain ⟨p, d, he⟩ := h
  obtain ⟨k, hk⟩ := List.mem_iff_getElem?.mp he
  cases k with
  | zero =>
    obtain rfl := Option.some.inj hk
    exact List.mem_cons_self
  | succ k =>
    rw [Plan.getElem?_sequenceEvents] at hk
    obtain ⟨c, -, rfl⟩ := Option.map_eq_some_iff.mp hk
    exact List.mem_cons_self

/-- Events none of which tells an operation. -/
def NoOperation (events : List Event) : Prop := ∀ e ∈ events, "operation" ∉ e.fields.map Prod.fst

theorem NoOperation.append {es es' : List Event} (h : NoOperation es) (h' : NoOperation es') :
    NoOperation (es ++ es') := List.forall_mem_append.mpr ⟨h, h'⟩

theorem noOperation_nil : NoOperation [] := List.forall_mem_nil _

theorem noOperation_singleton {e : Event} (h : "operation" ∉ e.fields.map Prod.fst) :
    NoOperation [e] := List.forall_mem_singleton.mpr h

end Event

open Event (NoOperation noOperation_nil noOperation_singleton)

namespace ComponentGraph

theorem noOperation_internEvents (g : ComponentGraph) (name : String) :
    NoOperation (internEvents g name) := by
  unfold internEvents
  cases g.find? name with
  | some v => exact noOperation_nil
  | none => exact noOperation_singleton (by simp [Graph.vertexEvent])

theorem noOperation_requireEvents (component : String) (v : Nat) (g : ComponentGraph) (name : String) :
    NoOperation (requireEvents component v g name) := by
  have hdependency : ∀ (g : ComponentGraph) (d : Nat), NoOperation (g.dependencyEvents v d) := by
    intro g d
    unfold Graph.dependencyEvents
    split
    · exact noOperation_singleton (by simp)
    · exact noOperation_nil
  unfold requireEvents
  refine NoOperation.append (NoOperation.append ?_ (noOperation_internEvents g name)) (hdependency _ _)
  cases g.find? name with
  | some d => exact noOperation_nil
  | none => exact noOperation_singleton (by simp)

theorem noOperation_requireEachEvents (component : String) (v : Nat) :
    ∀ (g : ComponentGraph) (names : List String), NoOperation (requireEachEvents component v g names)
  | _, [] => noOperation_nil
  | g, name :: names =>
    (noOperation_requireEvents component v g name).append
      (noOperation_requireEachEvents component v (require v g name) names)

theorem noOperation_addEachEvents :
    ∀ (g : ComponentGraph) (cs : List Component), NoOperation (addEachEvents g cs)
  | _, [] => noOperation_nil
  | g, c :: cs =>
    ((noOperation_internEvents g c.name).append (noOperation_requireEachEvents _ _ _ _)).append
      (noOperation_addEachEvents (add g c) cs)

end ComponentGraph

theorem Graph.noOperation_verifyEvents {α : Type} (g : Graph α) (vs : List Nat) :
    NoOperation (g.verifyEvents vs) := by
  have hpass : ∀ p, NoOperation (g.passEvents p) := by
    intro p
    refine NoOperation.append (fun e he => ?_) (fun e he => ?_)
    · obtain ⟨⟨v, order⟩, -, rfl⟩ := List.mem_map.mp he
      simp [resolvedEvent]
    · obtain ⟨vertices, -, rfl⟩ := Option.map_eq_some_iff.mp (Option.mem_toList.mp he)
      simp [cycleEvent]
  unfold verifyEvents
  cases g.checkListed vs with
  | error e => exact noOperation_nil
  | ok u =>
    refine NoOperation.append (hpass _) ?_
    cases (g.verify vs).2 with
    | error e => exact noOperation_nil
    | ok o => exact noOperation_singleton (by simp [verifiedEvent])

namespace Manifest

variable {m : Manifest}

/-- **Before there is a plan, no event lists one.** -/
theorem not_isListing_before (m : Manifest) :
    ∀ e ∈ m.graphEvents ++ m.graph.verifyEvents m.graph.ids, ¬ e.IsListing := by
  have hgraph : NoOperation m.graphEvents :=
    (ComponentGraph.noOperation_addEachEvents _ _).append
      (noOperation_singleton (by simp [builtEvent]))
  exact fun e he hlisting =>
    hgraph.append (Graph.noOperation_verifyEvents _ _) e he hlisting.operation

theorem planEvents_of_plan {p : Plan} (hplan : m.plan = .ok p) :
    m.planEvents
      = (m.graphEvents ++ m.graph.verifyEvents m.graph.ids) ++ p.sequenceEvents .startup := by
  simp only [planEvents, hplan]

theorem planEvents_of_error {e : GraphError} (hplan : m.plan = .error e) :
    m.planEvents = m.graphEvents ++ m.graph.verifyEvents m.graph.ids := by
  simp only [planEvents, hplan, List.append_nil]

end Manifest

/-! ## The listing of a manifest -/

namespace Command

variable {read : FileReader} {path : String} {m : Manifest} {p : Plan}

/-- The events of `order`, once it has a plan. -/
theorem events_order (hload : Manifest.load read path = .ok m) (hplan : m.plan = .ok p)
    (shutdown : Bool) :
    ∃ before, (order path shutdown).events read
      = before ++ m.planEvents ++ if shutdown then p.sequenceEvents .shutdown else [] := by
  have hloaded : Plan.load read path = .ok p := by
    rw [Plan.load, hload, Plan.ofResult, hplan]
    rfl
  refine ⟨⟨.debug, .commands, "Executing command", [("command", .shown (order path shutdown).text)]⟩ ::
    Manifest.loadEvents path (.ok m), ?_⟩
  simp only [events, planEvents, Plan.loadEvents, hloaded, hload, List.cons_append]

/-- **`order` ends with the events of what it lists.** -/
theorem sequenceEvents_suffix (hload : Manifest.load read path = .ok m) (hplan : m.plan = .ok p)
    (shutdown : Bool) :
    p.sequenceEvents (directionOf shutdown) <:+ (order path shutdown).events read := by
  obtain ⟨before, hevents⟩ := events_order hload hplan shutdown
  rw [hevents]
  cases shutdown with
  | false =>
    rw [Manifest.planEvents_of_plan hplan, ← List.append_assoc, if_neg Bool.false_ne_true,
      List.append_nil]
    exact List.suffix_append _ _
  | true => exact List.suffix_append _ _

/-- **`order` writes the messages of the events that list the plan**, if nothing is coloured. -/
theorem yields_messages (hload : Manifest.load read path = .ok m) (hplan : m.plan = .ok p)
    (shutdown : Bool) :
    ((order path shutdown).run read ⟨.text, false⟩).Yields
      (.ok (textOfLines ((p.sequenceEvents (directionOf shutdown)).map (·.message)))) := by
  have hyields := yields_writeOrder read ⟨.text, false⟩ path (directionOf shutdown)
  rw [loadPlan_eq_ok_iff.mpr ⟨m, hload, hplan⟩] at hyields
  rw [← p.lines_eq_messages]
  exact hyields

end Command

namespace Manifest

/-- **A plan is printed as it is logged.** Planning a manifest reports the events that list the plan in
the order of startup, after all others, and no such event if there is no plan. In either direction the
events are a heading and one event for each component of the sequence. What `order` writes about the
manifest, in plain text, are the messages of the events of its direction, one on each line; and these are
the events with which it ends. -/
theorem listing_is_logged (m : Manifest) :
    (∀ p, m.plan = .ok p →
      (∀ d, p.Lists d (p.sequenceEvents d)) ∧
      (p.sequence .startup = p.startup ∧ p.sequence .shutdown = p.startup.reverse) ∧
      (∃ before, m.planEvents = before ++ p.sequenceEvents .startup ∧ ∀ e ∈ before, ¬ e.IsListing) ∧
      ∀ read path shutdown, Manifest.load read path = .ok m →
        ((Command.order path shutdown).run read ⟨.text, false⟩).Yields (.ok (textOfLines
          ((p.sequenceEvents (Command.directionOf shutdown)).map (·.message)))) ∧
        p.sequenceEvents (Command.directionOf shutdown)
          <:+ (Command.order path shutdown).events read) ∧
    (∀ error, m.plan = .error error → ∀ e ∈ m.planEvents, ¬ e.IsListing) := by
  refine ⟨fun p hplan => ⟨p.lists_sequenceEvents, ⟨rfl, rfl⟩, ?_, ?_⟩, fun error hplan => ?_⟩
  · exact ⟨_, planEvents_of_plan hplan, m.not_isListing_before⟩
  · intro read path shutdown hload
    exact ⟨Command.yields_messages hload hplan shutdown,
      Command.sequenceEvents_suffix hload hplan shutdown⟩
  · rw [planEvents_of_error hplan]
    exact m.not_isListing_before

/-- The chain is listed backwards: three events, whose messages `order --shutdown` writes. Of the loop
nothing is listed. -/
theorem chain_is_listed : ∃ p : Plan,
    (p.sequenceEvents .shutdown).map (fun e => (e.level, e.fields.map Prod.snd))
      = [(.debug, [.shown "shutdown"]), (.debug, [.shown "shutdown", .nat 1, .nat 2]),
        (.debug, [.shown "shutdown", .nat 2, .nat 2])] ∧
    ((Command.order "chain.toml" true).run Command.twoFiles ⟨.text, false⟩).Yields
      (.ok "Component shutdown order:\n  #1 (1) : a [ b ]\n  #2 (0) : b\n") ∧
    p.sequenceEvents .shutdown <:+ (Command.order "chain.toml" true).events Command.twoFiles ∧
    ∀ e ∈ Manifest.planEvents ⟨[⟨"a", some "r", ["a"]⟩]⟩, ¬ e.IsListing := by
  have hload : Manifest.load Command.twoFiles "chain.toml" = .ok ⟨[⟨"a", some "r", ["b"]⟩]⟩ :=
    Manifest.load_eq_ok_iff.mpr ⟨_, FileReader.readText_of_toUTF8 (if_pos rfl), by cbv⟩
  have hplan : Manifest.plan ⟨[⟨"a", some "r", ["b"]⟩]⟩ = .ok
      ⟨[⟨"b", 0, none, [], true⟩, ⟨"a", 1, some "r", ["b"], false⟩]⟩ := by cbv
  have hcycle : Manifest.plan ⟨[⟨"a", some "r", ["a"]⟩]⟩ = .error (.cycle ⟨["a", "a"], [0, 0]⟩) := by
    cbv
  obtain ⟨hlisted, -⟩ := listing_is_logged ⟨[⟨"a", some "r", ["b"]⟩]⟩
  obtain ⟨-, hsilent⟩ := listing_is_logged ⟨[⟨"a", some "r", ["a"]⟩]⟩
  obtain ⟨-, -, -, hwritten⟩ := hlisted _ hplan
  obtain ⟨hyields, hsuffix⟩ := hwritten Command.twoFiles "chain.toml" true hload
  exact ⟨_, by decide, hyields, hsuffix, hsilent _ hcycle⟩

end Manifest

end Lifecycle
