import Netlister.Proofs.Netlist.Matching
import Netlister.Proofs.Netlist.Representation

/-! # Building a netlist step by step

  A netlist can also be built without relying on anything that was found out before: names
  that are registered are looked up once more, and the nets are grown with a table of the
  ports. Every such step can fail where it should not, and then the failure is an internal
  one.

  - `stepwise_eq`: none of these steps fails, so that the netlist, or the error, is the same.
  - `faulty_of_build`: what stands behind each error.
-/

namespace Netlister.Netlist

open Schematic (Scope)

/-- Why building step by step fails. -/
inductive Failure where
  /-- The schematic has no netlist. -/
  | error (cause : Error)
  /-- A step fails that should not. -/
  | internal

/-- Fails for names that are not known, and lists them. -/
def requireNames (scope : Scope) (known : String → Bool) (names : List String) :
    Except Failure Unit :=
  match names.filter fun name => !known name with
  | [] => .ok ()
  | missing => .error (.error (.missingTypes scope missing))

/-- What has to be there by now. -/
def expect {α : Type} : Option α → Except Failure α
  | some a => .ok a
  | none => .error .internal

/-- The digital vocabulary: all names are checked, and then looked up. -/
def vocabularyStepwise (s : Schematic) : Except Failure Vocabulary := do
  requireNames .portTypes s.portTypes.contains [Digital.inPort, Digital.outPort]
  requireNames .nodeTypes s.nodeTypes.contains [Digital.inputPin, Digital.outputPin]
  requireNames .connectionTypes s.connectionTypes.contains [Digital.wire]
  return {
    inPort := ← expect (s.portTypes.find? Digital.inPort)
    outPort := ← expect (s.portTypes.find? Digital.outPort)
    wire := ← expect (s.connectionTypes.find? Digital.wire) }

/-- Takes a connection into account, which must be a wire, with a table of the ports. -/
def addStepwise (s : Schematic) (v : Vocabulary) (t : Tabled) (c : Connection) :
    Except Failure Tabled := do
  (checkConnection s v c).mapError .error
  expect (t.connect c)

/-- The netlist of a schematic, built step by step. -/
def stepwise (s : Schematic) : Except Failure Netlist := do
  let v ← vocabularyStepwise s
  (checkNodes s).mapError .error
  let t ← s.connections.foldlM (addStepwise s v) ⟨⟨v.inPort, v.outPort, [], []⟩, []⟩
  return t.netlist

/-! ### No step fails that should not -/

/-- Checking two names fails as looking both of them up does. -/
theorem requireNames_pair {α : Type} (scope : Scope) (m : NameMap α) (a b : String) :
    requireNames scope m.contains [a, b] =
      ((requireBoth scope m a b).map fun _ => ()).mapError .error := by
  unfold requireNames requireBoth
  cases ha : m.find? a <;> cases hb : m.find? b <;>
    simp [NameMap.contains, ha, hb, Except.map, Except.mapError]

theorem requireNames_single {α : Type} (scope : Scope) (m : NameMap α) (a : String) :
    requireNames scope m.contains [a] =
      match m.find? a with
      | some _ => .ok ()
      | none => .error (.error (.missingTypes scope [a])) := by
  unfold requireNames
  cases ha : m.find? a <;> simp [NameMap.contains, ha]

theorem vocabularyStepwise_eq (s : Schematic) :
    vocabularyStepwise s = (vocabulary s).mapError .error := by
  unfold vocabularyStepwise vocabulary
  rw [requireNames_pair, requireNames_pair, requireNames_single]
  cases hports : requireBoth .portTypes s.portTypes Digital.inPort Digital.outPort with
  | error e => rfl
  | ok ports =>
    obtain ⟨hin, hout⟩ := requireBoth_eq_ok.1 hports
    cases requireBoth .nodeTypes s.nodeTypes Digital.inputPin Digital.outputPin with
    | error e => rfl
    | ok pins =>
      rw [hin, hout]
      cases s.connectionTypes.find? Digital.wire <;> rfl

/-- With the wires before in the table, further wires are taken into account as without it. -/
theorem foldlM_addStepwise (s : Schematic) (v : Vocabulary) (before : List Connection)
    {cs : List Connection}
    (h : ((before ++ cs).map (·.name)).Nodup) {t : Tabled}
    (ht : tabulate v.inPort v.outPort before = some t) :
    (cs.foldlM (addStepwise s v) t).map (·.netlist) =
      ((cs.mapM fun c => (checkConnection s v c).map fun _ => c).mapError .error).map
        fun cs => cs.foldl connect t.netlist := by
  induction cs generalizing before t with
  | nil => rfl
  | cons c cs ih =>
    have hconcat : before ++ c :: cs = before ++ [c] ++ cs := by simp
    rw [hconcat] at h
    have hnext : ((before ++ [c]).map (·.name)).Nodup := by
      rw [List.map_append] at h
      exact h.of_append_left
    have hbefore : (before.map (·.name)).Nodup := by
      rw [List.map_append] at hnext
      exact hnext.of_append_left
    -- The wire gets its place in the table, as the run up to it is a run of its own.
    obtain ⟨t', ht', -, hnetlist'⟩ := tabulate_eq v.inPort v.outPort hnext
    obtain ⟨t₀, ht₀, -, hnetlist⟩ := tabulate_eq v.inPort v.outPort hbefore
    have hsame : t₀ = t := Option.some.inj (ht₀.symm.trans ht)
    have hconnect : t.connect c = some t' := by
      have hlast : tabulate v.inPort v.outPort (before ++ [c]) =
          (tabulate v.inPort v.outPort before >>= fun t => t.connect c) := by
        simp [tabulate, List.foldlM_append]
      rw [hlast, ht] at ht'
      exact ht'
    have hgrown : t'.netlist = t.netlist.connect c := by
      rw [hnetlist', ← hsame, hnetlist, List.foldl_concat]
    rw [List.foldlM_cons, List.mapM_cons]
    unfold addStepwise
    rw [hconnect]
    cases checkConnection s v c with
    | error e => rfl
    | ok u =>
      show (cs.foldlM (addStepwise s v) t').map _ = _
      rw [ih (before ++ [c]) h ht', hgrown]
      cases cs.mapM fun c => (checkConnection s v c).map fun _ => c <;> rfl

/-- Building step by step never fails internally: it gives the same netlist or error. -/
theorem stepwise_eq {s : Schematic} (h : (s.connections.map (·.name)).Nodup) :
    stepwise s = (build s).result.mapError .error := by
  rw [result_build]
  unfold stepwise
  rw [vocabularyStepwise_eq]
  cases vocabulary s with
  | error e => rfl
  | ok v =>
    cases checkNodes s with
    | error e => rfl
    | ok u =>
      show (s.connections.foldlM (addStepwise s v) _).map (·.netlist) = _
      rw [foldlM_addStepwise s v [] h rfl, Outcome.ok_bind, Outcome.ok_bind]
      cases s.connections.mapM fun c => (checkConnection s v c).map fun _ => c <;> rfl

/-! ### What stands behind an error -/

/-- The port at an end of a connection. -/
def Side.port (c : Connection) : Side → PortRef
  | source => c.source
  | target => c.target

/-- How the type of a port is called in an error. -/
def shownType (s : Schematic) (p : PortRef) : String :=
  (((s.port? p).map (·.type)).bind s.portTypeName?).getD "<unregistered>"

/-- An error of building: names that are not registered, a node or a connection without
    registered type, or a connection that is of another type or ends elsewhere. -/
inductive Faulty (s : Schematic) : Error → Prop where
  | missing (scope : Scope) (names : List String) : Faulty s (.missingTypes scope names)
  | node {node : Node} : node ∈ s.nodes → s.nodeTypeName? node.type = none →
      Faulty s (.unknownNodeType node.name)
  | connection {c : Connection} : c ∈ s.connections → s.connectionTypeName? c.type = none →
      Faulty s (.unknownConnectionType c.name)
  | wire {c : Connection} {actual : String} : c ∈ s.connections →
      s.connectionTypeName? c.type = some actual → Faulty s (.connectionTypeMismatch c.name actual)
  | endpoint {c : Connection} (side : Side) : c ∈ s.connections →
      Faulty s (.endpointTypeMismatch c.name side (shownType s (side.port c)))

section Faulty

variable {s : Schematic} {e : Error}

theorem faulty_of_requireBoth {α : Type} {scope : Scope} {m : NameMap α} {a b : String}
    (h : requireBoth scope m a b = .error e) : Faulty s e := by
  unfold requireBoth at h
  split at h <;> cases h <;> exact .missing scope _

theorem faulty_of_vocabulary (h : vocabulary s = .error e) : Faulty s e := by
  unfold vocabulary at h
  rcases Outcome.bind_eq_error.1 h with h | ⟨ports, -, h⟩
  · exact faulty_of_requireBoth h
  · rcases Outcome.bind_eq_error.1 h with h | ⟨pins, -, h⟩
    · exact faulty_of_requireBoth h
    · cases hwire : s.connectionTypes.find? Digital.wire with
      | some wire =>
        rw [hwire] at h
        cases h
      | none =>
        rw [hwire] at h
        cases h
        exact .missing _ _

theorem faulty_of_checkNode {node : Node} (hnode : node ∈ s.nodes)
    (h : checkNode s node = .error e) : Faulty s e := by
  unfold checkNode at h
  cases hname : s.nodeTypeName? node.type with
  | some name =>
    rw [hname] at h
    cases h
  | none =>
    rw [hname] at h
    cases h
    exact .node hnode hname

theorem faulty_of_checkEnd {v : Vocabulary} {c : Connection} (hc : c ∈ s.connections)
    (side : Side) (h : checkEnd s v c side (side.port c) = .error e) : Faulty s e := by
  unfold checkEnd at h
  dsimp only at h
  split at h
  · cases h
  · cases h
    exact .endpoint side hc

theorem faulty_of_checkConnection {v : Vocabulary} {c : Connection} (hc : c ∈ s.connections)
    (h : checkConnection s v c = .error e) : Faulty s e := by
  unfold checkConnection at h
  cases hname : s.connectionTypeName? c.type with
  | none =>
    rw [hname] at h
    cases h
    exact .connection hc hname
  | some actual =>
    rw [hname] at h
    by_cases hwire : c.type = v.wire
    · simp only [hwire, ne_eq, not_true_eq_false, if_false] at h
      rcases Outcome.bind_eq_error.1 h with h | ⟨_, -, h⟩
      · exact faulty_of_checkEnd hc .source h
      · exact faulty_of_checkEnd hc .target h
    · simp only [ne_eq, hwire, not_false_eq_true, if_true] at h
      cases h
      exact .wire hc hname

/-- Every error of building has one of these reasons. -/
theorem faulty_of_build (h : (build s).result = .error e) : Faulty s e := by
  rw [result_build] at h
  rcases Outcome.bind_eq_error.1 h with h | ⟨v, -, h⟩
  · exact faulty_of_vocabulary h
  · rcases Outcome.bind_eq_error.1 h with h | ⟨_, -, h⟩
    · obtain ⟨node, hnode, h⟩ := Outcome.exists_of_forM_eq_error h
      exact faulty_of_checkNode hnode h
    · rcases Outcome.bind_eq_error.1 h with h | ⟨cs, -, h⟩
      · obtain ⟨c, hc, h⟩ := Outcome.exists_of_mapM_eq_error h
        exact faulty_of_checkConnection hc (Outcome.map_eq_error.1 h)
      · cases h

end Faulty

end Netlister.Netlist
