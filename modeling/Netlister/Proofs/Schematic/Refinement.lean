import Netlister.Proofs.Schematic.Arena
import Netlister.Proofs.Schematic.Conforming

/-! # Arenas do what schematics do

  `Linked` says that the references between arenas are in step: the indices know the places of
  all names, the ports noted at a node are those that refer back to it, and nothing refers to
  a place at which there is nothing.

  - `execute_follows`: where this holds, a step on arenas ends as the same step on the schematic
    that they stand for. It succeeds or fails alike, with the same error; after a failure the
    arenas are as before, and after a success they are linked again.
  - `Reachable.linked`, `Reachable.schematic`: so it is with whole runs.
  - `exists_arenas`: every schematic that can be built is that of some arenas.
-/

namespace Netlister

open Schematic (Error Operation TypeNames)
open Outcome

/-! ### Indices -/

/-- The index knows the place of every name among the members of a list, and no other. -/
def NameMap.Indexes {α : Type} (m : NameMap Nat) (name : α → String) (xs : List α) : Prop :=
  ∀ key i, m.find? key = some i ↔ ∃ x, xs[i]? = some x ∧ name x = key

section Indices

variable {α : Type} {m : NameMap Nat} {name : α → String} {xs : List α}

theorem NameMap.indexes_nil : (∅ : NameMap Nat).Indexes name [] := by
  intro key i
  simp

/-- A new member gets an entry, and keeps the index in step. -/
theorem NameMap.Indexes.insert (h : m.Indexes name xs) {x : α} (hnew : m.find? (name x) = none) :
    (m.insert (name x) xs.length).Indexes name (xs ++ [x]) := by
  intro key i
  rw [NameMap.find?_insert]
  rcases Nat.lt_trichotomy i xs.length with hlt | rfl | hgt
  · rw [List.getElem?_append_left hlt, ← h key i]
    by_cases hkey : key = name x
    · -- The place of the new name is another one, and it had none before.
      simp [hkey, hnew, Nat.ne_of_gt hlt]
    · rw [if_neg hkey]
  · rw [List.getElem?_concat_length]
    by_cases hkey : key = name x
    · simp [hkey]
    · have hold : m.find? key ≠ some xs.length := by
        intro hfind
        obtain ⟨y, hy, -⟩ := (h key xs.length).1 hfind
        simp at hy
      simp [hkey, Ne.symm hkey, hold]
  · have hout : (xs ++ [x])[i]? = none := List.getElem?_eq_none (by simp; omega)
    have hold : m.find? key ≠ some i := by
      intro hfind
      obtain ⟨y, hy, -⟩ := (h key i).1 hfind
      rw [List.getElem?_eq_none (Nat.le_of_lt hgt)] at hy
      cases hy
    rw [hout]
    by_cases hkey : key = name x
    · simp [hkey, Nat.ne_of_lt hgt]
    · simp [hkey, hold]

/-- A name is in the index iff a search for it finds something, also among what the members
    stand for. -/
theorem NameMap.Indexes.contains_eq {β : Type} (h : m.Indexes name xs) (f : α → β)
    {called : β → String} (hf : ∀ x, called (f x) = name x) (key : String) :
    m.contains key = ((xs.map f).find? fun y => called y = key).isSome := by
  rw [Bool.eq_iff_iff, List.find?_isSome, NameMap.contains, Option.isSome_iff_exists]
  constructor
  · rintro ⟨i, hi⟩
    obtain ⟨x, hx, hname⟩ := (h key i).1 hi
    exact ⟨f x, List.mem_map_of_mem (List.mem_of_getElem? hx), by simpa [hf] using hname⟩
  · rintro ⟨y, hy, hname⟩
    obtain ⟨x, hx, rfl⟩ := List.mem_map.1 hy
    obtain ⟨i, hi⟩ := List.mem_iff_getElem?.1 hx
    exact ⟨i, (h key i).2 ⟨x, hi, by simpa [hf] using hname⟩⟩

/-- A name that is not refused is new. -/
theorem NameMap.find?_eq_none_of_refuse {m : NameMap α} {e : Error} {key : String}
    (h : Schematic.refuse e (m.contains key) = .ok ()) : m.find? key = none := by
  rw [Schematic.refuse_eq_ok] at h
  simpa [NameMap.contains] using h

end Indices

namespace Arenas

/-! ### Arenas that are in step -/

/-- The references between arenas are in step. -/
structure Linked (a : Arenas) : Prop where
  /-- The first index knows the places of nodes. -/
  nodeNames : a.nodeNames.Indexes NodeValue.name a.nodes
  /-- The second index knows the places of connections. -/
  connectionNames : a.connectionNames.Indexes ConnectionValue.name a.connections
  /-- Constraints are found by their own names. -/
  constraints : ∀ e ∈ a.constraints.entries, e.2.name = e.1
  /-- The ports noted at a node are those that refer back to it, each under its name. -/
  ports : ∀ (n : NodeId) (node : NodeValue), a.nodes[n]? = some node → ∀ name p,
    node.ports.find? name = some p ↔
      ∃ port : PortValue, a.ports[p]? = some port ∧ port.name = name ∧ port.node = n
  /-- Ports refer back to nodes. -/
  owners : ∀ (p : PortId) (port : PortValue), a.ports[p]? = some port →
    port.node < a.nodes.length
  /-- Connections end at ports. -/
  ends : ∀ c ∈ a.connections, c.source < a.ports.length ∧ c.target < a.ports.length

/-- Whether a step can be asked for: the ends of a connection are places of ports. -/
def InRange (a : Arenas) : Operation PortId → Prop
  | .addConnection _ _ source target _ => source < a.ports.length ∧ target < a.ports.length
  | _ => True

section Linked

variable {a : Arenas}

/-- The arenas of a new schematic are in step. -/
theorem linked_new (name : String) : Linked { name } where
  nodeNames := NameMap.indexes_nil
  connectionNames := NameMap.indexes_nil
  constraints := by
    intro e he
    cases he
  ports := by
    intro n node hnode
    simp at hnode
  owners := by
    intro p port hport
    simp at hport
  ends := by simp

/-- What is noted at a node is the place of a port. -/
theorem Linked.lt_of_mem_values (ha : a.Linked) {n : NodeId} {node : NodeValue}
    (hnode : a.nodes[n]? = some node) {p : PortId} (hp : p ∈ node.ports.values) :
    p < a.ports.length := by
  obtain ⟨name, hname⟩ := NameMap.mem_values_iff.1 hp
  obtain ⟨port, hport, -⟩ := (ha.ports n node hnode name p).1 hname
  exact (List.getElem?_eq_some_iff.1 hport).1

/-- A constraint is found in the map iff it is among those of the schematic. -/
theorem Linked.isSome_constraint? (ha : a.Linked) (name : String) :
    (a.constraints.find? name).isSome = (a.schematic.constraint? name).isSome := by
  unfold OrderedMap.find? Schematic.constraint? schematic
  have hnames := ha.constraints
  generalize a.constraints.entries = entries at hnames
  rw [Bool.eq_iff_iff, List.find?_isSome, Option.isSome_iff_ne_none, ne_eq,
    lookup_eq_none_iff_not_mem, not_not]
  constructor
  · intro hmem
    obtain ⟨e, he, rfl⟩ := List.mem_map.1 hmem
    exact ⟨e.2, List.mem_map.2 ⟨e, he, rfl⟩, by simpa using hnames e he⟩
  · rintro ⟨c, hc, hname⟩
    obtain ⟨e, he, rfl⟩ := List.mem_map.1 hc
    rw [← of_decide_eq_true hname, hnames e he]
    exact List.mem_map_of_mem he

end Linked

/-! ### Arenas that grow -/

section Growth

variable {a a' : Arenas} {nodes : List NodeValue} {ports : List PortValue}

/-- A node whose ports are there does not change with ports that are added. -/
theorem nodeOf_of_append (hports : a'.ports = a.ports ++ ports) {node : NodeValue}
    (hnode : ∀ p ∈ node.ports.values, p < a.ports.length) : a'.nodeOf node = a.nodeOf node := by
  unfold nodeOf
  congr 1
  refine List.filterMap_congr fun p hp => ?_
  rw [hports, List.getElem?_append_left (hnode p hp)]

/-- A port keeps its names. -/
theorem Linked.portRef_of_append (ha : a.Linked) (hnodes : a'.nodes = a.nodes ++ nodes)
    (hports : a'.ports = a.ports ++ ports) {p : PortId} (hp : p < a.ports.length) :
    a'.portRef p = a.portRef p := by
  have hport : a.ports[p]? = some a.ports[p] := List.getElem?_eq_getElem hp
  have howner := ha.owners p _ hport
  unfold portRef
  rw [hports, List.getElem?_append_left hp, hport]
  simp only
  rw [hnodes, List.getElem?_append_left howner]

/-- A connection keeps its ends. -/
theorem Linked.map_connectionOf (ha : a.Linked) (hnodes : a'.nodes = a.nodes ++ nodes)
    (hports : a'.ports = a.ports ++ ports) :
    a.connections.map a'.connectionOf = a.connections.map a.connectionOf := by
  refine List.map_congr_left fun c hc => ?_
  obtain ⟨hsource, htarget⟩ := ha.ends c hc
  unfold connectionOf
  rw [ha.portRef_of_append hnodes hports hsource, ha.portRef_of_append hnodes hports htarget]

/-- Nodes keep their ports. -/
theorem Linked.map_nodeOf (ha : a.Linked) (hports : a'.ports = a.ports ++ ports) :
    a.nodes.map a'.nodeOf = a.nodes.map a.nodeOf := by
  refine List.map_congr_left fun node hnode => ?_
  obtain ⟨n, hn⟩ := List.mem_iff_getElem?.1 hnode
  exact nodeOf_of_append hports fun p hp => ha.lt_of_mem_values hn hp

end Growth

/-! ### A new node -/

section NewNode

variable {a : Arenas} {name : String} {type : NodeType} {attributes : Attributes}
  {ports : List Port}

/-- The arenas after a node was added with its ports. -/
def withNode (a : Arenas) (name : String) (type : NodeType) (attributes : Attributes)
    (ports : List Port) : Arenas :=
  { a with
    nodes := a.nodes ++ [⟨name, type, attributes, .ofList (placesFrom a.ports.length ports)⟩]
    ports := a.ports ++ ports.map (owned a.nodes.length)
    nodeNames := a.nodeNames.insert name a.nodes.length }

/-- The ports of a new node are put in one after the other, at the places noted for them. -/
theorem filterMap_placesFrom (before : List PortValue) (n : NodeId) (ports : List Port) :
    ((placesFrom before.length ports).map (·.2)).filterMap
      (fun p => ((before ++ ports.map (owned n))[p]?).map PortValue.port) = ports := by
  induction ports generalizing before with
  | nil => rfl
  | cons port ports ih =>
    have hrest := ih (before ++ [owned n port])
    rw [List.length_append, List.length_singleton, List.append_assoc] at hrest
    simp only [placesFrom, List.zipIdx_cons, List.map_cons]
    rw [List.filterMap_cons_some (b := port) (by simp [owned, PortValue.port])]
    exact congrArg (port :: ·) hrest

/-- Names that ascend are kept in their order. -/
theorem entries_places (hports : (ports.map (·.name)).Pairwise (· < ·)) (first : PortId) :
    (NameMap.ofList (placesFrom first ports)).entries = placesFrom first ports := by
  have hascending : (placesFrom first ports).Pairwise (fun e f => e.1 < f.1) := by
    refine List.pairwise_map.1 (?_ : ((placesFrom first ports).map (·.1)).Pairwise (· < ·))
    rw [map_fst_placesFrom]
    exact hports
  have hdistinct : ((placesFrom first ports).map (·.1)).Nodup :=
    (List.pairwise_map.2 hascending).imp fun hlt => Std.ne_of_lt hlt
  have hmap : NameMap.ofList (placesFrom first ports) = ⟨_, hascending⟩ :=
    NameMap.eq_of_find?_eq fun key => NameMap.find?_ofList hdistinct key
  rw [hmap]

/-- The new node is found with all its ports. -/
theorem nodeOf_withNode (hports : (ports.map (·.name)).Pairwise (· < ·)) :
    (a.withNode name type attributes ports).nodeOf
        ⟨name, type, attributes, .ofList (placesFrom a.ports.length ports)⟩ =
      ⟨name, type, attributes, ports⟩ := by
  unfold nodeOf NameMap.values
  rw [entries_places hports]
  congr 1
  exact filterMap_placesFrom a.ports a.nodes.length ports

theorem schematic_withNode (ha : a.Linked) (hports : (ports.map (·.name)).Pairwise (· < ·)) :
    (a.withNode name type attributes ports).schematic =
      { a.schematic with nodes := a.schematic.nodes ++ [⟨name, type, attributes, ports⟩] } := by
  have hnodes : (a.withNode name type attributes ports).nodes = a.nodes ++ _ := rfl
  have hgrown : (a.withNode name type attributes ports).ports = a.ports ++ _ := rfl
  unfold schematic
  congr 1
  · rw [hnodes, List.map_append, ha.map_nodeOf hgrown, List.map_singleton, nodeOf_withNode hports]
  · exact ha.map_connectionOf hnodes hgrown

/-- What is noted at the new node are the new ports, and older nodes keep theirs. -/
theorem linked_withNode (ha : a.Linked) (hnew : a.nodeNames.find? name = none)
    (hports : (ports.map (·.name)).Pairwise (· < ·)) :
    (a.withNode name type attributes ports).Linked := by
  have hnewPort {p : PortId} {port : PortValue}
      (hp : (a.ports ++ ports.map (owned a.nodes.length))[p]? = some port) :
      (a.ports[p]? = some port ∧ port.node < a.nodes.length) ∨
        (a.ports.length ≤ p ∧ ∃ made, ports[p - a.ports.length]? = some made ∧
          port = owned a.nodes.length made) := by
    rw [List.getElem?_append] at hp
    split at hp
    · exact .inl ⟨hp, ha.owners p port hp⟩
    · next hle =>
      rw [List.getElem?_map] at hp
      obtain ⟨made, hmade, rfl⟩ := Option.map_eq_some_iff.1 hp
      exact .inr ⟨Nat.le_of_not_lt hle, made, hmade, rfl⟩
  constructor
  case nodeNames =>
    exact ha.nodeNames.insert
      (x := ⟨name, type, attributes, .ofList (placesFrom a.ports.length ports)⟩) hnew
  case connectionNames => exact ha.connectionNames
  case constraints => exact ha.constraints
  case ports =>
    intro n node hnode key p
    change (a.nodes ++ _)[n]? = some node at hnode
    show _ ↔ ∃ port, (a.ports ++ ports.map (owned a.nodes.length))[p]? = some port ∧ _
    rw [List.getElem?_append] at hnode
    split at hnode
    · next hlt =>
      -- An older node: the new ports do not refer to it.
      rw [ha.ports n node hnode]
      constructor
      · rintro ⟨port, hport, hname, hback⟩
        have hp : p < a.ports.length := (List.getElem?_eq_some_iff.1 hport).1
        exact ⟨port, by rw [List.getElem?_append_left hp, hport], hname, hback⟩
      · rintro ⟨port, hport, hname, hback⟩
        rcases hnewPort hport with ⟨hold, -⟩ | ⟨-, made, -, rfl⟩
        · exact ⟨port, hold, hname, hback⟩
        · exact absurd hback (Nat.ne_of_gt hlt)
    · next hle =>
      -- The new node: the older ports do not refer to it.
      obtain ⟨rfl, rfl⟩ : n = a.nodes.length ∧ _ = node := by
        have hlt : n - a.nodes.length < 1 := (List.getElem?_eq_some_iff.1 hnode).1
        have hn : n = a.nodes.length := Nat.le_antisymm
          (Nat.sub_eq_zero_iff_le.1 (Nat.lt_one_iff.1 hlt)) (Nat.le_of_not_lt hle)
        subst hn
        simpa using hnode
      show (NameMap.ofList (placesFrom a.ports.length ports)).find? key = some p ↔ _
      rw [NameMap.find?_eq_some_iff, entries_places hports, mem_placesFrom]
      constructor
      · rintro ⟨hle, made, hmade, hname⟩
        refine ⟨owned a.nodes.length made, ?_, hname, rfl⟩
        rw [List.getElem?_append_right hle, List.getElem?_map, hmade]
        rfl
      · rintro ⟨port, hport, hname, hback⟩
        rcases hnewPort hport with ⟨-, hlt⟩ | ⟨hle, made, hmade, rfl⟩
        · exact absurd hback (Nat.ne_of_lt hlt)
        · exact ⟨hle, made, hmade, hname⟩
  case owners =>
    intro p port hport
    show port.node < (a.nodes ++ _).length
    rw [List.length_append, List.length_singleton]
    rcases hnewPort hport with ⟨-, hlt⟩ | ⟨-, made, -, rfl⟩
    · exact Nat.lt_succ_of_lt hlt
    · exact Nat.lt_succ_self _
  case ends =>
    intro c hc
    obtain ⟨hsource, htarget⟩ := ha.ends c hc
    show _ < (a.ports ++ _).length ∧ _ < (a.ports ++ _).length
    rw [List.length_append]
    exact ⟨Nat.lt_add_right _ hsource, Nat.lt_add_right _ htarget⟩

end NewNode

/-! ### Steps on arenas and on schematics -/

/-- Work on the arenas `a` ends as the work on their schematic did: with the same error and
    nothing changed, or with arenas that are in step and stand for the new schematic. -/
def Follows {α : Type} (a : Arenas) (x : EStateM Error Arenas α) : Except Error Schematic → Prop
  | .error e => x a = .error e a
  | .ok s => ∃ v a', x a = .ok v a' ∧ a'.Linked ∧ a'.schematic = s

section Follows

variable {α β : Type} {a : Arenas}

/-- A look that finds the same on both sides decides only whether the work goes on. -/
theorem follows_look {check : Arenas → Except Error β} {found : Except Error β}
    {f : β → EStateM Error Arenas α} {g : β → Except Error Schematic} (hcheck : check a = found)
    (h : ∀ b, found = .ok b → Follows a (f b) (g b)) : Follows a (look check >>= f) (found >>= g) := by
  have hlook : (look check >>= f) a = EStateM.bind (look check) f a := rfl
  cases found with
  | error e =>
    show (look check >>= f) a = .error e a
    rw [hlook]
    unfold EStateM.bind look
    rw [hcheck]
  | ok b =>
    have hgo : (look check >>= f) a = f b a := by
      rw [hlook]
      unfold EStateM.bind look
      rw [hcheck]
    have hb := h b rfl
    unfold Follows at hb ⊢
    rw [hgo]
    exact hb

/-- A result that is not used changes nothing. -/
theorem follows_discard {x : EStateM Error Arenas α} {outcome : Except Error Schematic}
    (h : Follows a x outcome) : Follows a (discard x) outcome := by
  cases outcome with
  | error e =>
    have hx : x a = .error e a := h
    show EStateM.map (fun _ => ()) x a = .error e a
    unfold EStateM.map
    rw [hx]
  | ok s =>
    obtain ⟨v, a', hx, hlinked, hs⟩ := h
    refine ⟨(), a', ?_, hlinked, hs⟩
    show EStateM.map (fun _ => ()) x a = .ok () a'
    unfold EStateM.map
    rw [hx]

/-- Types are registered on both sides alike. -/
theorem follows_register (names : TypeNames Arenas α) (names' : TypeNames Schematic α)
    (hscope : names.scope = names'.scope) (hget : names.get a = names'.get a.schematic)
    (hset : ∀ m, (names.set a m).Linked ∧ (names.set a m).schematic = names'.set a.schematic m)
    (name : String) (schema : Schema) (type : α) :
    Follows a (names.register userTypes name schema type) (do
      a.schematic.requireSchema schema
      return names'.set a.schematic
        (← Schematic.register names'.scope (names'.get a.schematic) name type)) := by
  simp only [Schematic.register_eq, bind_assoc, pure_bind]
  refine follows_look rfl fun _ _ => follows_look ?_ fun _ _ => ?_
  · rw [hscope, hget]
  · exact ⟨(), _, rfl, (hset _).1, by rw [(hset _).2, hget]⟩

end Follows

/-- The writes of a new node, together. -/
theorem write_node (a : Arenas) (name : String) (type : NodeType) (attributes : Attributes)
    (ports : List Port) :
    (do
      let node ← allocateNode { name, type, attributes }
      ports.forM (addPort node)
      modify fun a => { a with nodeNames := a.nodeNames.insert name node }
      return node : EStateM Error Arenas NodeId) a =
        .ok a.nodes.length (a.withNode name type attributes ports) := by
  have hloop := forM_addPort a { name, type, attributes } ports
  have hallocate : allocateNode { name, type, attributes } a = .ok a.nodes.length
      { a with nodes := a.nodes ++ [{ name, type, attributes }] } := rfl
  simp only [bind, EStateM.bind, hallocate, hloop]
  rfl

/-- The names of new ports ascend, since those of the type do. -/
theorem ascending_of_newPorts {types : UserTypes} {type : NodeType}
    {given : List (String × List (String × Value))} {ports : List Port}
    (h : Schematic.newPorts types type given = .ok ports) :
    (ports.map (·.name)).Pairwise (· < ·) := by
  have hnode : Node.HasDeclaredPorts ⟨"", type, ∅, ports⟩ := Schematic.ports_of_newPorts h
  exact hnode.ascending

end Arenas

/-- The step with the ends of connections given in another way. -/
def Schematic.Operation.map {ρ ρ' : Type} (f : ρ → ρ') : Operation ρ → Operation ρ'
  | .addUserType name type => .addUserType name type
  | .addPortType name type => .addPortType name type
  | .addNodeType name type => .addNodeType name type
  | .addConnectionType name type => .addConnectionType name type
  | .addConstraintType name type => .addConstraintType name type
  | .addNode name type given portGiven => .addNode name type given portGiven
  | .addConnection name type source target given =>
    .addConnection name type (f source) (f target) given
  | .addConstraint name type given => .addConstraint name type given

namespace Arenas

variable {a : Arenas}

/-- **Steps on arenas are steps on schematics.** Where arenas are in step, whatever is asked of
    them ends as it does for the schematic that they stand for. -/
theorem execute_follows (ha : a.Linked) {op : Operation PortId} (hop : a.InRange op) :
    Follows a (execute op) ((op.map a.portRef).apply a.schematic) := by
  cases op with
  | addUserType name type =>
    simp only [Operation.map, Operation.apply, Schematic.addUserType_eq]
    exact follows_look rfl fun _ _ => follows_look rfl fun _ _ => ⟨(), _, rfl, { ha with }, rfl⟩
  | addPortType name type =>
    exact follows_register portTypeNames Schematic.portTypeNames rfl rfl
      (fun _ => ⟨{ ha with }, rfl⟩) name type.attributes type
  | addNodeType name type =>
    exact follows_register nodeTypeNames Schematic.nodeTypeNames rfl rfl
      (fun _ => ⟨{ ha with }, rfl⟩) name type.attributes type
  | addConnectionType name type =>
    exact follows_register connectionTypeNames Schematic.connectionTypeNames rfl rfl
      (fun _ => ⟨{ ha with }, rfl⟩) name type.attributes type
  | addConstraintType name type =>
    exact follows_register constraintTypeNames Schematic.constraintTypeNames rfl rfl
      (fun _ => ⟨{ ha with }, rfl⟩) name type.attributes type
  | addNode name type given portGiven =>
    have htaken : a.nodeNames.contains name = (a.schematic.node? name).isSome :=
      ha.nodeNames.contains_eq a.nodeOf (fun _ => rfl) name
    simp only [Operation.map, Operation.apply, Schematic.addNode_eq]
    refine follows_discard ?_
    refine follows_look (by rw [htaken]) fun _ hfree => follows_look rfl fun attributes _ => ?_
    refine follows_look rfl fun _ _ => follows_look rfl fun ports hports => ?_
    rw [← htaken] at hfree
    have hnew := NameMap.find?_eq_none_of_refuse hfree
    have hascending := ascending_of_newPorts hports
    exact ⟨_, _, write_node a name type attributes ports, linked_withNode ha hnew hascending,
      schematic_withNode ha hascending⟩
  | addConnection name type source target given =>
    have htaken : a.connectionNames.contains name = (a.schematic.connection? name).isSome :=
      ha.connectionNames.contains_eq a.connectionOf (fun _ => rfl) name
    simp only [Operation.map, Operation.apply, Schematic.addConnection_eq]
    refine follows_discard ?_
    refine follows_look (by rw [htaken]) fun _ hfree => follows_look rfl fun attributes _ => ?_
    rw [← htaken] at hfree
    have hnew := NameMap.find?_eq_none_of_refuse hfree
    refine ⟨_, _, rfl, { ha with connectionNames := ?_, ends := ?_ }, ?_⟩
    · exact ha.connectionNames.insert (x := ⟨name, type, source, target, attributes⟩) hnew
    · exact List.forall_mem_append.2 ⟨ha.ends, List.forall_mem_singleton.2 hop⟩
    · unfold schematic
      congr 1
      exact List.map_append
  | addConstraint name type given =>
    simp only [Operation.map, Operation.apply, Schematic.addConstraint_eq]
    refine follows_look (by rw [ha.isSome_constraint?]) fun _ hfree =>
      follows_look rfl fun attributes _ => ?_
    have hnew : name ∉ a.constraints.entries.map (·.1) := by
      rw [Schematic.refuse_eq_ok, ← ha.isSome_constraint?] at hfree
      have hnone : a.constraints.find? name = none := by simpa using hfree
      exact lookup_eq_none_iff_not_mem.1 hnone
    have hentries : (a.constraints.insert name ⟨name, type, attributes⟩).entries =
        a.constraints.entries ++ [(name, ⟨name, type, attributes⟩)] :=
      OrderedMap.setEntry_eq_concat hnew _
    refine ⟨(), _, rfl, { ha with constraints := ?_ }, ?_⟩
    · show ∀ e ∈ (a.constraints.insert name ⟨name, type, attributes⟩).entries, e.2.name = e.1
      rw [hentries]
      exact List.forall_mem_append.2 ⟨ha.constraints, List.forall_mem_singleton.2 rfl⟩
    · unfold schematic
      congr 1
      rw [hentries, List.map_append]
      rfl

/-! ### Names of ports -/

theorem mem_schematic_nodes {n : NodeId} {node : NodeValue} (hnode : a.nodes[n]? = some node) :
    a.nodeOf node ∈ a.schematic.nodes :=
  List.mem_map_of_mem (List.mem_of_getElem? hnode)

/-- A node of the schematic holds the ports that are noted at it. -/
theorem mem_ports_nodeOf {node : NodeValue} {p : PortId} {port : PortValue} {name : String}
    (hnoted : node.ports.find? name = some p) (hport : a.ports[p]? = some port) :
    port.port ∈ (a.nodeOf node).ports :=
  List.mem_filterMap.2 ⟨p, NameMap.mem_values_iff.2 ⟨name, hnoted⟩, by rw [hport]; rfl⟩

/-- A port is known by the name of the node that it refers back to. -/
theorem Linked.portRef_eq (ha : a.Linked) {p : PortId} {port : PortValue}
    (hport : a.ports[p]? = some port) :
    ∃ node, a.nodes[port.node]? = some node ∧ a.portRef p = ⟨node.name, port.name⟩ := by
  have hlt := ha.owners p port hport
  have hnode : a.nodes[port.node]? = some a.nodes[port.node] := List.getElem?_eq_getElem hlt
  refine ⟨_, hnode, ?_⟩
  unfold portRef
  rw [hport]
  simp only
  rw [hnode]
  rfl

/-- The port at a place is a port of the schematic. -/
theorem Linked.isSome_port?_portRef (ha : a.Linked) (hs : a.schematic.Consistent) {p : PortId}
    (hp : p < a.ports.length) : (a.schematic.port? (a.portRef p)).isSome := by
  obtain ⟨port, hport⟩ : ∃ port, a.ports[p]? = some port := ⟨_, List.getElem?_eq_getElem hp⟩
  obtain ⟨node, hnode, href⟩ := ha.portRef_eq hport
  have hnoted : node.ports.find? port.name = some p :=
    (ha.ports _ node hnode _ p).2 ⟨port, hport, rfl, rfl⟩
  have hfound : ((a.nodeOf node).port? port.name).isSome :=
    List.find?_isSome.2 ⟨port.port, mem_ports_nodeOf hnoted hport, decide_eq_true rfl⟩
  obtain ⟨found, hfound⟩ := Option.isSome_iff_exists.1 hfound
  rw [href]
  exact Option.isSome_iff_exists.2 ⟨found, Schematic.port?_eq_some_iff.2
    ⟨a.nodeOf node, (Schematic.node?_eq_some_iff hs).2 ⟨mem_schematic_nodes hnode, rfl⟩, hfound⟩⟩

/-- Every port of the schematic is at a place. -/
theorem Linked.exists_portRef (ha : a.Linked) {r : PortRef} (hr : (a.schematic.port? r).isSome) :
    ∃ p < a.ports.length, a.portRef p = r := by
  obtain ⟨found, hfound⟩ := Option.isSome_iff_exists.1 hr
  obtain ⟨owner, howner, hport⟩ := Schematic.port?_eq_some_iff.1 hfound
  obtain ⟨node, hnode, rfl⟩ := List.mem_map.1 (List.mem_of_find?_eq_some howner)
  obtain ⟨n, hn⟩ := List.mem_iff_getElem?.1 hnode
  obtain ⟨hmem, hname⟩ := Schematic.port?_eq_some hport
  obtain ⟨p, hp, hkept⟩ := List.mem_filterMap.1 hmem
  obtain ⟨port, hplace, rfl⟩ := Option.map_eq_some_iff.1 hkept
  refine ⟨p, (List.getElem?_eq_some_iff.1 hplace).1, ?_⟩
  -- The port is noted at the node that was found, so this is the one it refers back to.
  obtain ⟨key, hkey⟩ := NameMap.mem_values_iff.1 hp
  obtain ⟨other, hother, -, hback⟩ := (ha.ports n node hn key p).1 hkey
  cases hplace.symm.trans hother
  obtain ⟨back, hbackNode, href⟩ := ha.portRef_eq hplace
  rw [hback] at hbackNode
  cases hn.symm.trans hbackNode
  have howned : (a.nodeOf node).name = r.node := by simpa using List.find?_some howner
  rw [href, show node.name = r.node from howned, show port.name = r.port from hname]

/-! ### Runs -/

/-- The arenas after a step; what was written before a failure stays. -/
def perform (a : Arenas) (op : Operation PortId) : Arenas :=
  match execute op a with
  | .ok _ a' => a'
  | .error _ a' => a'

/-- The arenas that construction steps lead to. -/
inductive Reachable : Arenas → Prop where
  | new (name : String) : Reachable { name }
  | perform {a : Arenas} (op : Operation PortId) :
      Reachable a → a.InRange op → Reachable (a.perform op)

instance (a : Arenas) (op : Operation PortId) : Decidable (a.InRange op) :=
  match op with
  | .addConnection _ _ source target _ =>
    inferInstanceAs (Decidable (source < a.ports.length ∧ target < a.ports.length))
  | .addUserType _ _ | .addPortType _ _ | .addNodeType _ _ | .addConnectionType _ _
  | .addConstraintType _ _ | .addNode _ _ _ _ | .addConstraint _ _ _ => isTrue trivial

/-- Whether each of several steps can be asked for when its turn comes. -/
def AllInRange (a : Arenas) : List (Operation PortId) → Prop
  | [] => True
  | op :: ops => a.InRange op ∧ AllInRange (a.perform op) ops

instance decidableAllInRange : (a : Arenas) → (ops : List (Operation PortId)) →
    Decidable (a.AllInRange ops)
  | _, [] => isTrue trivial
  | a, op :: ops =>
    have := decidableAllInRange (a.perform op) ops
    inferInstanceAs (Decidable (a.InRange op ∧ AllInRange (a.perform op) ops))

/-- Several steps lead from reachable arenas to reachable ones. -/
theorem Reachable.foldl {ops : List (Operation PortId)} (h : a.Reachable)
    (hops : a.AllInRange ops) : (ops.foldl Arenas.perform a).Reachable := by
  induction ops generalizing a with
  | nil => exact h
  | cons op ops ih => exact ih (.perform op h hops.1) hops.2

/-- One step keeps arenas in step, and does to their schematic what it should. -/
theorem Linked.perform (ha : a.Linked) {op : Operation PortId} (hop : a.InRange op) :
    (a.perform op).Linked ∧ (a.perform op).schematic = a.schematic.perform (op.map a.portRef) := by
  have hfollows := execute_follows ha hop
  unfold Arenas.perform Schematic.perform
  cases happly : (op.map a.portRef).apply a.schematic with
  | error e =>
    rw [happly] at hfollows
    rw [show execute op a = .error e a from hfollows]
    exact ⟨ha, rfl⟩
  | ok s =>
    rw [happly] at hfollows
    obtain ⟨v, a', hexecute, hlinked, hs⟩ := hfollows
    rw [hexecute]
    exact ⟨hlinked, hs⟩

/-- Runs keep arenas in step, and lead to schematics that can be built. -/
theorem Reachable.linked_and_schematic (h : a.Reachable) : a.Linked ∧ a.schematic.Reachable := by
  induction h with
  | new name => exact ⟨linked_new name, .new name⟩
  | @perform a op _ hop ih =>
    obtain ⟨hlinked, hs⟩ := ih
    obtain ⟨hlinked', heq⟩ := hlinked.perform hop
    refine ⟨hlinked', heq ▸ .perform _ hs ?_⟩
    -- The ends of a connection are ports on both sides.
    cases op with
    | addConnection name type source target given =>
      exact ⟨hlinked.isSome_port?_portRef hs.consistent hop.1,
        hlinked.isSome_port?_portRef hs.consistent hop.2⟩
    | _ => trivial

theorem Reachable.linked (h : a.Reachable) : a.Linked := h.linked_and_schematic.1

theorem Reachable.schematic (h : a.Reachable) : a.schematic.Reachable := h.linked_and_schematic.2

/-- **Every schematic that can be built is that of some arenas.** -/
theorem exists_arenas {s : Schematic} (h : s.Reachable) :
    ∃ a : Arenas, a.Reachable ∧ a.schematic = s := by
  induction h with
  | new name => exact ⟨{ name }, .new name, rfl⟩
  | @perform s op _ hop ih =>
    obtain ⟨a, ha, rfl⟩ := ih
    -- The same step, with the ends of a connection given by their places.
    obtain ⟨op', hop', rfl⟩ : ∃ op', a.InRange op' ∧ op'.map a.portRef = op := by
      cases op with
      | addConnection name type source target given =>
        obtain ⟨p, hp, rfl⟩ := ha.linked.exists_portRef hop.1
        obtain ⟨q, hq, rfl⟩ := ha.linked.exists_portRef hop.2
        exact ⟨.addConnection name type p q given, ⟨hp, hq⟩, rfl⟩
      | addUserType name type => exact ⟨.addUserType name type, trivial, rfl⟩
      | addPortType name type => exact ⟨.addPortType name type, trivial, rfl⟩
      | addNodeType name type => exact ⟨.addNodeType name type, trivial, rfl⟩
      | addConnectionType name type => exact ⟨.addConnectionType name type, trivial, rfl⟩
      | addConstraintType name type => exact ⟨.addConstraintType name type, trivial, rfl⟩
      | addNode name type given portGiven => exact ⟨.addNode name type given portGiven, trivial, rfl⟩
      | addConstraint name type given => exact ⟨.addConstraint name type given, trivial, rfl⟩
    exact ⟨a.perform op', .perform op' ha hop', (ha.linked.perform hop').2⟩

end Arenas

end Netlister
