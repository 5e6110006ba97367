import Netlister.Proofs.Schematic.Validation

/-! # What a new node stores

  A node is added with values for its own attributes, and with entries that give values to
  its ports. The two are taken in differently:

  - values are read one by one, and a second value for a name is refused;
  - entries are searched anew for each port of the type, so that of several entries for
    one port only the first is looked at.

  Of the first, validated attributes are exactly the given values
  (`Attributes.keeps_of_validate`). `addNode_firstEntries` says of the second that later
  entries for a port might as well not be there: they are neither stored nor checked. What a
  new node stores, and what is lost, follows in `addNode_stores_first_entries`.
-/

namespace Netlister

/-! ### First entries -/

/-- The first entry for each name, in order. -/
def firstEntries {α : Type} : List (String × α) → List (String × α)
  | [] => []
  | e :: es => e :: (firstEntries es).filter (·.1 ≠ e.1)

section FirstEntries

variable {α : Type} {es : List (String × α)}

/-- Under a name the first entry for it is found. -/
theorem lookup_firstEntries (es : List (String × α)) (name : String) :
    (firstEntries es).lookup name = es.lookup name := by
  induction es with
  | nil => rfl
  | cons e es ih =>
    rw [firstEntries, List.lookup_cons, List.lookup_cons]
    by_cases hname : name = e.1
    · simp [hname]
    · have hb : (name == e.1) = false := beq_false_of_ne hname
      rw [hb, lookup_filter_ne hname, ih]

/-- A search by name finds a first entry. -/
theorem find?_firstEntries (p : String → Bool) (es : List (String × α)) :
    (firstEntries es).find? (fun e => p e.1) = es.find? fun e => p e.1 := by
  induction es with
  | nil => rfl
  | cons e es ih =>
    rw [firstEntries]
    cases he : p e.1 with
    | true => simp [he]
    | false =>
      -- The entries that are left out have the name of one that was passed over.
      have hskip : (fun f : String × α => decide (decide (f.1 ≠ e.1) = true ∧ p f.1 = true)) =
          fun f => p f.1 := by
        funext f
        by_cases hf : f.1 = e.1
        · simp [hf, he]
        · simp [hf]
      rw [List.find?_cons_of_neg (by simp [he]), List.find?_cons_of_neg (by simp [he]),
        List.find?_filter, hskip, ih]

theorem nodup_firstEntries (es : List (String × α)) : ((firstEntries es).map (·.1)).Nodup := by
  induction es with
  | nil => exact List.nodup_nil
  | cons e es ih =>
    rw [firstEntries, List.map_cons, List.nodup_cons]
    refine ⟨?_, (List.filter_sublist.map _).nodup ih⟩
    intro hmem
    obtain ⟨f, hf, hname⟩ := List.mem_map.1 hmem
    have hne := (List.mem_filter.1 hf).2
    simp [hname] at hne

theorem mem_firstEntries {e : String × α} : e ∈ firstEntries es ↔ es.lookup e.1 = some e.2 := by
  rw [← lookup_firstEntries, lookup_eq_some_iff_mem_of_nodup (nodup_firstEntries es)]

/-- Every entry comes with a first one for its name. -/
theorem exists_firstEntry {e : String × α} (h : e ∈ es) :
    ∃ first ∈ firstEntries es, first.1 = e.1 := by
  have hsome : es.lookup e.1 ≠ none := by
    intro hnone
    exact lookup_eq_none_iff_not_mem.1 hnone (List.mem_map.2 ⟨e, h, rfl⟩)
  obtain ⟨v, hv⟩ := Option.ne_none_iff_exists'.1 hsome
  exact ⟨(e.1, v), mem_firstEntries.2 hv, rfl⟩

end FirstEntries

/-! ### New nodes -/

/-- The node has a port for the entry, and the port stores all values of it. -/
def Node.Stores (node : Node) (entry : String × List (String × Value)) : Prop :=
  ∃ port, node.port? entry.1 = some port ∧
    ∀ g ∈ entry.2, port.attributes.find? g.1 = some g.2

namespace Schematic

section NewNode

variable {s : Schematic} {name : String} {type : NodeType} {given : List (String × Value)}
  {entries : List (String × List (String × Value))}

/-- Whether all entries are for ports of the type does not depend on repeated ones. -/
theorem requirePorts_firstEntries (name : String) (type : NodeType)
    (entries : List (String × List (String × Value))) :
    requirePorts name type (firstEntries entries) = requirePorts name type entries := by
  rw [requirePorts_eq, requirePorts_eq, find?_firstEntries fun port => !type.ports.contains port]

/-- Of several entries for a port only the first matters, whether or not the node can be
    added. -/
theorem addNode_firstEntries (s : Schematic) (name : String) (type : NodeType)
    (given : List (String × Value)) (entries : List (String × List (String × Value))) :
    s.addNode name type given (firstEntries entries) = s.addNode name type given entries := by
  have hports : newPorts s.userTypes type (firstEntries entries) =
      newPorts s.userTypes type entries := by
    unfold newPorts
    simp only [lookup_firstEntries]
  rw [addNode_eq, addNode_eq, requirePorts_firstEntries, hports]

/-- A new node has a port for each of its type, which stores the first entry for it. -/
theorem find?_of_newPorts {ports : List Port} (h : newPorts s.userTypes type entries = .ok ports)
    {port : String} {portType : PortType} (hport : type.ports.find? port = some portType) :
    ∃ attributes, ports.find? (·.name = port) = some ⟨port, portType, attributes⟩ ∧
      attributes.Keeps ((entries.lookup port).getD []) := by
  unfold newPorts at h
  unfold NameMap.find? at hport
  generalize type.ports.entries = declared at h hport
  -- The ports are made in the order of the entries of the type, one for each.
  induction Outcome.mapM_eq_ok.1 h with
  | nil => cases hport
  | @cons e made declared ports hmade hrest ih =>
    obtain ⟨attributes, hvalid, heq⟩ := Outcome.bind_eq_ok.1 hmade
    cases heq
    rw [List.lookup_cons] at hport
    by_cases hname : port = e.1
    · subst hname
      simp only [beq_self_eq_true, Option.some.injEq] at hport
      subst hport
      exact ⟨attributes, List.find?_cons_of_pos (by simp), Attributes.keeps_of_validate hvalid⟩
    · have hb : (port == e.1) = false := beq_false_of_ne hname
      rw [hb] at hport
      rw [List.find?_cons_of_neg (by simpa using Ne.symm hname)]
      exact ih (Outcome.mapM_eq_ok.2 hrest) hport

/-- All entries for a new node are for ports of its type. -/
theorem find?_of_requirePorts (h : requirePorts name type entries = .ok ())
    {entry : String × List (String × Value)} (hentry : entry ∈ entries) :
    ∃ portType, type.ports.find? entry.1 = some portType := by
  have hknown := refuse_eq_ok.1 (Outcome.forM_eq_ok.1 h entry hentry)
  exact Option.isSome_iff_exists.1 (by simpa [NameMap.contains] using hknown)

end NewNode

/-- **What a new node stores.** Entries for ports count as if only the first for each port
    were given. A node that is added stores exactly the values given for itself, and at each
    port exactly those of the first entry for it. So a later entry is stored iff the first one
    says the same and more, and everything is stored if no port has two entries. -/
theorem addNode_stores_first_entries (s : Schematic) (name : String) (type : NodeType)
    (given : List (String × Value)) (entries : List (String × List (String × Value))) :
    s.addNode name type given entries = s.addNode name type given (firstEntries entries) ∧
    ∀ s', s.addNode name type given entries = .ok s' →
      ∃ node, s' = { s with nodes := s.nodes ++ [node] } ∧ node.name = name ∧ node.type = type ∧
        node.attributes.Keeps given ∧
        (∀ entry ∈ firstEntries entries, ∃ port, node.port? entry.1 = some port ∧
          port.attributes.Keeps entry.2) ∧
        (∀ entry ∈ entries, node.Stores entry ↔
          ∃ first ∈ firstEntries entries, first.1 = entry.1 ∧ entry.2 ⊆ first.2) ∧
        ((entries.map (·.1)).Nodup → ∀ entry ∈ entries, node.Stores entry) := by
  refine ⟨(addNode_firstEntries s name type given entries).symm, ?_⟩
  intro s' h
  have hextends : (Operation.addNode name type given entries).Extends s s' :=
    Operation.apply_eq_ok.1 h
  obtain ⟨⟨-, hrequire⟩, attributes, ports, hattributes, hports, rfl⟩ := hextends
  rw [← requirePorts_firstEntries] at hrequire
  -- A first entry is for a port of the type, and is what this port was made from.
  have hfirst : ∀ entry ∈ firstEntries entries, ∃ port,
      Node.port? ⟨name, type, attributes, ports⟩ entry.1 = some port ∧
        port.attributes.Keeps entry.2 := by
    intro entry hentry
    obtain ⟨portType, hportType⟩ := find?_of_requirePorts hrequire hentry
    obtain ⟨values, hport, hkeeps⟩ := find?_of_newPorts hports hportType
    rw [mem_firstEntries.1 hentry, Option.getD_some] at hkeeps
    exact ⟨_, hport, hkeeps⟩
  have hstores : ∀ entry first, first ∈ firstEntries entries → first.1 = entry.1 →
      (Node.Stores ⟨name, type, attributes, ports⟩ entry ↔ entry.2 ⊆ first.2) := by
    intro entry first hmem hname
    obtain ⟨port, hport, hkeeps⟩ := hfirst first hmem
    rw [hname] at hport
    constructor
    · rintro ⟨port', hport', hvalues⟩ g hg
      cases hport.symm.trans hport'
      exact (hkeeps g.1 g.2).1 (hvalues g hg)
    · intro hsub
      exact ⟨port, hport, fun g hg => (hkeeps g.1 g.2).2 (hsub hg)⟩
  refine ⟨_, rfl, rfl, rfl, Attributes.keeps_of_validate hattributes, hfirst, ?_, ?_⟩
  · intro entry hentry
    constructor
    · intro hkept
      obtain ⟨first, hmem, hname⟩ := exists_firstEntry hentry
      exact ⟨first, hmem, hname, (hstores entry first hmem hname).1 hkept⟩
    · rintro ⟨first, hmem, hname, hsub⟩
      exact (hstores entry first hmem hname).2 hsub
  · -- Where no port has two entries, each is the first one for its port.
    intro hnodup entry hentry
    have hmem : entry ∈ firstEntries entries :=
      mem_firstEntries.2 ((lookup_eq_some_iff_mem_of_nodup hnodup).2 hentry)
    exact (hstores entry entry hmem rfl).2 (List.Subset.refl _)

/-! A board with a socket, whose two ports are each given a pin. -/

/-- A type of ports with a pin. -/
def pinnedType : PortType := ⟨0, .ofList [("pin", .string)]⟩

/-- A type of nodes with a label and two such ports. -/
def socketType : NodeType :=
  ⟨1, .ofList [("label", .string)], .ofList [("io", pinnedType), ("en", pinnedType)]⟩

/-- A board without nodes. -/
def board : Schematic := { name := "board" }

/-- Entries for the ports of a socket. The port `io` is given two pins, and then an
    attribute that it does not have. -/
def socketEntries : List (String × List (String × Value)) :=
  [("io", [("pin", .string "A1")]), ("en", [("pin", .string "C3")]),
   ("io", [("pin", .string "B2")]), ("io", [("colour", .int 3)])]

/-- The socket that these entries come to. -/
def socket : Node :=
  ⟨"a", socketType, .ofList [("label", .string "U7")],
    [⟨"en", pinnedType, .ofList [("pin", .string "C3")]⟩,
     ⟨"io", pinnedType, .ofList [("pin", .string "A1")]⟩]⟩

theorem addNode_socket :
    board.addNode "a" socketType [("label", .string "U7")] socketEntries =
      .ok { board with nodes := [socket] } := by
  rfl

/-- The socket is added, although it does not store the second pin for its port, nor the
    attribute that the port does not have. A second label is refused. -/
theorem repeated_entries_lost :
    board.addNode "a" socketType [("label", .string "U7")] socketEntries =
      .ok { board with nodes := [socket] } ∧
    ("io", [("pin", .string "B2")]) ∈ socketEntries ∧
    ¬ socket.Stores ("io", [("pin", .string "B2")]) ∧
    ("io", [("colour", .int 3)]) ∈ socketEntries ∧
    ¬ socket.Stores ("io", [("colour", .int 3)]) ∧
    board.addNode "a" socketType [("label", .string "U7"), ("label", .string "U8")] [] =
      .error (.multipleAssignment .attr "label") := by
  refine ⟨addNode_socket, by simp [socketEntries], ?_, by simp [socketEntries], ?_, rfl⟩
  · rintro ⟨port, hport, hvalues⟩
    cases hport
    have hpin : some (Value.string "A1") = some (.string "B2") := hvalues _ List.mem_cons_self
    simp at hpin
  · rintro ⟨port, hport, hvalues⟩
    cases hport
    have hcolour : none = some (Value.int 3) := hvalues _ List.mem_cons_self
    cases hcolour

/-- The socket stores its label, and the first pin for each of its ports. -/
theorem addNode_stores_first_entries_socket :
    board.addNode "a" socketType [("label", .string "U7")] socketEntries =
      .ok { board with nodes := [socket] } ∧
    socket.attributes.Keeps [("label", .string "U7")] ∧
    socket.Stores ("io", [("pin", .string "A1")]) ∧
    socket.Stores ("en", [("pin", .string "C3")]) := by
  obtain ⟨-, hadded⟩ := addNode_stores_first_entries board "a" socketType
    [("label", .string "U7")] socketEntries
  obtain ⟨node, hnode, -, -, hattributes, -, hstores, -⟩ := hadded _ addNode_socket
  have heq : [socket] = [node] := congrArg Schematic.nodes hnode
  cases heq
  have hfirsts : firstEntries socketEntries =
      [("io", [("pin", .string "A1")]), ("en", [("pin", .string "C3")])] := rfl
  rw [hfirsts] at hstores
  refine ⟨addNode_socket, hattributes, (hstores _ ?_).2 ⟨_, List.mem_cons_self, rfl, ?_⟩,
    (hstores _ ?_).2 ⟨_, List.mem_cons_of_mem _ List.mem_cons_self, rfl, ?_⟩⟩
  · simp [socketEntries]
  · exact List.Subset.refl _
  · simp [socketEntries]
  · exact List.Subset.refl _

end Schematic

end Netlister
