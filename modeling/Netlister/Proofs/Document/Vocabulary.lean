import Netlister.Proofs.Document.Description

/-! # Documents with the digital vocabulary

  The types of a document are declared in the order in which it lists them, among other
  types and with any serial numbers. If the types of the digital vocabulary are among them,
  then the schematic speaks the vocabulary, so that all that holds of digital circuits holds
  of what is read from the document.

  - `ListsVocabulary`: the document lists the types, with their ports and attributes.
  - `speaks_of_toSchematic`: its schematic speaks the vocabulary.
-/

namespace Netlister

namespace Document

/-- The document lists the types of the digital vocabulary. Ports are listed in any order, and
    types may have attributes besides those that are needed. -/
structure ListsVocabulary (d : Document) : Prop where
  inPort : ∃ t, d.portTypes.find? Digital.inPort = some t
  outPort : ∃ t, d.portTypes.find? Digital.outPort = some t
  wire : ∃ t, d.connectionTypes.find? Digital.wire = some t
  inputPin : ∃ t, d.nodeTypes.find? Digital.inputPin = some t ∧
    t.ports.entries.Perm [("out", Digital.outPort)]
  outputPin : ∃ t, d.nodeTypes.find? Digital.outputPin = some t ∧
    t.ports.entries.Perm [("in", Digital.inPort)]
  register : ∃ t, d.nodeTypes.find? Digital.register = some t ∧
    t.ports.entries.Perm [("out", Digital.outPort), ("reset", Digital.inPort),
      ("clock", Digital.inPort), ("in", Digital.inPort)] ∧
    ∀ e ∈ DigitalTypes.registerAttributes, t.attributes.find? e.1 = some e.2

/-- The type of a port is looked up by the name that the document gives. -/
theorem find?_ports {s : Schematic} {listed : OrderedMap String} {ports : NameMap PortType}
    (h : listed.Lists (fun name port => s.portTypes.find? name = some port) ports)
    {entries : List (String × String)} (hperm : listed.entries.Perm entries) (port : String) :
    ports.find? port = (entries.lookup port).bind s.portTypes.find? := by
  rw [← lookup_eq_of_perm listed.distinct hperm]
  change ports.find? port = (listed.find? port).bind _
  cases hfound : listed.find? port with
  | none => exact h.find?_eq_none hfound
  | some name =>
    obtain ⟨type, htype, hname⟩ := h.exists_value hfound
    rw [htype]
    exact hname.symm

/-- A document that lists the vocabulary gives a schematic that speaks it. -/
theorem speaks_of_toSchematic {d : Document} {c c' : Context} {s : Schematic}
    (hd : d.ListsVocabulary) (h : d.toSchematic c = .ok (s, c')) : ∃ types, s.Speaks types := by
  have htypes := (describes_of_toSchematic h).types
  obtain ⟨_, hin⟩ := hd.inPort
  obtain ⟨inPort, hin, -⟩ := htypes.portTypes.exists_value hin
  obtain ⟨_, hout⟩ := hd.outPort
  obtain ⟨outPort, hout, -⟩ := htypes.portTypes.exists_value hout
  obtain ⟨_, hwire⟩ := hd.wire
  obtain ⟨wire, hwire, -⟩ := htypes.connectionTypes.exists_value hwire
  obtain ⟨_, hinput, hinputPorts⟩ := hd.inputPin
  obtain ⟨inputPin, hinput, -, hinputLists⟩ := htypes.nodeTypes.exists_value hinput
  obtain ⟨_, houtput, houtputPorts⟩ := hd.outputPin
  obtain ⟨outputPin, houtput, -, houtputLists⟩ := htypes.nodeTypes.exists_value houtput
  obtain ⟨_, hregister, hregisterPorts, hattributes⟩ := hd.register
  obtain ⟨register, hregister, hdeclares, hregisterLists⟩ := htypes.nodeTypes.exists_value hregister
  refine ⟨⟨inPort, outPort, wire, inputPin, outputPin, register⟩, {
    standard := ?_
    inPort := hin
    outPort := hout
    wire := hwire
    inputPin := hinput
    outputPin := houtput
    register := hregister }⟩
  exact {
    inPort_ne_outPort := htypes.portOnce.ne hin hout (by decide)
    inputPin_ne_outputPin := htypes.nodeOnce.ne hinput houtput (by decide)
    inputPin_ne_register := htypes.nodeOnce.ne hinput hregister (by decide)
    outputPin_ne_register := htypes.nodeOnce.ne houtput hregister (by decide)
    find?_inputPin := by
      intro port
      rw [find?_ports hinputLists hinputPorts, lookup_cons_eq_ite]
      by_cases hport : port = "out" <;> simp [hport, hout]
    find?_outputPin := by
      intro port
      rw [find?_ports houtputLists houtputPorts, lookup_cons_eq_ite]
      by_cases hport : port = "in" <;> simp [hport, hin]
    find?_register := by
      intro port
      rw [find?_ports hregisterLists hregisterPorts]
      simp only [lookup_cons_eq_ite, List.lookup_nil]
      by_cases houtPort : port = "out"
      · simp [houtPort, hout]
      · by_cases hreset : port = "reset"
        · simp [hreset, hin]
        · by_cases hclock : port = "clock"
          · simp [hclock, hin]
          · by_cases hinPort : port = "in" <;> simp [houtPort, hreset, hclock, hinPort, hin]
    find?_registerAttributes := by
      intro e he
      exact (OrderedMap.lists_eq_iff.1 hdeclares.1 e.1).trans (hattributes e he) }

/-- An input pin, in a document with other types before and between those of the vocabulary. -/
def probe : Document where
  name := "probe"
  portTypes := .ofList [("analog", {}), ("digitalIn", {}), ("digitalOut", {})]
  nodeTypes := .ofList
    [("register",
      { attributes := .ofList [("resetActiveHigh", .bool), ("initialValue", .bool),
          ("clockActiveHigh", .bool), ("resetAsynchronous", .bool), ("vendor", .string)]
        ports := .ofList [("in", "digitalIn"), ("out", "digitalOut"), ("reset", "digitalIn"),
          ("clock", "digitalIn")] }),
     ("meter", { ports := .ofList [("in", "analog")] }),
     ("inputPin", { ports := .ofList [("out", "digitalOut")] }),
     ("outputPin", { ports := .ofList [("in", "digitalIn")] })]
  connectionTypes := .ofList [("lead", {}), ("digitalWire", {})]
  nodes := .ofList [("a", { type := "inputPin" })]

theorem speaks_of_toSchematic_probe :
    ∃ s c, probe.toSchematic {} = .ok (s, c) ∧ ∃ types, s.Speaks types := by
  have hlists : probe.ListsVocabulary :=
    ⟨⟨_, rfl⟩, ⟨_, rfl⟩, ⟨_, rfl⟩, ⟨_, rfl, by decide⟩, ⟨_, rfl, by decide⟩,
      ⟨_, rfl, by decide, by decide⟩⟩
  obtain ⟨⟨s, c⟩, hprobe⟩ : ∃ r, probe.toSchematic {} = .ok r :=
    Outcome.exists_ok (by decide +kernel)
  exact ⟨s, c, hprobe, speaks_of_toSchematic hlists hprobe⟩

end Document

end Netlister
