import Mathlib.Data.List.Induction
import Netlister.Netlist.Build
import Netlister.Proofs.Schematic.Vocabulary

/-! # Nets and the wires they come from

  A netlist is grown wire by wire, so what is to be known about it is an
  invariant of the wires taken so far:

  - no port is on two nets, or twice on one;
  - no two nets come from one wire, and the wire of a net has both ends on it;
  - exactly the ends of wires are on nets.

  `connect_cases` says all that one wire can do, `Represents.connect` is the step
  and `represents_foldl` the run. `build_eq_ok` ties it to schematics: a schematic
  with a netlist passes all conditions, and the netlist is that of its connections.
-/

namespace Netlister.Netlist

/-! ### What one wire can do -/

/-- No net has the port. -/
def Free (n : Netlist) (p : PortRef) : Prop := ∀ net ∈ n.nets, p ∉ net.ports

/-- A net with one more port. -/
def grow (net : Net) (p : PortRef) : Net := { net with ports := net.ports ++ [p] }

/-- The net that a wire between two free ports makes. -/
def newNet (c : Connection) : Net :=
  ⟨c.name, if c.source = c.target then [c.source] else [c.source, c.target]⟩

theorem mem_ports_newNet {c : Connection} {p : PortRef} :
    p ∈ (newNet c).ports ↔ p = c.source ∨ p = c.target := by
  by_cases h : c.source = c.target
  · simp [newNet, h]
  · simp [newNet, h]

theorem nodup_ports_newNet (c : Connection) : (newNet c).ports.Nodup := by
  by_cases h : c.source = c.target
  · simp [newNet, h]
  · simp [newNet, h]

/-- A port has no net iff it is free. -/
theorem netOf?_eq_none_iff {n : Netlist} {p : PortRef} : n.netOf? p = none ↔ n.Free p := by
  simp [netOf?, Free]

/-- A net that is found is there and has the port. -/
theorem mem_of_netOf? {n : Netlist} {p : PortRef} {net : Net} (h : n.netOf? p = some net) :
    net ∈ n.nets ∧ p ∈ net.ports :=
  ⟨List.mem_of_find?_eq_some h, by simpa using List.find?_some h⟩

/-- All that a wire can do: make a net of two free ports, bring a free port to the
    net of the other end, or find a net at either end. -/
theorem connect_cases (n : Netlist) (c : Connection) :
    (n.Free c.source ∧ n.Free c.target ∧
      n.connect c = { n with nets := n.nets ++ [newNet c] }) ∨
    (∃ net ∈ n.nets, ∃ p q, (p = c.source ∧ q = c.target ∨ p = c.target ∧ q = c.source) ∧
      p ∈ net.ports ∧ n.Free q ∧ n.connect c = n.join net q) ∨
    (∃ a ∈ n.nets, ∃ b ∈ n.nets, c.source ∈ a.ports ∧ c.target ∈ b.ports ∧
      (a = b ∧ n.connect c = n ∨
       a ≠ b ∧ n.connect c = { n with unmerged := n.unmerged ++ [⟨c.name, a.name, b.name⟩] })) := by
  unfold connect
  cases hsource : n.netOf? c.source with
  | none =>
    cases htarget : n.netOf? c.target with
    | none =>
      exact .inl ⟨netOf?_eq_none_iff.1 hsource, netOf?_eq_none_iff.1 htarget, rfl⟩
    | some net =>
      obtain ⟨hmem, hport⟩ := mem_of_netOf? htarget
      exact .inr (.inl ⟨net, hmem, _, _, .inr ⟨rfl, rfl⟩, hport, netOf?_eq_none_iff.1 hsource, rfl⟩)
  | some a =>
    obtain ⟨ha, hsourcePort⟩ := mem_of_netOf? hsource
    cases htarget : n.netOf? c.target with
    | none =>
      exact .inr (.inl
        ⟨a, ha, _, _, .inl ⟨rfl, rfl⟩, hsourcePort, netOf?_eq_none_iff.1 htarget, rfl⟩)
    | some b =>
      obtain ⟨hb, htargetPort⟩ := mem_of_netOf? htarget
      refine .inr (.inr ⟨a, ha, b, hb, hsourcePort, htargetPort, ?_⟩)
      by_cases hab : a = b
      · exact .inl ⟨hab, if_pos hab⟩
      · exact .inr ⟨hab, if_neg hab⟩

/-- The nets after a port was brought to one of them. -/
theorem mem_nets_join {n : Netlist} {net other : Net} {p : PortRef} :
    other ∈ (n.join net p).nets ↔
      net ∈ n.nets ∧ other = grow net p ∨ other ∈ n.nets ∧ other ≠ net := by
  simp only [join, List.mem_map]
  constructor
  · rintro ⟨old, hold, rfl⟩
    by_cases h : old = net
    · subst h
      exact .inl ⟨hold, if_pos rfl⟩
    · rw [if_neg h]
      exact .inr ⟨hold, h⟩
  · rintro (⟨hnet, rfl⟩ | ⟨hother, hne⟩)
    · exact ⟨net, hnet, if_pos rfl⟩
    · exact ⟨other, hother, if_neg hne⟩

/-- Bringing a port to a net changes no wire. -/
theorem map_wire_join (n : Netlist) (net : Net) (p : PortRef) :
    (n.join net p).nets.map (·.wire) = n.nets.map (·.wire) := by
  simp only [join, List.map_map]
  refine List.map_congr_left fun other _ => ?_
  by_cases h : other = net
  · simp [h]
  · simp [h]

/-! ### What wires keep -/

/-- What holds of the nets that the wires `cs` make. -/
structure Represents (n : Netlist) (cs : List Connection) : Prop where
  /-- No port is twice on a net. -/
  once : ∀ net ∈ n.nets, net.ports.Nodup
  /-- No port is on two nets. -/
  apart : ∀ a ∈ n.nets, ∀ b ∈ n.nets, ∀ p, p ∈ a.ports → p ∈ b.ports → a = b
  /-- No two nets come from one wire. -/
  wires : (n.nets.map (·.wire)).Nodup
  /-- A net comes from a wire with both ends on it. -/
  made : ∀ net ∈ n.nets, ∃ c ∈ cs, c.name = net.wire ∧ c.source ∈ net.ports ∧ c.target ∈ net.ports
  /-- Only ends of wires are on nets. -/
  ends : ∀ net ∈ n.nets, ∀ p ∈ net.ports, ∃ c ∈ cs, p = c.source ∨ p = c.target
  /-- Both ends of every wire are on nets. -/
  covers : ∀ c ∈ cs, ¬ n.Free c.source ∧ ¬ n.Free c.target

/-- Without wires there are no nets. -/
theorem represents_nil (inPort outPort : PortType) : Represents ⟨inPort, outPort, [], []⟩ [] := by
  constructor <;> simp

/-- A port is not free iff some net has it. -/
theorem not_free_iff {n : Netlist} {p : PortRef} : ¬ n.Free p ↔ ∃ net ∈ n.nets, p ∈ net.ports := by
  simp [Free]

section Step

variable {n : Netlist} {cs : List Connection} {c : Connection}

/-- Facts about wires that speak of earlier wires only speak of the later ones too. -/
theorem exists_mem_concat {P : Connection → Prop} (h : ∃ d ∈ cs, P d) : ∃ d ∈ cs ++ [c], P d := by
  obtain ⟨d, hd, hP⟩ := h
  exact ⟨d, List.mem_append_left _ hd, hP⟩

/-- A wire between two free ports. -/
theorem Represents.create (h : n.Represents cs) (hname : c.name ∉ cs.map (·.name))
    (hsource : n.Free c.source) (htarget : n.Free c.target) :
    Represents { n with nets := n.nets ++ [newNet c] } (cs ++ [c]) := by
  have hfree : ∀ net ∈ n.nets, ∀ p ∈ (newNet c).ports, p ∉ net.ports := by
    intro net hnet p hp
    rcases mem_ports_newNet.1 hp with rfl | rfl
    · exact hsource net hnet
    · exact htarget net hnet
  have hself : c ∈ cs ++ [c] := List.mem_append_right _ List.mem_cons_self
  refine ⟨?_, ?_, ?_, ?_, ?_, ?_⟩
  · exact List.forall_mem_append.2 ⟨h.once, List.forall_mem_singleton.2 (nodup_ports_newNet c)⟩
  · intro a ha b hb p hpa hpb
    rcases List.mem_append.1 ha with ha | ha <;> rcases List.mem_append.1 hb with hb | hb
    · exact h.apart a ha b hb p hpa hpb
    · rw [List.mem_singleton] at hb
      exact absurd hpa (hfree a ha p (hb ▸ hpb))
    · rw [List.mem_singleton] at ha
      exact absurd hpb (hfree b hb p (ha ▸ hpa))
    · rw [List.mem_singleton.1 ha, List.mem_singleton.1 hb]
  · -- The wire of an old net is an old wire, so the new name differs from all of them.
    rw [List.map_append, List.nodup_append]
    refine ⟨h.wires, List.nodup_singleton _, ?_⟩
    intro x hx y hy hxy
    obtain ⟨net, hnet, rfl⟩ := List.mem_map.1 hx
    obtain ⟨d, hd, hdname, -⟩ := h.made net hnet
    rw [List.map_singleton, List.mem_singleton] at hy
    exact hname (List.mem_map.2 ⟨d, hd, hdname.trans (hxy.trans hy)⟩)
  · refine List.forall_mem_append.2 ⟨fun net hnet => exists_mem_concat (h.made net hnet), ?_⟩
    refine List.forall_mem_singleton.2 ⟨c, hself, rfl, ?_, ?_⟩
    · exact mem_ports_newNet.2 (.inl rfl)
    · exact mem_ports_newNet.2 (.inr rfl)
  · refine List.forall_mem_append.2 ⟨fun net hnet p hp => exists_mem_concat (h.ends net hnet p hp), ?_⟩
    exact List.forall_mem_singleton.2 fun p hp => ⟨c, hself, mem_ports_newNet.1 hp⟩
  · intro d hd
    have hnew : newNet c ∈ n.nets ++ [newNet c] := List.mem_append_right _ List.mem_cons_self
    rcases List.mem_append.1 hd with hd | hd
    · obtain ⟨hs, ht⟩ := h.covers d hd
      obtain ⟨a, ha, hsa⟩ := not_free_iff.1 hs
      obtain ⟨b, hb, htb⟩ := not_free_iff.1 ht
      exact ⟨not_free_iff.2 ⟨a, List.mem_append_left _ ha, hsa⟩,
        not_free_iff.2 ⟨b, List.mem_append_left _ hb, htb⟩⟩
    · rw [List.mem_singleton.1 hd]
      exact ⟨not_free_iff.2 ⟨_, hnew, mem_ports_newNet.2 (.inl rfl)⟩,
        not_free_iff.2 ⟨_, hnew, mem_ports_newNet.2 (.inr rfl)⟩⟩

/-- What was on a net is on one after a port was brought to some net, and so is
    that port. -/
theorem not_free_join {net : Net} {p q : PortRef} (hnet : net ∈ n.nets)
    (h : ¬ n.Free p ∨ p = q) : ¬ (n.join net q).Free p := by
  rw [not_free_iff]
  rcases h with h | rfl
  · obtain ⟨a, ha, hpa⟩ := not_free_iff.1 h
    by_cases hne : a = net
    · exact ⟨grow net q, mem_nets_join.2 (.inl ⟨hnet, rfl⟩), List.mem_append_left _ (hne ▸ hpa)⟩
    · exact ⟨a, mem_nets_join.2 (.inr ⟨ha, hne⟩), hpa⟩
  · exact ⟨grow net p, mem_nets_join.2 (.inl ⟨hnet, rfl⟩),
      List.mem_append_right _ List.mem_cons_self⟩

/-- A wire from a net to a free port. -/
theorem Represents.join (h : n.Represents cs) {net : Net} (hnet : net ∈ n.nets) {p q : PortRef}
    (hends : p = c.source ∧ q = c.target ∨ p = c.target ∧ q = c.source) (hp : p ∈ net.ports)
    (hq : n.Free q) : Represents (n.join net q) (cs ++ [c]) := by
  have hself : c ∈ cs ++ [c] := List.mem_append_right _ List.mem_cons_self
  have hgrow : ∀ {r}, r ∈ (grow net q).ports ↔ r ∈ net.ports ∨ r = q := by
    intro r
    simp [grow]
  refine ⟨?_, ?_, ?_, ?_, ?_, ?_⟩
  · intro a ha
    rcases mem_nets_join.1 ha with ⟨-, rfl⟩ | ⟨ha, -⟩
    · refine List.nodup_append.2 ⟨h.once net hnet, List.nodup_singleton _, ?_⟩
      intro r hr r' hr' heq
      rw [List.mem_singleton] at hr'
      exact hq net hnet (hr' ▸ heq ▸ hr)
    · exact h.once a ha
  · intro a ha b hb r hra hrb
    rcases mem_nets_join.1 ha with ⟨-, rfl⟩ | ⟨hold, hne⟩ <;>
      rcases mem_nets_join.1 hb with ⟨-, rfl⟩ | ⟨hold', hne'⟩
    · rfl
    · rcases hgrow.1 hra with hra | rfl
      · exact absurd (h.apart b hold' net hnet r hrb hra) hne'
      · exact absurd hrb (hq b hold')
    · rcases hgrow.1 hrb with hrb | rfl
      · exact absurd (h.apart a hold net hnet r hra hrb) hne
      · exact absurd hra (hq a hold)
    · exact h.apart a hold b hold' r hra hrb
  · rw [map_wire_join]
    exact h.wires
  · intro a ha
    rcases mem_nets_join.1 ha with ⟨-, rfl⟩ | ⟨ha, -⟩
    · obtain ⟨d, hd, hname, hs, ht⟩ := h.made net hnet
      exact ⟨d, List.mem_append_left _ hd, hname, hgrow.2 (.inl hs), hgrow.2 (.inl ht)⟩
    · exact exists_mem_concat (h.made a ha)
  · intro a ha r hr
    rcases mem_nets_join.1 ha with ⟨-, rfl⟩ | ⟨ha, -⟩
    · rcases hgrow.1 hr with hr | rfl
      · exact exists_mem_concat (h.ends net hnet r hr)
      · rcases hends with ⟨-, hend⟩ | ⟨-, hend⟩
        · exact ⟨c, hself, .inr hend⟩
        · exact ⟨c, hself, .inl hend⟩
    · exact exists_mem_concat (h.ends a ha r hr)
  · intro d hd
    rcases List.mem_append.1 hd with hd | hd
    · obtain ⟨hs, ht⟩ := h.covers d hd
      exact ⟨not_free_join hnet (.inl hs), not_free_join hnet (.inl ht)⟩
    · have hpnet : ¬ n.Free p := not_free_iff.2 ⟨net, hnet, hp⟩
      rw [List.mem_singleton.1 hd]
      rcases hends with ⟨rfl, rfl⟩ | ⟨rfl, rfl⟩
      · exact ⟨not_free_join hnet (.inl hpnet), not_free_join hnet (.inr rfl)⟩
      · exact ⟨not_free_join hnet (.inr rfl), not_free_join hnet (.inl hpnet)⟩

/-- A wire with a net at either end changes no net. -/
theorem Represents.keep (h : n.Represents cs) (hsource : ¬ n.Free c.source)
    (htarget : ¬ n.Free c.target) : n.Represents (cs ++ [c]) where
  once := h.once
  apart := h.apart
  wires := h.wires
  made := fun net hnet => exists_mem_concat (h.made net hnet)
  ends := fun net hnet p hp => exists_mem_concat (h.ends net hnet p hp)
  covers := List.forall_mem_append.2 ⟨h.covers, List.forall_mem_singleton.2 ⟨hsource, htarget⟩⟩

/-- One more wire, with a new name. -/
theorem Represents.connect (h : n.Represents cs) (hname : c.name ∉ cs.map (·.name)) :
    (n.connect c).Represents (cs ++ [c]) := by
  rcases n.connect_cases c with ⟨hs, ht, heq⟩ | ⟨net, hnet, p, q, hends, hp, hq, heq⟩ |
    ⟨a, ha, b, hb, hs, ht, hab⟩
  · rw [heq]
    exact h.create hname hs ht
  · rw [heq]
    exact h.join hnet hends hp hq
  · have hkeep := h.keep (c := c) (not_free_iff.2 ⟨a, ha, hs⟩) (not_free_iff.2 ⟨b, hb, ht⟩)
    rcases hab with ⟨-, heq⟩ | ⟨-, heq⟩
    · rw [heq]
      exact hkeep
    · -- Recording a wire as unmerged leaves the nets alone.
      rw [heq]
      exact ⟨hkeep.once, hkeep.apart, hkeep.wires, hkeep.made, hkeep.ends, hkeep.covers⟩

end Step

/-- All wires, with different names. -/
theorem represents_foldl (inPort outPort : PortType) {cs : List Connection}
    (h : (cs.map (·.name)).Nodup) :
    (cs.foldl connect ⟨inPort, outPort, [], []⟩).Represents cs := by
  induction cs using List.reverseRecOn with
  | nil => exact represents_nil inPort outPort
  | append_singleton cs c ih =>
    rw [List.map_append, List.nodup_append] at h
    obtain ⟨hcs, -, hnew⟩ := h
    rw [List.foldl_concat]
    refine (ih hcs).connect ?_
    intro hmem
    exact hnew c.name hmem c.name List.mem_cons_self rfl

/-! ### Finding nets -/

namespace Represents

variable {n : Netlist} {cs : List Connection}

/-- The net of a port is found iff the port is on it. -/
theorem netOf?_eq_some_iff (h : n.Represents cs) {p : PortRef} {net : Net} :
    n.netOf? p = some net ↔ net ∈ n.nets ∧ p ∈ net.ports := by
  constructor
  · exact mem_of_netOf?
  · rintro ⟨hmem, hport⟩
    cases hfind : n.netOf? p with
    | none => exact absurd hport (netOf?_eq_none_iff.1 hfind net hmem)
    | some other =>
      obtain ⟨hother, hport'⟩ := mem_of_netOf? hfind
      rw [h.apart other hother net hmem p hport' hport]

/-- Nets of one wire are one net. -/
theorem eq_of_wire_eq (h : n.Represents cs) {a b : Net} (ha : a ∈ n.nets) (hb : b ∈ n.nets)
    (hab : a.wire = b.wire) : a = b :=
  List.inj_on_of_nodup_map h.wires ha hb hab

/-- Every net has a port. -/
theorem exists_port (h : n.Represents cs) {net : Net} (hnet : net ∈ n.nets) :
    ∃ p, p ∈ net.ports := by
  obtain ⟨c, -, -, hsource, -⟩ := h.made net hnet
  exact ⟨c.source, hsource⟩

/-- No net is listed twice. -/
theorem nodup_nets (h : n.Represents cs) : n.nets.Nodup :=
  List.Nodup.of_map _ h.wires

end Represents

/-! ### Netlists of schematics -/

/-- A schematic with a netlist passes all conditions, and its netlist is that of
    its connections. -/
theorem build_eq_ok {s : Schematic} {n : Netlist} :
    (build s).result = .ok n ↔
      ∃ v, vocabulary s = .ok v ∧ (∀ node ∈ s.nodes, checkNode s node = .ok ()) ∧
        (∀ c ∈ s.connections, checkConnection s v c = .ok ()) ∧
        n = s.connections.foldl connect ⟨v.inPort, v.outPort, [], []⟩ := by
  have hloop (v : Vocabulary) (start : Netlist) :
      (s.connections.foldlM (addConnection s v) start).result = .ok n ↔
        (∀ c ∈ s.connections, checkConnection s v c = .ok ()) ∧
          n = s.connections.foldl connect start := by
    refine Outcome.foldlM_checked ?_
    intro m c
    simp only [addConnection, Logged.result_bind, Logged.result_reportAll, Logged.result_pure]
    show (checkConnection s v c >>= fun _ => Except.ok (m.connect c)) = _
    cases checkConnection s v c <;> rfl
  unfold build
  simp only [Logged.result_bind, Outcome.bind_eq_ok]
  constructor
  · rintro ⟨v, hv, _, hnodes, m, hm, _, -, h⟩
    cases h
    obtain ⟨hchecks, hn⟩ := (hloop v _).1 hm
    exact ⟨v, hv, Outcome.forM_eq_ok.1 hnodes, hchecks, hn⟩
  · rintro ⟨v, hv, hnodes, hchecks, hn⟩
    exact ⟨v, hv, (), Outcome.forM_eq_ok.2 hnodes, n, (hloop v _).2 ⟨hchecks, hn⟩, (), rfl, rfl⟩

/-- The netlist of a consistent schematic represents its connections. -/
theorem represents_of_build {s : Schematic} {n : Netlist} (hs : s.Consistent)
    (h : (build s).result = .ok n) : n.Represents s.connections := by
  obtain ⟨v, -, -, -, rfl⟩ := build_eq_ok.1 h
  exact represents_foldl v.inPort v.outPort hs.connectionNames

/-- Wires do not change what ports are recognised by. -/
theorem types_foldl_connect (cs : List Connection) (n : Netlist) :
    (cs.foldl connect n).inPort = n.inPort ∧ (cs.foldl connect n).outPort = n.outPort := by
  induction cs generalizing n with
  | nil => exact ⟨rfl, rfl⟩
  | cons c cs ih =>
    have hstep : (n.connect c).inPort = n.inPort ∧ (n.connect c).outPort = n.outPort := by
      rcases n.connect_cases c with ⟨-, -, heq⟩ | ⟨net, -, p, q, -, -, -, heq⟩ |
        ⟨a, -, b, -, -, -, ⟨-, heq⟩ | ⟨-, heq⟩⟩
      all_goals rw [heq]; exact ⟨rfl, rfl⟩
    rw [List.foldl_cons, (ih _).1, (ih _).2]
    exact hstep

theorem requireBoth_eq_ok {α : Type} {scope : Schematic.Scope} {m : NameMap α} {a b : String}
    {found : α × α} : requireBoth scope m a b = .ok found ↔
      m.find? a = some found.1 ∧ m.find? b = some found.2 := by
  unfold requireBoth
  cases m.find? a <;> cases m.find? b <;> simp [Prod.ext_iff]

/-- The digital vocabulary is what its names are registered for. -/
theorem vocabulary_eq_ok {s : Schematic} {v : Vocabulary} :
    vocabulary s = .ok v ↔
      s.portTypes.find? Digital.inPort = some v.inPort ∧
      s.portTypes.find? Digital.outPort = some v.outPort ∧
      s.nodeTypes.contains Digital.inputPin ∧ s.nodeTypes.contains Digital.outputPin ∧
      s.connectionTypes.find? Digital.wire = some v.wire := by
  unfold vocabulary
  constructor
  · intro h
    obtain ⟨ports, hports, h⟩ := Outcome.bind_eq_ok.1 h
    obtain ⟨pins, hpins, h⟩ := Outcome.bind_eq_ok.1 h
    obtain ⟨hin, hout⟩ := requireBoth_eq_ok.1 hports
    obtain ⟨hinput, houtput⟩ := requireBoth_eq_ok.1 hpins
    cases hwire : s.connectionTypes.find? Digital.wire with
    | none =>
      rw [hwire] at h
      cases h
    | some wire =>
      rw [hwire] at h
      cases h
      exact ⟨hin, hout, Option.isSome_of_eq_some hinput, Option.isSome_of_eq_some houtput, rfl⟩
  · rintro ⟨hin, hout, hinput, houtput, hwire⟩
    obtain ⟨inputPin, hinput⟩ := Option.isSome_iff_exists.1 hinput
    obtain ⟨outputPin, houtput⟩ := Option.isSome_iff_exists.1 houtput
    have hports : requireBoth .portTypes s.portTypes Digital.inPort Digital.outPort =
        .ok (v.inPort, v.outPort) := requireBoth_eq_ok.2 ⟨hin, hout⟩
    have hpins : requireBoth .nodeTypes s.nodeTypes Digital.inputPin Digital.outputPin =
        .ok (inputPin, outputPin) := requireBoth_eq_ok.2 ⟨hinput, houtput⟩
    rw [hports, hpins, hwire]
    rfl

/-- A netlist recognises ports by the types that are registered for them. -/
theorem find?_of_build {s : Schematic} {n : Netlist} (h : (build s).result = .ok n) :
    s.portTypes.find? Digital.inPort = some n.inPort ∧
      s.portTypes.find? Digital.outPort = some n.outPort := by
  obtain ⟨v, hv, -, -, rfl⟩ := build_eq_ok.1 h
  obtain ⟨hin, hout, -⟩ := vocabulary_eq_ok.1 hv
  rw [(types_foldl_connect _ _).1, (types_foldl_connect _ _).2]
  exact ⟨hin, hout⟩

/-- Names in the digital vocabulary stand for its declarations. -/
theorem vocabulary_of_speaks {s : Schematic} {d : DigitalTypes} (hd : s.Speaks d) :
    vocabulary s = .ok ⟨d.inPort, d.outPort, d.wire⟩ := by
  simp only [vocabulary, requireBoth, hd.inPort, hd.outPort, hd.inputPin, hd.outputPin, hd.wire,
    bind, Except.bind, pure, Except.pure]

/-- Ports that take and give a bit are recognised by the declarations of the vocabulary. -/
theorem types_of_build {s : Schematic} {n : Netlist} {d : DigitalTypes} (hd : s.Speaks d)
    (h : (build s).result = .ok n) : n.inPort = d.inPort ∧ n.outPort = d.outPort := by
  obtain ⟨v, hv, -, -, rfl⟩ := build_eq_ok.1 h
  rw [vocabulary_of_speaks hd] at hv
  cases hv
  exact types_foldl_connect _ _

theorem outPort_of_build {s : Schematic} {n : Netlist} {d : DigitalTypes} (hd : s.Speaks d)
    (h : (build s).result = .ok n) : n.outPort = d.outPort :=
  (types_of_build hd h).2

/-- An end of a connection is accepted iff it takes a bit or gives one. -/
theorem checkEnd_eq_ok {s : Schematic} {v : Vocabulary} {c : Connection} {side : Side}
    {p : PortRef} : checkEnd s v c side p = .ok () ↔
      (s.port? p).map (·.type) = some v.inPort ∨ (s.port? p).map (·.type) = some v.outPort := by
  constructor
  · intro h
    by_contra hother
    have herror : checkEnd s v c side p = .error _ := if_neg hother
    rw [herror] at h
    cases h
  · intro h
    exact if_pos h

/-- A connection is accepted iff it is a wire and both its ends are accepted. -/
theorem checkConnection_eq_ok {s : Schematic} {v : Vocabulary} {c : Connection} :
    checkConnection s v c = .ok () ↔
      (s.connectionTypeName? c.type).isSome ∧ c.type = v.wire ∧
        checkEnd s v c .source c.source = .ok () ∧ checkEnd s v c .target c.target = .ok () := by
  unfold checkConnection
  cases s.connectionTypeName? c.type with
  | none => simp [throw, throwThe, MonadExceptOf.throw]
  | some actual =>
    by_cases hwire : c.type = v.wire
    · simp [hwire, Outcome.check_bind_eq_ok]
    · simp [hwire, throw, throwThe, MonadExceptOf.throw]

/-- The ends of a connection that was accepted take a bit or give one. -/
theorem type_of_checkConnection {s : Schematic} {v : Vocabulary} {c : Connection}
    (h : checkConnection s v c = .ok ()) {p : PortRef} (hp : p = c.source ∨ p = c.target) :
    (s.port? p).map (·.type) = some v.inPort ∨ (s.port? p).map (·.type) = some v.outPort := by
  obtain ⟨-, -, hsource, htarget⟩ := checkConnection_eq_ok.1 h
  rcases hp with rfl | rfl
  · exact checkEnd_eq_ok.1 hsource
  · exact checkEnd_eq_ok.1 htarget

/-- The ends of a connection that was accepted are ports of the schematic. -/
theorem exists_port_of_checkConnection {s : Schematic} {v : Vocabulary} {c : Connection}
    (h : checkConnection s v c = .ok ()) {p : PortRef} (hp : p = c.source ∨ p = c.target) :
    ∃ port, s.port? p = some port := by
  rcases type_of_checkConnection h hp with htype | htype
  · obtain ⟨port, hport, -⟩ := Option.map_eq_some_iff.1 htype
    exact ⟨port, hport⟩
  · obtain ⟨port, hport, -⟩ := Option.map_eq_some_iff.1 htype
    exact ⟨port, hport⟩

/-- Every port on a net is a port of the schematic. -/
theorem exists_port_of_build {s : Schematic} {n : Netlist} (hs : s.Consistent)
    (h : (build s).result = .ok n) {net : Net} (hnet : net ∈ n.nets) {p : PortRef}
    (hp : p ∈ net.ports) : ∃ port, s.port? p = some port := by
  obtain ⟨c, hc, hend⟩ := (represents_of_build hs h).ends net hnet p hp
  obtain ⟨v, -, -, hchecks, -⟩ := build_eq_ok.1 h
  exact exists_port_of_checkConnection (hchecks c hc) hend

end Netlister.Netlist
