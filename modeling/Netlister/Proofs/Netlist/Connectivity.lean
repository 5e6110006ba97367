import Mathlib.Logic.Relation
import Netlister.Proofs.Netlist.Nets

/-! # Nets and connectivity

  Nets are never merged, so two ports that wires join may be on different nets.
  What a netlist then knows is the unmerged wire between the nets:

  - ports of one net are joined by wires;
  - ports joined by wires are on one net, or on nets that a chain of unmerged
    wires links.

  The proof follows the wires in order. The invariant `Connects` speaks of nets by
  name, since a net keeps its name while it grows.
-/

namespace Netlister

/-- Two ports are joined by a chain of wires, each taken in either direction. -/
def Chained (cs : List Connection) : PortRef → PortRef → Prop :=
  Relation.EqvGen fun p q => ∃ c ∈ cs, c.source = p ∧ c.target = q

/-- A wire joins its ends. -/
theorem chained_ends {cs : List Connection} {c : Connection} :
    Chained (cs ++ [c]) c.source c.target :=
  .rel _ _ ⟨c, List.mem_append_right _ List.mem_cons_self, rfl, rfl⟩

/-- One more wire leaves joined what was joined. -/
theorem Chained.concat {cs : List Connection} {c : Connection} {p q : PortRef}
    (h : Chained cs p q) : Chained (cs ++ [c]) p q := by
  refine Relation.EqvGen.mono ?_ p q h
  rintro a b ⟨d, hd, hab⟩
  exact ⟨d, List.mem_append_left _ hd, hab⟩

namespace Netlist

/-- Two nets, given by name, are linked by a chain of unmerged wires, each taken
    in either direction. -/
def Linked (n : Netlist) : String → String → Prop :=
  Relation.EqvGen fun a b => ∃ u ∈ n.unmerged, u.sourceNet = a ∧ u.targetNet = b

/-- A port is on the net with a name. -/
def On (n : Netlist) (p : PortRef) (name : String) : Prop :=
  ∃ net ∈ n.nets, net.name = name ∧ p ∈ net.ports

/-- Nets with one name come from one wire. -/
theorem wire_eq_of_name_eq {a b : Net} (h : a.name = b.name) : a.wire = b.wire :=
  (String.append_right_inj "n_").1 h

/-- What holds of the nets and unmerged wires that the wires `cs` make. -/
structure Connects (n : Netlist) (cs : List Connection) : Prop where
  /-- Ports of one net are joined by wires. -/
  joined : ∀ name p q, n.On p name → n.On q name → Chained cs p q
  /-- An unmerged wire lies between ports of its nets. -/
  bridged : ∀ u ∈ n.unmerged, ∃ p q, n.On p u.sourceNet ∧ n.On q u.targetNet ∧ Chained cs p q
  /-- The ends of a wire are on linked nets. -/
  linked : ∀ c ∈ cs, ∃ a b, n.On c.source a ∧ n.On c.target b ∧ n.Linked a b

section Step

variable {n : Netlist} {cs : List Connection} {c : Connection}

/-- The ports on nets after a wire between two free ports. -/
theorem on_create {p : PortRef} {name : String} :
    On { n with nets := n.nets ++ [newNet c] } p name ↔
      n.On p name ∨ (newNet c).name = name ∧ (p = c.source ∨ p = c.target) := by
  simp only [On, List.mem_append, List.mem_singleton, or_and_right, exists_or, exists_eq_left,
    mem_ports_newNet]

/-- The ports on nets after a port was brought to one. -/
theorem on_join {net : Net} (hnet : net ∈ n.nets) {p q : PortRef} {name : String} :
    On (n.join net q) p name ↔ n.On p name ∨ net.name = name ∧ p = q := by
  constructor
  · rintro ⟨other, hother, hname, hp⟩
    rcases mem_nets_join.1 hother with ⟨-, rfl⟩ | ⟨hother, -⟩
    · rcases List.mem_append.1 hp with hp | hp
      · exact .inl ⟨net, hnet, hname, hp⟩
      · exact .inr ⟨hname, List.mem_singleton.1 hp⟩
    · exact .inl ⟨other, hother, hname, hp⟩
  · have hgrown : grow net q ∈ (n.join net q).nets := mem_nets_join.2 (.inl ⟨hnet, rfl⟩)
    rintro (⟨other, hother, hname, hp⟩ | ⟨hname, rfl⟩)
    · by_cases h : other = net
      · exact ⟨grow net q, hgrown, h ▸ hname, List.mem_append_left _ (h ▸ hp)⟩
      · exact ⟨other, mem_nets_join.2 (.inr ⟨hother, h⟩), hname, hp⟩
    · exact ⟨grow net p, hgrown, hname, List.mem_append_right _ List.mem_cons_self⟩

/-- A wire between two free ports. -/
theorem Connects.create (hr : n.Represents cs) (h : n.Connects cs)
    (hname : c.name ∉ cs.map (·.name)) :
    Connects { n with nets := n.nets ++ [newNet c] } (cs ++ [c]) := by
  -- The name of the new net is new, so no port was on a net of that name.
  have hfresh : ∀ p, ¬ n.On p (newNet c).name := by
    rintro p ⟨net, hnet, heq, -⟩
    obtain ⟨d, hd, hdname, -⟩ := hr.made net hnet
    exact hname (List.mem_map.2 ⟨d, hd, hdname.trans (wire_eq_of_name_eq heq)⟩)
  refine ⟨?_, ?_, ?_⟩
  · intro name p q hp hq
    rcases on_create.1 hp with hold | ⟨hnew, hend⟩ <;>
      rcases on_create.1 hq with hold' | ⟨hnew', hend'⟩
    · exact Chained.concat (h.joined name p q hold hold')
    · exact absurd (hnew' ▸ hold) (hfresh p)
    · exact absurd (hnew ▸ hold') (hfresh q)
    · rcases hend with rfl | rfl <;> rcases hend' with rfl | rfl
      · exact .refl _
      · exact chained_ends
      · exact .symm _ _ chained_ends
      · exact .refl _
  · intro u hu
    obtain ⟨p, q, hp, hq, hpq⟩ := h.bridged u hu
    exact ⟨p, q, on_create.2 (.inl hp), on_create.2 (.inl hq), Chained.concat hpq⟩
  · refine List.forall_mem_append.2 ⟨?_, List.forall_mem_singleton.2 ?_⟩
    · intro d hd
      obtain ⟨a, b, ha, hb, hab⟩ := h.linked d hd
      exact ⟨a, b, on_create.2 (.inl ha), on_create.2 (.inl hb), hab⟩
    · exact ⟨(newNet c).name, (newNet c).name, on_create.2 (.inr ⟨rfl, .inl rfl⟩),
        on_create.2 (.inr ⟨rfl, .inr rfl⟩), .refl _⟩

/-- A wire from a net to a free port. -/
theorem Connects.join (h : n.Connects cs) {net : Net} (hnet : net ∈ n.nets) {p q : PortRef}
    (hends : p = c.source ∧ q = c.target ∨ p = c.target ∧ q = c.source) (hp : p ∈ net.ports) :
    Connects (n.join net q) (cs ++ [c]) := by
  have hpq : Chained (cs ++ [c]) p q := by
    rcases hends with ⟨rfl, rfl⟩ | ⟨rfl, rfl⟩
    · exact chained_ends
    · exact .symm _ _ chained_ends
  have hon : n.On p net.name := ⟨net, hnet, rfl, hp⟩
  refine ⟨?_, ?_, ?_⟩
  · intro name r r' hr hr'
    rcases (on_join hnet).1 hr with hold | ⟨hname, rfl⟩ <;>
      rcases (on_join hnet).1 hr' with hold' | ⟨hname', heq⟩
    · exact Chained.concat (h.joined name r r' hold hold')
    · -- An old port of the net reaches the new one through the end that was there.
      rw [heq]
      exact .trans _ _ _ (Chained.concat (h.joined _ r p (hname' ▸ hold) hon)) hpq
    · exact .trans _ _ _ (.symm _ _ hpq) (Chained.concat (h.joined _ p r' hon (hname ▸ hold')))
    · rw [heq]
      exact .refl _
  · intro u hu
    obtain ⟨a, b, ha, hb, hab⟩ := h.bridged u hu
    exact ⟨a, b, (on_join hnet).2 (.inl ha), (on_join hnet).2 (.inl hb), Chained.concat hab⟩
  · refine List.forall_mem_append.2 ⟨?_, List.forall_mem_singleton.2 ?_⟩
    · intro d hd
      obtain ⟨a, b, ha, hb, hab⟩ := h.linked d hd
      exact ⟨a, b, (on_join hnet).2 (.inl ha), (on_join hnet).2 (.inl hb), hab⟩
    · refine ⟨net.name, net.name, ?_, ?_, .refl _⟩
      · rcases hends with ⟨rfl, rfl⟩ | ⟨rfl, rfl⟩
        · exact (on_join hnet).2 (.inl hon)
        · exact (on_join hnet).2 (.inr ⟨rfl, rfl⟩)
      · rcases hends with ⟨rfl, rfl⟩ | ⟨rfl, rfl⟩
        · exact (on_join hnet).2 (.inr ⟨rfl, rfl⟩)
        · exact (on_join hnet).2 (.inl hon)

/-- A wire within one net. -/
theorem Connects.within (h : n.Connects cs) {net : Net} (hnet : net ∈ n.nets)
    (hsource : c.source ∈ net.ports) (htarget : c.target ∈ net.ports) :
    n.Connects (cs ++ [c]) := by
  refine ⟨?_, ?_, ?_⟩
  · intro name p q hp hq
    exact Chained.concat (h.joined name p q hp hq)
  · intro u hu
    obtain ⟨p, q, hp, hq, hpq⟩ := h.bridged u hu
    exact ⟨p, q, hp, hq, Chained.concat hpq⟩
  · refine List.forall_mem_append.2 ⟨h.linked, List.forall_mem_singleton.2 ?_⟩
    exact ⟨net.name, net.name, ⟨net, hnet, rfl, hsource⟩, ⟨net, hnet, rfl, htarget⟩, .refl _⟩

/-- A wire between two nets, which is recorded. -/
theorem Connects.bridge (h : n.Connects cs) {a b : Net} (ha : a ∈ n.nets) (hb : b ∈ n.nets)
    (hsource : c.source ∈ a.ports) (htarget : c.target ∈ b.ports) :
    Connects { n with unmerged := n.unmerged ++ [⟨c.name, a.name, b.name⟩] } (cs ++ [c]) := by
  have hsourceOn : n.On c.source a.name := ⟨a, ha, rfl, hsource⟩
  have htargetOn : n.On c.target b.name := ⟨b, hb, rfl, htarget⟩
  refine ⟨?_, ?_, ?_⟩
  · intro name p q hp hq
    exact Chained.concat (h.joined name p q hp hq)
  · refine List.forall_mem_append.2 ⟨?_, List.forall_mem_singleton.2 ?_⟩
    · intro u hu
      obtain ⟨p, q, hp, hq, hpq⟩ := h.bridged u hu
      exact ⟨p, q, hp, hq, Chained.concat hpq⟩
    · exact ⟨c.source, c.target, hsourceOn, htargetOn, chained_ends⟩
  · refine List.forall_mem_append.2 ⟨?_, List.forall_mem_singleton.2 ?_⟩
    · intro d hd
      obtain ⟨x, y, hx, hy, hxy⟩ := h.linked d hd
      refine ⟨x, y, hx, hy, Relation.EqvGen.mono ?_ x y hxy⟩
      rintro x y ⟨u, hu, huxy⟩
      exact ⟨u, List.mem_append_left _ hu, huxy⟩
    · exact ⟨a.name, b.name, hsourceOn, htargetOn,
        .rel _ _ ⟨_, List.mem_append_right _ List.mem_cons_self, rfl, rfl⟩⟩

/-- One more wire, with a new name. -/
theorem Connects.connect (hr : n.Represents cs) (h : n.Connects cs)
    (hname : c.name ∉ cs.map (·.name)) : (n.connect c).Connects (cs ++ [c]) := by
  rcases n.connect_cases c with ⟨-, -, heq⟩ | ⟨net, hnet, p, q, hends, hp, -, heq⟩ |
    ⟨a, ha, b, hb, hs, ht, ⟨rfl, heq⟩ | ⟨-, heq⟩⟩
  · rw [heq]
    exact Connects.create hr h hname
  · rw [heq]
    exact h.join hnet hends hp
  · rw [heq]
    exact h.within ha hs ht
  · rw [heq]
    exact h.bridge ha hb hs ht

end Step

/-- All wires, with different names. -/
theorem connects_foldl (inPort outPort : PortType) {cs : List Connection}
    (h : (cs.map (·.name)).Nodup) :
    (cs.foldl connect ⟨inPort, outPort, [], []⟩).Connects cs := by
  induction cs using List.reverseRecOn with
  | nil => exact ⟨by simp [On], by simp, by simp⟩
  | append_singleton cs c ih =>
    rw [List.map_append, List.nodup_append] at h
    obtain ⟨hcs, -, hnew⟩ := h
    rw [List.foldl_concat]
    refine Connects.connect (represents_foldl inPort outPort hcs) (ih hcs) ?_
    intro hmem
    exact hnew c.name hmem c.name List.mem_cons_self rfl

/-! ### Chains of wires and chains of nets -/

section Chains

variable {n : Netlist} {cs : List Connection}

/-- A port is on one net only. -/
theorem On.unique (hr : n.Represents cs) {p : PortRef} {a b : String} (ha : n.On p a)
    (hb : n.On p b) : a = b := by
  obtain ⟨net, hnet, rfl, hp⟩ := ha
  obtain ⟨net', hnet', rfl, hp'⟩ := hb
  rw [hr.apart net hnet net' hnet' p hp hp']

/-- Along a chain of wires, nets are linked. -/
theorem linked_of_chained (hr : n.Represents cs) (hc : n.Connects cs) {p q : PortRef}
    (h : Chained cs p q) : p = q ∨ ∃ a b, n.On p a ∧ n.On q b ∧ n.Linked a b := by
  induction h with
  | rel p q hpq =>
    obtain ⟨c, hmem, rfl, rfl⟩ := hpq
    exact .inr (hc.linked c hmem)
  | refl p => exact .inl rfl
  | symm p q _ ih =>
    rcases ih with rfl | ⟨a, b, ha, hb, hab⟩
    · exact .inl rfl
    · exact .inr ⟨b, a, hb, ha, .symm _ _ hab⟩
  | trans p q r _ _ ihpq ihqr =>
    rcases ihpq with rfl | ⟨a, b, ha, hb, hab⟩
    · exact ihqr
    · rcases ihqr with rfl | ⟨b', c, hb', hc', hbc⟩
      · exact .inr ⟨a, b, ha, hb, hab⟩
      · -- The port in the middle is on one net, where the two chains meet.
        obtain rfl := hb.unique hr hb'
        exact .inr ⟨a, c, ha, hc', .trans _ _ _ hab hbc⟩

/-- Along a chain of unmerged wires, ports are joined. -/
theorem chained_of_linked (hc : n.Connects cs) {a b : String} (h : n.Linked a b) :
    a = b ∨ ∃ p q, n.On p a ∧ n.On q b ∧ Chained cs p q := by
  induction h with
  | rel a b hab =>
    obtain ⟨u, hmem, rfl, rfl⟩ := hab
    exact .inr (hc.bridged u hmem)
  | refl a => exact .inl rfl
  | symm a b _ ih =>
    rcases ih with rfl | ⟨p, q, hp, hq, hpq⟩
    · exact .inl rfl
    · exact .inr ⟨q, p, hq, hp, .symm _ _ hpq⟩
  | trans a b c _ _ ihab ihbc =>
    rcases ihab with rfl | ⟨p, q, hp, hq, hpq⟩
    · exact ihbc
    · rcases ihbc with rfl | ⟨q', r, hq', hr, hqr⟩
      · exact .inr ⟨p, q, hp, hq, hpq⟩
      · -- Both ports in the middle are on one net, so wires join them.
        have hmid : Chained cs q q' := hc.joined b q q' hq hq'
        exact .inr ⟨p, r, hp, hr, .trans _ _ _ hpq (.trans _ _ _ hmid hqr)⟩

/-- Ports on nets are joined iff their nets are linked. -/
theorem Connects.chained_iff (hr : n.Represents cs) (hc : n.Connects cs) {p q : PortRef}
    {a b : String} (hp : n.On p a) (hq : n.On q b) : Chained cs p q ↔ n.Linked a b := by
  constructor
  · intro h
    rcases linked_of_chained hr hc h with rfl | ⟨a', b', ha, hb, hab⟩
    · rw [hp.unique hr hq]
      exact .refl _
    · rw [hp.unique hr ha, hq.unique hr hb]
      exact hab
  · intro h
    rcases chained_of_linked hc h with rfl | ⟨p', q', hp', hq', hpq⟩
    · exact hc.joined a p q hp hq
    · have hleft : Chained cs p p' := hc.joined a p p' hp hp'
      have hright : Chained cs q' q := hc.joined b q' q hq' hq
      exact .trans _ _ _ hleft (.trans _ _ _ hpq hright)

end Chains

/-! ### Netlists of schematics -/

/-- A port is an end of a wire. -/
def IsEnd (cs : List Connection) (p : PortRef) : Prop := ∃ c ∈ cs, p = c.source ∨ p = c.target

instance (cs : List Connection) (p : PortRef) : Decidable (IsEnd cs p) :=
  inferInstanceAs (Decidable (∃ c ∈ cs, p = c.source ∨ p = c.target))

/-- The order of wires does not matter to what they join. -/
theorem chained_perm {cs ds : List Connection} (h : cs.Perm ds) {p q : PortRef} :
    Chained cs p q ↔ Chained ds p q := by
  unfold Chained
  simp only [h.mem_iff]

/-- The netlist of a consistent schematic knows how its wires connect. -/
theorem connects_of_build {s : Schematic} {n : Netlist} (hs : s.Consistent)
    (h : (build s).result = .ok n) : n.Connects s.connections := by
  obtain ⟨v, -, -, -, rfl⟩ := build_eq_ok.1 h
  exact connects_foldl v.inPort v.outPort hs.connectionNames

/-- An end of a wire has a net. -/
theorem Represents.exists_net {n : Netlist} {cs : List Connection} (hr : n.Represents cs)
    {p : PortRef} (hp : IsEnd cs p) : ∃ net, n.netOf? p = some net := by
  obtain ⟨c, hmem, hend⟩ := hp
  have hnot : ¬ n.Free p := by
    rcases hend with rfl | rfl
    · exact (hr.covers c hmem).1
    · exact (hr.covers c hmem).2
  obtain ⟨net, hnet, hport⟩ := not_free_iff.1 hnot
  exact ⟨net, hr.netOf?_eq_some_iff.2 ⟨hnet, hport⟩⟩

/-- Without unmerged wires, only a net itself is linked to it. -/
theorem eq_of_linked {n : Netlist} (h : n.unmerged = []) {a b : String} (hab : n.Linked a b) :
    a = b := by
  induction hab with
  | rel a b hab =>
    obtain ⟨u, hu, -⟩ := hab
    rw [h] at hu
    cases hu
  | refl a => rfl
  | symm a b _ ih => exact ih.symm
  | trans a b c _ _ ihab ihbc => exact ihab.trans ihbc

/-- **Nets are connectivity up to unmerged wires.** Any two ends of wires have
    nets, and wires join them iff these nets are equal or linked by unmerged wires.
    In particular the ports of a net are joined, and where no wire is unmerged, two
    ports share a net iff wires join them. The last holds for every order of the
    connections. -/
theorem chained_iff_linked {s : Schematic} {n : Netlist} (hs : s.Reachable)
    (h : (build s).result = .ok n) :
    (∀ p q, IsEnd s.connections p → IsEnd s.connections q →
      ∃ a b, n.netOf? p = some a ∧ n.netOf? q = some b ∧
        (Chained s.connections p q ↔ a = b ∨ n.Linked a.name b.name)) ∧
    (∀ net ∈ n.nets, ∀ p ∈ net.ports, ∀ q ∈ net.ports, Chained s.connections p q) ∧
    (n.unmerged = [] → ∀ p q, IsEnd s.connections p → IsEnd s.connections q →
      (n.netOf? p = n.netOf? q ↔ Chained s.connections p q)) ∧
    (∀ s' n', s'.Reachable → s'.connections.Perm s.connections → (build s').result = .ok n' →
      n'.unmerged = [] → ∀ p q, IsEnd s.connections p → IsEnd s.connections q →
        (n'.netOf? p = n'.netOf? q ↔ Chained s.connections p q)) := by
  have hpair : ∀ s' n', s'.Reachable → (build s').result = .ok n' → ∀ p q,
      IsEnd s'.connections p → IsEnd s'.connections q →
      ∃ a b, n'.netOf? p = some a ∧ n'.netOf? q = some b ∧
        (Chained s'.connections p q ↔ n'.Linked a.name b.name) := by
    intro s' n' hs' h' p q hp hq
    have hr := represents_of_build hs'.consistent h'
    obtain ⟨a, ha⟩ := hr.exists_net hp
    obtain ⟨b, hb⟩ := hr.exists_net hq
    obtain ⟨hamem, hpa⟩ := mem_of_netOf? ha
    obtain ⟨hbmem, hqb⟩ := mem_of_netOf? hb
    exact ⟨a, b, ha, hb, (connects_of_build hs'.consistent h').chained_iff hr
      ⟨a, hamem, rfl, hpa⟩ ⟨b, hbmem, rfl, hqb⟩⟩
  have hshare : ∀ s' n', s'.Reachable → (build s').result = .ok n' → n'.unmerged = [] → ∀ p q,
      IsEnd s'.connections p → IsEnd s'.connections q →
      (n'.netOf? p = n'.netOf? q ↔ Chained s'.connections p q) := by
    intro s' n' hs' h' hempty p q hp hq
    have hr := represents_of_build hs'.consistent h'
    obtain ⟨a, b, ha, hb, hiff⟩ := hpair s' n' hs' h' p q hp hq
    rw [ha, hb, Option.some.injEq, hiff]
    constructor
    · rintro rfl
      exact .refl _
    · intro hab
      exact hr.eq_of_wire_eq (mem_of_netOf? ha).1 (mem_of_netOf? hb).1
        (wire_eq_of_name_eq (eq_of_linked hempty hab))
  refine ⟨?_, ?_, hshare s n hs h, ?_⟩
  · intro p q hp hq
    obtain ⟨a, b, ha, hb, hiff⟩ := hpair s n hs h p q hp hq
    refine ⟨a, b, ha, hb, ?_⟩
    rw [hiff]
    constructor
    · exact .inr
    · rintro (rfl | hab)
      · exact .refl _
      · exact hab
  · intro net hnet p hp q hq
    exact (connects_of_build hs.consistent h).joined net.name p q ⟨net, hnet, rfl, hp⟩
      ⟨net, hnet, rfl, hq⟩
  · intro s' n' hs' hperm h' hempty p q hp hq
    have hend : ∀ {r}, IsEnd s.connections r → IsEnd s'.connections r := by
      rintro r ⟨c, hc, hr⟩
      exact ⟨c, hperm.mem_iff.2 hc, hr⟩
    rw [hshare s' n' hs' h' hempty p q (hend hp) (hend hq)]
    exact chained_perm hperm

/-! A circuit with an unmerged wire: `x` drives `p`, `y` drives `q`, and then `x` is
wired to `q` as well. -/

/-- The steps that build the circuit. -/
def bridgeSteps : List Schematic.Operation :=
  let d := DigitalTypes.numbered 0
  d.operations ++
    [.addNode "x" d.inputPin [] [], .addNode "y" d.inputPin [] [],
     .addNode "p" d.outputPin [] [], .addNode "q" d.outputPin [] [],
     .addConnection "c0" d.wire ⟨"x", "out"⟩ ⟨"p", "in"⟩ [],
     .addConnection "c1" d.wire ⟨"y", "out"⟩ ⟨"q", "in"⟩ [],
     .addConnection "c2" d.wire ⟨"x", "out"⟩ ⟨"q", "in"⟩ []]

/-- The circuit. -/
def bridge : Schematic := bridgeSteps.foldl Schematic.perform { name := "bridge" }

/-- The netlist of the circuit. -/
def bridgeNetlist : Netlist where
  inPort := (DigitalTypes.numbered 0).inPort
  outPort := (DigitalTypes.numbered 0).outPort
  nets := [⟨"c0", [⟨"x", "out"⟩, ⟨"p", "in"⟩]⟩, ⟨"c1", [⟨"y", "out"⟩, ⟨"q", "in"⟩]⟩]
  unmerged := [⟨"c2", "n_c0", "n_c1"⟩]

/-- The pins `p` and `y` are on different nets of the circuit, and joined. -/
theorem chained_iff_linked_bridge :
    bridge.Reachable ∧ (build bridge).result = .ok bridgeNetlist ∧
      bridgeNetlist.netOf? ⟨"p", "in"⟩ ≠ bridgeNetlist.netOf? ⟨"y", "out"⟩ ∧
      Chained bridge.connections ⟨"p", "in"⟩ ⟨"y", "out"⟩ := by
  have hreach : bridge.Reachable := (Schematic.Reachable.new _).foldl (by decide +kernel)
  have hbuild : (build bridge).result = .ok bridgeNetlist := by decide +kernel
  refine ⟨hreach, hbuild, by decide +kernel, ?_⟩
  have hp : IsEnd bridge.connections ⟨"p", "in"⟩ := by decide +kernel
  have hy : IsEnd bridge.connections ⟨"y", "out"⟩ := by decide +kernel
  obtain ⟨a, b, ha, hb, hiff⟩ := (chained_iff_linked hreach hbuild).1 _ _ hp hy
  have hab : a.name = "n_c0" ∧ b.name = "n_c1" := by
    cases ha
    cases hb
    decide +kernel
  rw [hiff, hab.1, hab.2]
  exact .inr (.rel _ _ ⟨_, List.mem_cons_self, rfl, rfl⟩)

end Netlist

end Netlister
