import Netlister.Proofs.Netlist.Nets

/-! # Wires have no direction

  A wire is written with a first and a second end. Which is which is of no importance: when
  the ends of any wires are exchanged, the nets stay the same, and a netlist changes in two
  ways only, which `Netlist.turn` describes:

  - a net that such a wire made lists its first two ports in the other order;
  - such a wire that is unmerged names its two nets in the other order.

  A wire from a port to itself is an exception to the first, since its net begins with one
  port only. `turn_connect` is the step, and `turn_foldl` the run.
-/

namespace Netlister

/-! ### Exchanging ends -/

/-- A connection, with its ends exchanged if its name is picked. -/
def Connection.turn (picked : String → Bool) (c : Connection) : Connection :=
  if picked c.name then { c with source := c.target, target := c.source } else c

/-- A schematic with the ends of the picked connections exchanged. -/
def Schematic.turn (picked : String → Bool) (s : Schematic) : Schematic :=
  { s with connections := s.connections.map (Connection.turn picked) }

/-- An unmerged wire, with its nets exchanged if its name is picked. -/
def Unmerged.turn (picked : String → Bool) (u : Unmerged) : Unmerged :=
  if picked u.wire then { u with sourceNet := u.targetNet, targetNet := u.sourceNet } else u

/-- A list with its first two members exchanged. -/
def swapFirst {α : Type} : List α → List α
  | a :: b :: rest => b :: a :: rest
  | xs => xs

theorem swapFirst_swapFirst {α : Type} (xs : List α) : swapFirst (swapFirst xs) = xs := by
  match xs with
  | [] => rfl
  | [a] => rfl
  | a :: b :: rest => rfl

theorem perm_swapFirst {α : Type} (xs : List α) : (swapFirst xs).Perm xs := by
  match xs with
  | [] => exact .refl _
  | [a] => exact .refl _
  | a :: b :: rest => exact .swap a b rest

/-- What is added behind two members stays behind them. -/
theorem swapFirst_append {α : Type} {xs ys : List α} (h : 2 ≤ xs.length) :
    swapFirst (xs ++ ys) = swapFirst xs ++ ys := by
  match xs, h with
  | a :: b :: rest, _ => rfl

namespace Net

variable (crossed : String → Bool)

/-- A net, with its first two ports exchanged if its wire is crossed. -/
def turn (net : Net) : Net :=
  if crossed net.wire then { net with ports := swapFirst net.ports } else net

@[simp] theorem wire_turn (net : Net) : (net.turn crossed).wire = net.wire := by
  unfold turn
  split <;> rfl

theorem name_turn (net : Net) : (net.turn crossed).name = net.name := by
  unfold name
  rw [wire_turn]

theorem perm_ports_turn (net : Net) : (net.turn crossed).ports.Perm net.ports := by
  unfold turn
  split
  · exact perm_swapFirst net.ports
  · exact .refl _

theorem turn_turn (net : Net) : (net.turn crossed).turn crossed = net := by
  by_cases h : crossed net.wire
  · simp [turn, h, swapFirst_swapFirst]
  · simp [turn, h]

theorem turn_injective : Function.Injective (turn crossed) :=
  Function.LeftInverse.injective (turn_turn crossed)

end Net

namespace Netlist

variable (crossed picked : String → Bool)

/-- A netlist with the nets of crossed wires and the unmerged wires that are picked the other
    way round. -/
def turn (n : Netlist) : Netlist :=
  { n with
    nets := n.nets.map (Net.turn crossed)
    unmerged := n.unmerged.map (Unmerged.turn picked) }

/-- The net of a port is the same up to the order of its ports. -/
theorem netOf?_turn (n : Netlist) (p : PortRef) :
    (n.turn crossed picked).netOf? p = (n.netOf? p).map (Net.turn crossed) := by
  unfold netOf? turn
  rw [List.find?_map]
  congr 2
  funext net
  simp only [Function.comp, (net.perm_ports_turn crossed).mem_iff]

/-! ### One wire -/

section Step

variable {crossed picked} {n : Netlist} {cs : List Connection} {c : Connection}

/-- A wire is crossed if it is picked and has two different ends. -/
def Crosses (crossed picked : String → Bool) (c : Connection) : Prop :=
  crossed c.name ↔ picked c.name ∧ c.source ≠ c.target

/-- The net that a wire makes has its ends in the order in which they are written. -/
theorem newNet_turn (hc : Crosses crossed picked c) :
    newNet (c.turn picked) = (newNet c).turn crossed := by
  unfold Crosses at hc
  unfold newNet Net.turn Connection.turn
  by_cases hpicked : picked c.name
  · by_cases hloop : c.source = c.target
    · have hnot : ¬ crossed c.name := by
        rw [hc]
        exact fun h => h.2 hloop
      simp [hpicked, hloop, hnot]
    · have hcrossed : crossed c.name := hc.2 ⟨hpicked, hloop⟩
      simp [hpicked, hloop, Ne.symm hloop, hcrossed, swapFirst]
  · have hnot : ¬ crossed c.name := by
      rw [hc]
      exact fun h => hpicked h.1
    simp [hpicked, hnot]

/-- A net of a crossed wire has two ports. -/
theorem Represents.two_le_length (hr : n.Represents cs)
    (hcs : ∀ c ∈ cs, Crosses crossed picked c) {net : Net} (hnet : net ∈ n.nets)
    (hcrossed : crossed net.wire) : 2 ≤ net.ports.length := by
  obtain ⟨c, hc, hname, hsource, htarget⟩ := hr.made net hnet
  rw [← hname] at hcrossed
  have hne : c.source ≠ c.target := ((hcs c hc).1 hcrossed).2
  match hports : net.ports with
  | [] =>
    rw [hports] at hsource
    cases hsource
  | [p] =>
    rw [hports, List.mem_singleton] at hsource htarget
    exact absurd (hsource.trans htarget.symm) hne
  | p :: q :: rest => simp

/-- A port that joins a net stands behind the ports that the wire of the net brought. -/
theorem join_turn (hr : n.Represents cs) (hcs : ∀ c ∈ cs, Crosses crossed picked c) {net : Net}
    (hnet : net ∈ n.nets) (p : PortRef) :
    (n.turn crossed picked).join (net.turn crossed) p = (n.join net p).turn crossed picked := by
  have hgrow : grow (net.turn crossed) p = (grow net p).turn crossed := by
    by_cases hcrossed : crossed net.wire
    · have htwo := hr.two_le_length hcs hnet hcrossed
      simp [grow, Net.turn, hcrossed, swapFirst_append htwo]
    · simp [grow, Net.turn, hcrossed]
  unfold join turn
  simp only [List.map_map]
  congr 1
  refine List.map_congr_left fun other _ => ?_
  simp only [Function.comp]
  by_cases heq : other = net
  · rw [if_pos heq, if_pos (congrArg _ heq)]
    exact hgrow
  · rw [if_neg heq, if_neg fun h => heq (Net.turn_injective crossed h)]

/-- A net that is made stands last. -/
theorem create_turn (net : Net) :
    { n.turn crossed picked with nets := (n.turn crossed picked).nets ++ [net.turn crossed] } =
      turn crossed picked { n with nets := n.nets ++ [net] } := by
  simp [turn]

/-- A wire between two nets is recorded iff the nets are different. -/
theorem record_turn (a b : Net) (u : Unmerged) :
    (if a.turn crossed = b.turn crossed then n.turn crossed picked
      else { n.turn crossed picked with
        unmerged := (n.turn crossed picked).unmerged ++ [u.turn picked] }) =
      turn crossed picked (if a = b then n else { n with unmerged := n.unmerged ++ [u] }) := by
  by_cases hab : a = b
  · rw [if_pos hab, if_pos (congrArg _ hab)]
  · rw [if_neg hab, if_neg fun h => hab (Net.turn_injective crossed h)]
    simp [turn]

/-- What a wire does, by the nets that its ends have before they are exchanged. -/
theorem connect_turn (m : Netlist) (c : Connection) :
    m.connect (c.turn picked) =
      match m.netOf? c.source, m.netOf? c.target with
      | none, none => { m with nets := m.nets ++ [newNet (c.turn picked)] }
      | some net, none => m.join net c.target
      | none, some net => m.join net c.source
      | some a, some b =>
        if a = b then m
        else { m with unmerged := m.unmerged ++ [Unmerged.turn picked ⟨c.name, a.name, b.name⟩] } := by
  unfold connect
  by_cases hpicked : picked c.name
  · have hturn : c.turn picked = { c with source := c.target, target := c.source } := if_pos hpicked
    have hrecord (a b : Net) : Unmerged.turn picked ⟨c.name, a.name, b.name⟩ =
        ⟨c.name, b.name, a.name⟩ := if_pos hpicked
    rw [hturn]
    cases m.netOf? c.source with
    | none => cases m.netOf? c.target <;> rfl
    | some a =>
      cases m.netOf? c.target with
      | none => rfl
      | some b => simp only [hrecord, eq_comm]
  · have hturn : c.turn picked = c := if_neg hpicked
    have hrecord (a b : Net) : Unmerged.turn picked ⟨c.name, a.name, b.name⟩ =
        ⟨c.name, a.name, b.name⟩ := if_neg hpicked
    rw [hturn]
    cases m.netOf? c.source with
    | none => cases m.netOf? c.target <;> rfl
    | some a =>
      cases m.netOf? c.target with
      | none => rfl
      | some b => simp only [hrecord]

/-- A wire with its ends exchanged does the same to the nets. -/
theorem turn_connect (hr : n.Represents cs) (hcs : ∀ c ∈ cs, Crosses crossed picked c)
    (hc : Crosses crossed picked c) :
    (n.turn crossed picked).connect (c.turn picked) = (n.connect c).turn crossed picked := by
  rw [connect_turn, netOf?_turn, netOf?_turn]
  unfold connect
  cases hs : n.netOf? c.source with
  | none =>
    cases ht : n.netOf? c.target with
    | none =>
      rw [newNet_turn hc]
      exact create_turn (newNet c)
    | some b => exact join_turn hr hcs (mem_of_netOf? ht).1 c.source
  | some a =>
    cases ht : n.netOf? c.target with
    | none => exact join_turn hr hcs (mem_of_netOf? hs).1 c.target
    | some b =>
      simp only [Option.map_some, Net.name_turn]
      exact record_turn a b ⟨c.name, a.name, b.name⟩

end Step

/-- All wires, with different names. -/
theorem turn_foldl {crossed picked : String → Bool} (inPort outPort : PortType)
    {cs : List Connection} (h : (cs.map (·.name)).Nodup)
    (hcs : ∀ c ∈ cs, Crosses crossed picked c) :
    (cs.map (Connection.turn picked)).foldl connect ⟨inPort, outPort, [], []⟩ =
      (cs.foldl connect ⟨inPort, outPort, [], []⟩).turn crossed picked := by
  induction cs using List.reverseRecOn with
  | nil => rfl
  | append_singleton cs c ih =>
    have hnames : (cs.map (·.name)).Nodup := by
      rw [List.map_append] at h
      exact h.of_append_left
    obtain ⟨hold, hnew⟩ := List.forall_mem_append.1 hcs
    have hr := represents_foldl inPort outPort hnames
    rw [List.map_append, List.map_singleton, List.foldl_concat, List.foldl_concat, ih hnames hold]
    exact turn_connect hr hold (hnew c List.mem_cons_self)

/-! ### Netlists of schematics -/

/-- The wires whose nets list their first two ports the other way round: those that are
    picked and have two different ends. -/
def crossing (picked : String → Bool) (s : Schematic) (name : String) : Bool :=
  s.connections.any fun c => c.name = name && picked name && c.source ≠ c.target

theorem crosses_crossing {picked : String → Bool} {s : Schematic} (hs : s.Consistent)
    {c : Connection} (hc : c ∈ s.connections) : Crosses (crossing picked s) picked c := by
  unfold Crosses crossing
  simp only [List.any_eq_true, Bool.and_eq_true, decide_eq_true_iff]
  constructor
  · rintro ⟨d, hd, ⟨hname, hpicked⟩, hne⟩
    have hsame : d = c := List.inj_on_of_nodup_map hs.connectionNames hd hc hname
    subst hsame
    exact ⟨hpicked, hne⟩
  · rintro ⟨hpicked, hne⟩
    exact ⟨c, hc, ⟨rfl, hpicked⟩, hne⟩

/-- A wire with its ends exchanged is accepted like before. -/
theorem checkConnection_turn {picked : String → Bool} {s : Schematic} {v : Vocabulary}
    {c : Connection} :
    checkConnection (s.turn picked) v (c.turn picked) = .ok () ↔ checkConnection s v c = .ok () := by
  simp only [checkConnection_eq_ok, checkEnd_eq_ok]
  by_cases hpicked : picked c.name
  · have hturn : c.turn picked = { c with source := c.target, target := c.source } := if_pos hpicked
    rw [hturn]
    exact and_congr_right fun _ => and_congr_right fun _ => and_comm
  · have hturn : c.turn picked = c := if_neg hpicked
    rw [hturn]
    rfl

/-- The netlist of a schematic some of whose wires are written the other way. -/
theorem build_turn {picked : String → Bool} {s : Schematic} (hs : s.Consistent) {m : Netlist} :
    (build (s.turn picked)).result = .ok m ↔
      ∃ n, (build s).result = .ok n ∧ m = n.turn (crossing picked s) picked := by
  have hcrosses : ∀ c ∈ s.connections, Crosses (crossing picked s) picked c :=
    fun c hc => crosses_crossing hs hc
  have hrun (v : Vocabulary) := turn_foldl v.inPort v.outPort hs.connectionNames hcrosses
  have hchecks (v : Vocabulary) :
      (∀ c ∈ (s.turn picked).connections, checkConnection (s.turn picked) v c = .ok ()) ↔
        ∀ c ∈ s.connections, checkConnection s v c = .ok () := by
    show (∀ c ∈ s.connections.map (Connection.turn picked), _) ↔ _
    simp only [List.forall_mem_map, checkConnection_turn]
  constructor
  · intro h
    obtain ⟨v, hv, hnodes, hconnections, rfl⟩ := build_eq_ok.1 h
    exact ⟨_, build_eq_ok.2 ⟨v, hv, hnodes, (hchecks v).1 hconnections, rfl⟩, hrun v⟩
  · rintro ⟨n, hn, rfl⟩
    obtain ⟨v, hv, hnodes, hconnections, rfl⟩ := build_eq_ok.1 hn
    exact build_eq_ok.2 ⟨v, hv, hnodes, (hchecks v).2 hconnections, (hrun v).symm⟩

end Netlist

end Netlister
