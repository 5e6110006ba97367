import Netlister.Proofs.Netlist.Connectivity

/-! # What a finished netlist says

  Nets can be grown together with a table that tells, for every port that joined a
  net, the place of this net among all nets. The table is what a wire is decided by:
  no net is searched. `Tabled.connect` is this way of growing nets. It has failures of
  its own, a place without net and a port that joins a net twice.

  - `tabulate_eq`: neither failure ever happens, the nets are the same as without the
    table, and the table and the nets tell the same about every port.
  - `On.connect`: no further wire takes a port from its net.
  - `unmerged_foldl`: so the unmerged wires are exactly those between two nets of the
    finished netlist, although each was recorded when the nets were still growing.

  `build_faithful` puts this together for the netlist of a schematic.
-/

namespace Netlister.Netlist

/-! ### Growing nets with a table of ports -/

/-- A netlist, and for each port on a net the place of this net. -/
structure Tabled where
  netlist : Netlist
  /-- The ports that joined a net, the latest first. -/
  table : List (PortRef × Nat) := []

namespace Tabled

/-- The place of the net of a port, as the table has it. -/
def place? (t : Tabled) (p : PortRef) : Option Nat := t.table.lookup p

/-- Brings a port to the net at a place. There must be such a net, without the port. -/
def assign (t : Tabled) (k : Nat) (p : PortRef) : Option Tabled :=
  match t.netlist.nets[k]? with
  | none => none
  | some net =>
    if p ∈ net.ports then none
    else some ⟨{ t.netlist with nets := t.netlist.nets.set k (grow net p) }, (p, k) :: t.table⟩

/-- A further net, still without ports, for a wire. -/
def create (t : Tabled) (c : Connection) : Tabled :=
  { t with netlist := { t.netlist with nets := t.netlist.nets ++ [⟨c.name, []⟩] } }

/-- Records a wire between the nets at two places. -/
def record (t : Tabled) (c : Connection) (j k : Nat) : Option Tabled :=
  match t.netlist.nets[j]?, t.netlist.nets[k]? with
  | some a, some b =>
    let unmerged := t.netlist.unmerged ++ [⟨c.name, a.name, b.name⟩]
    some { t with netlist := { t.netlist with unmerged } }
  | _, _ => none

/-- Takes a wire into account, as the table says where its ends are. -/
def connect (t : Tabled) (c : Connection) : Option Tabled :=
  match t.place? c.source, t.place? c.target with
  | none, none => do
    let k := t.netlist.nets.length
    let t ← (t.create c).assign k c.source
    if c.target = c.source then some t else t.assign k c.target
  | some k, none => t.assign k c.target
  | none, some k => t.assign k c.source
  | some j, some k => if j = k then some t else t.record c j k

/-- The table has a port at a place iff the net there has the port. -/
def Agrees (t : Tabled) : Prop :=
  ∀ p k, t.place? p = some k ↔ ∃ net, t.netlist.nets[k]? = some net ∧ p ∈ net.ports

/-! ### The table and the nets agree -/

section Assign

variable {t : Tabled} {p : PortRef} {k : Nat} {net : Net}

theorem place?_cons (n : Netlist) (table : List (PortRef × Nat)) (p q : PortRef) (k : Nat) :
    (⟨n, (p, k) :: table⟩ : Tabled).place? q =
      if q = p then some k else (⟨n, table⟩ : Tabled).place? q := by
  by_cases h : q = p
  · simp [place?, h]
  · have hb : (q == p) = false := beq_false_of_ne h
    simp [place?, List.lookup_cons, hb, h]

/-- A port is on no net iff it has no place. -/
theorem Agrees.free_iff (h : t.Agrees) : t.netlist.Free p ↔ t.place? p = none := by
  rw [Option.eq_none_iff_forall_ne_some]
  constructor
  · intro hfree k hk
    obtain ⟨net, hnet, hp⟩ := (h p k).1 hk
    exact hfree net (List.mem_of_getElem? hnet) hp
  · intro hnone net hnet hp
    obtain ⟨k, hk⟩ := List.mem_iff_getElem?.1 hnet
    exact hnone k ((h p k).2 ⟨net, hk, hp⟩)

/-- A port without place can join any net, and the table still agrees. -/
theorem Agrees.assign (h : t.Agrees) (hp : t.place? p = none) (hk : t.netlist.nets[k]? = some net) :
    ∃ t', t.assign k p = some t' ∧ t'.Agrees ∧
      t'.netlist = { t.netlist with nets := t.netlist.nets.set k (grow net p) } ∧
      ∀ q, q ≠ p → t'.place? q = t.place? q := by
  have hmem : net ∈ t.netlist.nets := List.mem_of_getElem? hk
  have hlt : k < t.netlist.nets.length := (List.getElem?_eq_some_iff.1 hk).1
  have hnot : p ∉ net.ports := h.free_iff.2 hp net hmem
  refine ⟨⟨{ t.netlist with nets := t.netlist.nets.set k (grow net p) }, (p, k) :: t.table⟩,
    ?_, ?_, rfl, ?_⟩
  · simp only [Tabled.assign, hk, if_neg hnot]
  · intro q j
    have hold : t.place? q = some j ↔ ∃ other, t.netlist.nets[j]? = some other ∧ q ∈ other.ports :=
      h q j
    rw [place?_cons]
    show _ ↔ ∃ other, (t.netlist.nets.set k (grow net p))[j]? = some other ∧ q ∈ other.ports
    by_cases hj : k = j
    · -- At the place itself, the net has gained the port.
      subst hj
      rw [List.getElem?_set_self hlt]
      simp only [hk, Option.some.injEq, exists_eq_left'] at hold
      by_cases hq : q = p
      · simp [hq, grow]
      · simp only [hq, if_false, Option.some.injEq, exists_eq_left', grow, List.mem_append,
          List.mem_singleton, or_false]
        exact hold
    · -- At any other place nothing changed, and the port is not there.
      rw [List.getElem?_set_ne hj]
      by_cases hq : q = p
      · subst hq
        rw [← hold, hp, if_pos rfl]
        simp [hj]
      · rw [if_neg hq]
        exact hold
  · intro q hq
    rw [place?_cons, if_neg hq]
    rfl

/-- A net without ports does not show in the table. -/
theorem Agrees.create (h : t.Agrees) (c : Connection) : (t.create c).Agrees := by
  intro p k
  show t.place? p = some k ↔ ∃ net, (t.netlist.nets ++ [⟨c.name, []⟩])[k]? = some net ∧ p ∈ net.ports
  rw [h p k]
  constructor
  · rintro ⟨net, hnet, hp⟩
    have hlt : k < t.netlist.nets.length := (List.getElem?_eq_some_iff.1 hnet).1
    exact ⟨net, by rw [List.getElem?_append_left hlt, hnet], hp⟩
  · rintro ⟨net, hnet, hp⟩
    by_cases hlt : k < t.netlist.nets.length
    · rw [List.getElem?_append_left hlt] at hnet
      exact ⟨net, hnet, hp⟩
    · rw [List.getElem?_append_right (by omega)] at hnet
      have hnew : net = ⟨c.name, []⟩ := List.mem_singleton.1 (List.mem_of_getElem? hnet)
      rw [hnew] at hp
      cases hp

end Assign

/-! ### One wire -/

/-- Bringing a port to a net changes the net at its place only. -/
theorem nets_join {n : Netlist} (hdistinct : n.nets.Nodup) {k : Nat} {net : Net}
    (hk : n.nets[k]? = some net) (p : PortRef) :
    (n.join net p).nets = n.nets.set k (grow net p) := by
  have hlt : k < n.nets.length := (List.getElem?_eq_some_iff.1 hk).1
  refine List.ext_getElem? fun j => ?_
  simp only [join, List.getElem?_map]
  by_cases hj : k = j
  · subst hj
    rw [List.getElem?_set_self hlt, hk]
    simp [grow]
  · rw [List.getElem?_set_ne hj]
    cases hother : n.nets[j]? with
    | none => rfl
    | some other =>
      have hne : other ≠ net := by
        rintro rfl
        exact hj ((List.getElem?_inj hlt hdistinct).1 (hk.trans hother.symm))
      simp [hne]

section Connect

variable {t : Tabled} {cs : List Connection} {c : Connection}

/-- The table and the search find the same net. -/
theorem Agrees.netOf?_eq (h : t.Agrees) (hr : t.netlist.Represents cs) (p : PortRef) :
    t.netlist.netOf? p = (t.place? p).bind (t.netlist.nets[·]?) := by
  cases hp : t.place? p with
  | none => exact netOf?_eq_none_iff.2 (h.free_iff.2 hp)
  | some k =>
    obtain ⟨net, hnet, hport⟩ := (h p k).1 hp
    have hfound : t.netlist.netOf? p = some net :=
      hr.netOf?_eq_some_iff.2 ⟨List.mem_of_getElem? hnet, hport⟩
    rw [hfound, Option.bind_some, hnet]

/-- The net of a port that has a place, where it stands and as the search finds it. -/
theorem Agrees.exists_net (h : t.Agrees) (hr : t.netlist.Represents cs) {p : PortRef} {k : Nat}
    (hp : t.place? p = some k) :
    ∃ net, t.netlist.nets[k]? = some net ∧ t.netlist.netOf? p = some net := by
  obtain ⟨net, hnet, -⟩ := (h p k).1 hp
  exact ⟨net, hnet, by rw [h.netOf?_eq hr p, hp, Option.bind_some, hnet]⟩

/-- A free port joins the net of the other end. -/
theorem Agrees.connect_join (h : t.Agrees) (hr : t.netlist.Represents cs) {p : PortRef} {k : Nat}
    {net : Net} (hp : t.place? p = none) (hk : t.netlist.nets[k]? = some net) :
    ∃ t', t.assign k p = some t' ∧ t'.Agrees ∧ t'.netlist = t.netlist.join net p := by
  obtain ⟨t', ht', hagrees, heq, -⟩ := h.assign hp hk
  refine ⟨t', ht', hagrees, ?_⟩
  rw [heq, ← nets_join hr.nodup_nets hk p]
  rfl

/-- Two free ports make a net. -/
theorem Agrees.connect_create (h : t.Agrees) (hs : t.place? c.source = none)
    (ht : t.place? c.target = none) :
    ∃ t', t.connect c = some t' ∧ t'.Agrees ∧
      t'.netlist = { t.netlist with nets := t.netlist.nets ++ [newNet c] } := by
  have hlast : (t.create c).netlist.nets[t.netlist.nets.length]? = some ⟨c.name, []⟩ := by
    simp [Tabled.create]
  -- The first end joins the new net, which then has this port only.
  obtain ⟨t₁, ht₁, hagrees₁, heq₁, hother⟩ := (h.create c).assign hs hlast
  have hnets₁ : t₁.netlist.nets = t.netlist.nets ++ [⟨c.name, [c.source]⟩] := by
    rw [heq₁]
    simp [Tabled.create, grow]
  have hrun : t.connect c = if c.target = c.source then some t₁
      else t₁.assign t.netlist.nets.length c.target := by
    simp only [connect, hs, ht, ht₁, Option.bind_eq_bind, Option.bind_some]
  rw [hrun]
  by_cases heq : c.target = c.source
  · refine ⟨t₁, if_pos heq, hagrees₁, ?_⟩
    rw [heq₁]
    simp [Tabled.create, grow, newNet, heq]
  · -- The second end follows; it is another port, so it still has no place.
    have htarget : t₁.place? c.target = none := (hother c.target heq).trans ht
    have hlast₁ : t₁.netlist.nets[t.netlist.nets.length]? = some ⟨c.name, [c.source]⟩ := by
      rw [hnets₁]
      simp
    obtain ⟨t₂, ht₂, hagrees₂, heq₂, -⟩ := hagrees₁.assign htarget hlast₁
    refine ⟨t₂, (if_neg heq).trans ht₂, hagrees₂, ?_⟩
    rw [heq₂, hnets₁, heq₁]
    simp [Tabled.create, grow, newNet, Ne.symm heq]

/-- A wire never fails. It does to the nets what it does without the table, and the
    table still agrees. -/
theorem Agrees.connect (h : t.Agrees) (hr : t.netlist.Represents cs) :
    ∃ t', t.connect c = some t' ∧ t'.Agrees ∧ t'.netlist = t.netlist.connect c := by
  cases hs : t.place? c.source with
  | none =>
    have hsource : t.netlist.netOf? c.source = none := by rw [h.netOf?_eq hr, hs, Option.bind_none]
    cases ht : t.place? c.target with
    | none =>
      have htarget : t.netlist.netOf? c.target = none := by
        rw [h.netOf?_eq hr, ht, Option.bind_none]
      obtain ⟨t', ht', hagrees, heq⟩ := h.connect_create hs ht
      refine ⟨t', ht', hagrees, heq.trans ?_⟩
      simp only [Netlist.connect, hsource, htarget]
      rfl
    | some k =>
      obtain ⟨net, hnet, htarget⟩ := h.exists_net hr ht
      obtain ⟨t', ht', hagrees, heq⟩ := h.connect_join hr hs hnet
      refine ⟨t', ?_, hagrees, heq.trans ?_⟩
      · simpa only [Tabled.connect, hs, ht] using ht'
      · simp only [Netlist.connect, hsource, htarget]
  | some j =>
    obtain ⟨a, ha, hsource⟩ := h.exists_net hr hs
    cases ht : t.place? c.target with
    | none =>
      have htarget : t.netlist.netOf? c.target = none := by
        rw [h.netOf?_eq hr, ht, Option.bind_none]
      obtain ⟨t', ht', hagrees, heq⟩ := h.connect_join hr ht ha
      refine ⟨t', ?_, hagrees, heq.trans ?_⟩
      · simpa only [Tabled.connect, hs, ht] using ht'
      · simp only [Netlist.connect, hsource, htarget]
    | some k =>
      obtain ⟨b, hb, htarget⟩ := h.exists_net hr ht
      -- Places are compared here and nets there; nets are distinct, so it is the same.
      have hlt : j < t.netlist.nets.length := (List.getElem?_eq_some_iff.1 ha).1
      have hiff : j = k ↔ a = b := by
        constructor
        · rintro rfl
          exact Option.some.inj (ha.symm.trans hb)
        · rintro rfl
          exact (List.getElem?_inj hlt hr.nodup_nets).1 (ha.trans hb.symm)
      by_cases hjk : j = k
      · refine ⟨t, ?_, h, ?_⟩
        · simp only [Tabled.connect, hs, ht, if_pos hjk]
        · simp only [Netlist.connect, hsource, htarget, if_pos (hiff.1 hjk)]
      · have hab : a ≠ b := fun hab => hjk (hiff.2 hab)
        refine ⟨⟨{ t.netlist with
          unmerged := t.netlist.unmerged ++ [⟨c.name, a.name, b.name⟩] }, t.table⟩, ?_, h, ?_⟩
        · simp only [Tabled.connect, hs, ht, if_neg hjk, record, ha, hb]
        · simp only [Netlist.connect, hsource, htarget, if_neg hab]

end Connect

end Tabled

/-! ### All wires -/

/-- Takes wires into account one after the other, starting without nets. -/
def tabulate (inPort outPort : PortType) (cs : List Connection) : Option Tabled :=
  cs.foldlM Tabled.connect ⟨⟨inPort, outPort, [], []⟩, []⟩

/-- Growing nets with a table never fails and gives the nets that are grown without. -/
theorem tabulate_eq (inPort outPort : PortType) {cs : List Connection}
    (h : (cs.map (·.name)).Nodup) :
    ∃ t, tabulate inPort outPort cs = some t ∧ t.Agrees ∧
      t.netlist = cs.foldl connect ⟨inPort, outPort, [], []⟩ := by
  -- Wires are added at the end: what is kept speaks of the wires before.
  induction cs using List.reverseRecOn with
  | nil =>
    refine ⟨⟨⟨inPort, outPort, [], []⟩, []⟩, rfl, ?_, rfl⟩
    intro p k
    simp [Tabled.place?]
  | append_singleton cs c ih =>
    have hcs : (cs.map (·.name)).Nodup := by
      rw [List.map_append] at h
      exact h.of_append_left
    obtain ⟨t, ht, hagrees, heq⟩ := ih hcs
    have hr : t.netlist.Represents cs := by
      rw [heq]
      exact represents_foldl inPort outPort hcs
    obtain ⟨t', ht', hagrees', heq'⟩ := hagrees.connect (c := c) hr
    refine ⟨t', ?_, hagrees', ?_⟩
    · have hlast : tabulate inPort outPort (cs ++ [c]) =
          (tabulate inPort outPort cs >>= fun t => t.connect c) := by
        simp [tabulate, List.foldlM_append]
      rw [hlast, ht]
      exact ht'
    · rw [heq', heq, List.foldl_concat]

/-! ### Decisions are final -/

section Final

variable {n : Netlist} {cs : List Connection}

/-- A wire takes no port from its net. -/
theorem On.connect {p : PortRef} {name : String} (h : n.On p name) (c : Connection) :
    (n.connect c).On p name := by
  rcases n.connect_cases c with ⟨-, -, heq⟩ | ⟨net, hnet, q, r, -, -, -, heq⟩ |
    ⟨a, -, b, -, -, -, ⟨-, heq⟩ | ⟨-, heq⟩⟩
  · rw [heq]
    exact on_create.2 (.inl h)
  · rw [heq]
    exact (on_join hnet).2 (.inl h)
  · rw [heq]
    exact h
  · rw [heq]
    exact h

/-- Both ends of a wire that was taken into account are on nets. -/
theorem Represents.exists_on (hr : n.Represents cs) {c : Connection} (hc : c ∈ cs) :
    ∃ a b, n.On c.source a ∧ n.On c.target b := by
  obtain ⟨hs, ht⟩ := hr.covers c hc
  obtain ⟨a, ha, hsource⟩ := not_free_iff.1 hs
  obtain ⟨b, hb, htarget⟩ := not_free_iff.1 ht
  exact ⟨a.name, b.name, ⟨a, ha, rfl, hsource⟩, ⟨b, hb, rfl, htarget⟩⟩

/-- The record of a wire whose ends are on two different nets. -/
def crossing? (n : Netlist) (c : Connection) : Option Unmerged :=
  match n.netOf? c.source, n.netOf? c.target with
  | some a, some b => if a = b then none else some ⟨c.name, a.name, b.name⟩
  | _, _ => none

/-- Whether a wire lies between two nets is seen by the names of the nets. -/
theorem Represents.crossing?_eq (hr : n.Represents cs) {c : Connection} {a b : String}
    (hs : n.On c.source a) (ht : n.On c.target b) :
    n.crossing? c = if a = b then none else some ⟨c.name, a, b⟩ := by
  obtain ⟨x, hx, rfl, hsource⟩ := hs
  obtain ⟨y, hy, rfl, htarget⟩ := ht
  have hfindSource : n.netOf? c.source = some x := hr.netOf?_eq_some_iff.2 ⟨hx, hsource⟩
  have hfindTarget : n.netOf? c.target = some y := hr.netOf?_eq_some_iff.2 ⟨hy, htarget⟩
  have hiff : x = y ↔ x.name = y.name := by
    constructor
    · rintro rfl
      rfl
    · intro hname
      exact hr.eq_of_wire_eq hx hy (wire_eq_of_name_eq hname)
  simp only [crossing?, hfindSource, hfindTarget, hiff]

/-- A further wire does not change whether an earlier one lies between two nets. -/
theorem Represents.crossing?_connect (hr : n.Represents cs) {c d : Connection}
    (hname : c.name ∉ cs.map (·.name)) (hd : d ∈ cs) :
    (n.connect c).crossing? d = n.crossing? d := by
  obtain ⟨a, b, hs, ht⟩ := hr.exists_on hd
  rw [hr.crossing?_eq hs ht, (hr.connect hname).crossing?_eq (hs.connect c) (ht.connect c)]

/-- What a wire adds to the unmerged ones is its record in the netlist that it leaves. -/
theorem Represents.unmerged_connect (hr : n.Represents cs) {c : Connection}
    (hname : c.name ∉ cs.map (·.name)) :
    (n.connect c).unmerged = n.unmerged ++ ((n.connect c).crossing? c).toList := by
  have hr' : (n.connect c).Represents (cs ++ [c]) := hr.connect hname
  rcases n.connect_cases c with ⟨-, -, heq⟩ | ⟨net, hnet, p, q, hends, hp, -, heq⟩ |
    ⟨a, ha, b, hb, hs, ht, ⟨rfl, heq⟩ | ⟨hab, heq⟩⟩
  · -- Both ends are on the new net.
    have hon : ∀ r, r = c.source ∨ r = c.target → (n.connect c).On r (newNet c).name := by
      intro r hr
      rw [heq]
      exact on_create.2 (.inr ⟨rfl, hr⟩)
    rw [hr'.crossing?_eq (hon _ (.inl rfl)) (hon _ (.inr rfl)), if_pos rfl, heq]
    simp
  · -- Both ends are on the net that one of them has joined.
    have hold : (n.connect c).On p net.name := On.connect ⟨net, hnet, rfl, hp⟩ c
    have hnew : (n.connect c).On q net.name := by
      rw [heq]
      exact (on_join hnet).2 (.inr ⟨rfl, rfl⟩)
    have hnone : (n.connect c).crossing? c = none := by
      rcases hends with ⟨rfl, rfl⟩ | ⟨rfl, rfl⟩
      · rw [hr'.crossing?_eq hold hnew, if_pos rfl]
      · rw [hr'.crossing?_eq hnew hold, if_pos rfl]
    rw [hnone, heq]
    simp [Netlist.join]
  · have hsource : (n.connect c).On c.source a.name := On.connect ⟨a, ha, rfl, hs⟩ c
    have htarget : (n.connect c).On c.target a.name := On.connect ⟨a, ha, rfl, ht⟩ c
    rw [hr'.crossing?_eq hsource htarget, if_pos rfl, heq]
    simp
  · have hsource : (n.connect c).On c.source a.name := On.connect ⟨a, ha, rfl, hs⟩ c
    have htarget : (n.connect c).On c.target b.name := On.connect ⟨b, hb, rfl, ht⟩ c
    have hnames : a.name ≠ b.name := by
      intro hnames
      exact hab (hr.eq_of_wire_eq ha hb (wire_eq_of_name_eq hnames))
    rw [hr'.crossing?_eq hsource htarget, if_neg hnames, heq]
    rfl

/-- The unmerged wires are those between two nets of the finished netlist, in order. -/
theorem unmerged_foldl (inPort outPort : PortType) {cs : List Connection}
    (h : (cs.map (·.name)).Nodup) :
    (cs.foldl connect ⟨inPort, outPort, [], []⟩).unmerged =
      cs.filterMap (cs.foldl connect ⟨inPort, outPort, [], []⟩).crossing? := by
  induction cs using List.reverseRecOn with
  | nil => rfl
  | append_singleton cs c ih =>
    rw [List.map_append, List.nodup_append] at h
    obtain ⟨hcs, -, hnew⟩ := h
    have hname : c.name ∉ cs.map (·.name) := by
      intro hmem
      exact hnew c.name hmem c.name List.mem_cons_self rfl
    have hr := represents_foldl inPort outPort hcs
    have hstable : cs.filterMap ((cs.foldl connect ⟨inPort, outPort, [], []⟩).connect c).crossing? =
        cs.filterMap (cs.foldl connect ⟨inPort, outPort, [], []⟩).crossing? :=
      List.filterMap_congr fun d hd => hr.crossing?_connect hname hd
    rw [List.foldl_concat, hr.unmerged_connect hname, ih hcs, List.filterMap_append, hstable]
    congr 1

end Final

/-! ### Netlists of schematics -/

/-- A netlist and the table of its ports say what the wires `cs` say. -/
structure Faithful (n : Netlist) (table : List (PortRef × Nat)) (cs : List Connection) :
    Prop where
  /-- The table has a port at a place iff the net there has the port. -/
  place : ∀ p k, table.lookup p = some k ↔ ∃ net, n.nets[k]? = some net ∧ p ∈ net.ports
  /-- The net of a port is the one at its place in the table. -/
  netOf : ∀ p, n.netOf? p = (table.lookup p).bind (n.nets[·]?)
  /-- No port is twice on a net. -/
  once : ∀ net ∈ n.nets, net.ports.Nodup
  /-- No port is on nets at two places. -/
  apart : ∀ (j k : Nat) (a b : Net) (p : PortRef), n.nets[j]? = some a → n.nets[k]? = some b →
    p ∈ a.ports → p ∈ b.ports → j = k
  /-- Every net has a port. -/
  inhabited : ∀ net ∈ n.nets, net.ports ≠ []
  /-- Exactly the ends of wires have nets. -/
  ends : ∀ p, (n.netOf? p).isSome ↔ IsEnd cs p
  /-- A net is named for a wire with both ends on it. -/
  named : ∀ net ∈ n.nets, ∃ c ∈ cs,
    net.name = "n_" ++ c.name ∧ c.source ∈ net.ports ∧ c.target ∈ net.ports
  /-- No two nets have one name. -/
  names : (n.nets.map Net.name).Nodup
  /-- A net is found by its name. -/
  byName : ∀ net ∈ n.nets, n.net? net.name = some net
  /-- The unmerged wires are those between two nets, in order, each with these nets. -/
  unmerged : n.unmerged = cs.filterMap n.crossing?

section Schematics

variable {n : Netlist} {cs : List Connection}

/-- Exactly the ends of wires have nets. -/
theorem Represents.isSome_netOf?_iff (hr : n.Represents cs) {p : PortRef} :
    (n.netOf? p).isSome ↔ IsEnd cs p := by
  rw [Option.isSome_iff_exists]
  constructor
  · rintro ⟨net, hnet⟩
    obtain ⟨hmem, hp⟩ := mem_of_netOf? hnet
    exact hr.ends net hmem p hp
  · intro hp
    exact hr.exists_net hp

/-- A port has no net iff no wire ends at it. -/
theorem Represents.isNone_netOf?_iff (hr : n.Represents cs) {p : PortRef} :
    (n.netOf? p).isNone ↔ ¬ IsEnd cs p := by
  rw [← hr.isSome_netOf?_iff]
  cases n.netOf? p <;> simp

/-- No two nets have one name. -/
theorem Represents.nodup_names (hr : n.Represents cs) : (n.nets.map Net.name).Nodup := by
  refine List.Nodup.map_on ?_ hr.nodup_nets
  intro a ha b hb hname
  exact hr.eq_of_wire_eq ha hb (wire_eq_of_name_eq hname)

/-- **What the netlist of a schematic says.** It can be built with a table of ports,
    which tells for every port the place of its net; and nets, names and unmerged
    wires are what the connections of the schematic make them. -/
theorem build_faithful {s : Schematic} {n : Netlist} (hs : s.Reachable)
    (h : (build s).result = .ok n) :
    ∃ table, tabulate n.inPort n.outPort s.connections = some ⟨n, table⟩ ∧
      n.Faithful table s.connections := by
  have hnames := hs.consistent.connectionNames
  have hr : n.Represents s.connections := represents_of_build hs.consistent h
  obtain ⟨v, -, -, -, hn⟩ := build_eq_ok.1 h
  have htypes : n.inPort = v.inPort ∧ n.outPort = v.outPort := by
    rw [hn]
    exact types_foldl_connect _ _
  obtain ⟨⟨m, table⟩, ht, hagrees, heq⟩ := tabulate_eq n.inPort n.outPort hnames
  have hm : m = n := by
    rw [htypes.1, htypes.2] at heq
    exact heq.trans hn.symm
  subst hm
  refine ⟨table, ht, ?_⟩
  constructor
  case place => exact hagrees
  case netOf => exact hagrees.netOf?_eq hr
  case once => exact hr.once
  case apart =>
    intro j k a b p ha hb hpa hpb
    have hj := (hagrees p j).2 ⟨a, ha, hpa⟩
    have hk := (hagrees p k).2 ⟨b, hb, hpb⟩
    exact Option.some.inj (hj.symm.trans hk)
  case inhabited =>
    intro net hnet
    obtain ⟨p, hp⟩ := hr.exists_port hnet
    exact List.ne_nil_of_mem hp
  case ends => exact fun p => hr.isSome_netOf?_iff
  case named =>
    intro net hnet
    obtain ⟨c, hc, hname, hsource, htarget⟩ := hr.made net hnet
    exact ⟨c, hc, by rw [Net.name, hname], hsource, htarget⟩
  case names => exact hr.nodup_names
  case byName =>
    intro net hnet
    exact (Schematic.find?_name_eq_some_iff hr.nodup_names).2 ⟨hnet, rfl⟩
  case unmerged =>
    rw [hn]
    exact unmerged_foldl v.inPort v.outPort hnames

/-! A circuit with a wire of every kind: from a port to itself, between two free ports,
to a net against the direction of the others, within a net, and between two nets. -/

/-- The steps that build the circuit. -/
def tangleSteps : List Schematic.Operation :=
  let d := DigitalTypes.numbered 0
  d.operations ++
    [.addNode "x" d.inputPin [] [], .addNode "y" d.inputPin [] [],
     .addNode "p" d.outputPin [] [], .addNode "q" d.outputPin [] [],
     .addConnection "c0" d.wire ⟨"y", "out"⟩ ⟨"y", "out"⟩ [],
     .addConnection "c1" d.wire ⟨"x", "out"⟩ ⟨"p", "in"⟩ [],
     .addConnection "c2" d.wire ⟨"q", "in"⟩ ⟨"x", "out"⟩ [],
     .addConnection "c3" d.wire ⟨"p", "in"⟩ ⟨"q", "in"⟩ [],
     .addConnection "c4" d.wire ⟨"q", "in"⟩ ⟨"y", "out"⟩ []]

/-- The circuit. -/
def tangle : Schematic := tangleSteps.foldl Schematic.perform { name := "tangle" }

/-- The netlist of the circuit. -/
def tangleNetlist : Netlist where
  inPort := (DigitalTypes.numbered 0).inPort
  outPort := (DigitalTypes.numbered 0).outPort
  nets := [⟨"c0", [⟨"y", "out"⟩]⟩, ⟨"c1", [⟨"x", "out"⟩, ⟨"p", "in"⟩, ⟨"q", "in"⟩]⟩]
  unmerged := [⟨"c4", "n_c1", "n_c0"⟩]

/-- Of the wires of the circuit, only the last is between two nets. -/
theorem build_faithful_tangle :
    tangle.Reachable ∧ (build tangle).result = .ok tangleNetlist ∧
      tangle.connections.filterMap tangleNetlist.crossing? = [⟨"c4", "n_c1", "n_c0"⟩] := by
  have hreach : tangle.Reachable := (Schematic.Reachable.new _).foldl (by decide +kernel)
  have hbuild : (build tangle).result = .ok tangleNetlist := by decide +kernel
  obtain ⟨table, -, hfaithful⟩ := build_faithful hreach hbuild
  exact ⟨hreach, hbuild, hfaithful.unmerged.symm⟩

end Schematics

end Netlister.Netlist
