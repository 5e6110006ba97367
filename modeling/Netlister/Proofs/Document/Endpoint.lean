import Netlister.Document.Elaboration
import Netlister.Proofs.Schematic.Conforming

/-! # Ends of connections

  A document names the end of a connection by a node and a port with a colon between. Both
  names may have colons of their own, and it is the last one that divides them.

  - `splitAtLast_eq_some_iff`: the last colon divides a text in one way.
  - `endpoint_eq_ok`: so what is read from a text is the port whose path the text is, if the
    name of the port has no colon and no name is empty (`PortRef.Writable`).
  - `endpoint_eq_malformed_iff`: a text that cannot be divided, or leaves a name empty, is refused
    as malformed, whatever the schematic is.
  - `endpoint_inverts_path`: in every schematic that can be built, reading ends and writing
    paths undo each other.
-/

namespace Netlister

namespace Document

/-! ### The last separator -/

theorem splitAtLast_of_not_mem {sep : Char} {cs : List Char} (h : sep ∉ cs) :
    splitAtLast sep cs = none := by
  induction cs with
  | nil => rfl
  | cons c cs ih =>
    have hc : c ≠ sep := by
      intro heq
      exact h (by simp [heq])
    have hcs : sep ∉ cs := by
      intro hmem
      exact h (List.mem_cons_of_mem c hmem)
    unfold splitAtLast
    rw [ih hcs, if_neg hc]

theorem not_mem_of_splitAtLast {sep : Char} {cs : List Char} (h : splitAtLast sep cs = none) :
    sep ∉ cs := by
  induction cs with
  | nil => simp
  | cons c cs ih =>
    unfold splitAtLast at h
    cases hsplit : splitAtLast sep cs with
    | some parts =>
      rw [hsplit] at h
      cases h
    | none =>
      rw [hsplit] at h
      by_cases hc : c = sep
      · simp [hc] at h
      · intro hmem
        rcases List.mem_cons.1 hmem with heq | hmem
        · exact hc heq.symm
        · exact ih hsplit hmem

/-- The last occurrence of a character divides a text. -/
theorem splitAtLast_eq_some_iff {sep : Char} {cs before after : List Char} :
    splitAtLast sep cs = some (before, after) ↔ cs = before ++ sep :: after ∧ sep ∉ after := by
  constructor
  · intro h
    induction cs generalizing before with
    | nil => cases h
    | cons c cs ih =>
      unfold splitAtLast at h
      cases hsplit : splitAtLast sep cs with
      | some parts =>
        obtain ⟨b, a⟩ := parts
        rw [hsplit] at h
        cases h
        obtain ⟨hcs, hafter⟩ := ih hsplit
        exact ⟨by rw [hcs, List.cons_append], hafter⟩
      | none =>
        rw [hsplit] at h
        by_cases hc : c = sep
        · simp only [hc, if_true, Option.some.injEq, Prod.mk.injEq] at h
          obtain ⟨rfl, rfl⟩ := h
          exact ⟨by rw [hc, List.nil_append], not_mem_of_splitAtLast hsplit⟩
        · simp [hc] at h
  · rintro ⟨rfl, hafter⟩
    induction before with
    | nil =>
      rw [List.nil_append]
      unfold splitAtLast
      rw [splitAtLast_of_not_mem hafter]
      simp
    | cons c before ih =>
      rw [List.cons_append]
      unfold splitAtLast
      rw [ih]

/-- The text has no colon, or nothing before or behind the last one. -/
inductive Malformed (text : String) : Prop where
  | undivided : ':' ∉ text.toList → Malformed text
  | divided {before after : List Char} : text.toList = before ++ ':' :: after → ':' ∉ after →
      before = [] ∨ after = [] → Malformed text

/-- What the last colon divides into two names is well formed. -/
theorem malformed_iff_of_split {text : String} {before after : List Char}
    (hsplit : splitAtLast ':' text.toList = some (before, after)) :
    Malformed text ↔ before = [] ∨ after = [] := by
  obtain ⟨htext, hcolon⟩ := splitAtLast_eq_some_iff.1 hsplit
  constructor
  · intro h
    cases h with
    | undivided hnone => exact absurd (by simp [htext]) hnone
    | @divided before' after' htext' hcolon' hempty =>
      -- There is only one last colon.
      have hsplit' := splitAtLast_eq_some_iff.2 ⟨htext', hcolon'⟩
      rw [hsplit, Option.some.injEq, Prod.mk.injEq] at hsplit'
      rw [hsplit'.1, hsplit'.2]
      exact hempty
  · intro hempty
    exact .divided htext hcolon hempty

end Document

/-! ### Paths of ports -/

/-- Both names can be read back from the path of the port. -/
structure PortRef.Writable (p : PortRef) : Prop where
  node : p.node ≠ ""
  port : p.port ≠ ""
  colon : ':' ∉ p.port.toList

theorem PortRef.writable_iff {p : PortRef} :
    p.Writable ↔ p.node ≠ "" ∧ p.port ≠ "" ∧ ':' ∉ p.port.toList :=
  ⟨fun h => ⟨h.node, h.port, h.colon⟩, fun h => ⟨h.1, h.2.1, h.2.2⟩⟩

instance (p : PortRef) : Decidable p.Writable := decidable_of_iff _ PortRef.writable_iff.symm

theorem PortRef.toList_path (p : PortRef) :
    p.path.toList = p.node.toList ++ ':' :: p.port.toList := by
  simp [PortRef.path]

/-- A path tells the port, if the name of the port has no colon. -/
theorem PortRef.eq_of_path_eq {p q : PortRef} (hp : ':' ∉ p.port.toList)
    (hq : ':' ∉ q.port.toList) (h : p.path = q.path) : p = q := by
  have hsplit := Document.splitAtLast_eq_some_iff.2 ⟨p.toList_path, hp⟩
  rw [h, Document.splitAtLast_eq_some_iff.2 ⟨q.toList_path, hq⟩, Option.some.injEq,
    Prod.mk.injEq] at hsplit
  obtain ⟨pnode, pport⟩ := p
  obtain ⟨qnode, qport⟩ := q
  rw [PortRef.mk.injEq]
  exact ⟨(String.toList_inj.1 hsplit.1).symm, (String.toList_inj.1 hsplit.2).symm⟩

namespace Document

/-! ### Reading ends -/

theorem portRef_eq_ok {s : Schematic} {node port : String} {p : PortRef} :
    s.portRef node port = .ok p ↔ (s.port? ⟨node, port⟩).isSome ∧ p = ⟨node, port⟩ := by
  unfold Schematic.portRef Schematic.node
  rw [Outcome.bind_eq_ok, Option.isSome_iff_exists]
  simp only [Schematic.require_eq_ok, Schematic.portOf_eq_ok, Schematic.port?_eq_some_iff]
  have hname {found : Netlister.Node} (h : s.node? node = some found) : found.name = node := by
    simpa using List.find?_some h
  constructor
  · rintro ⟨found, hfound, ⟨q, hq⟩, rfl⟩
    rw [hname hfound]
    exact ⟨⟨q, found, hfound, hq⟩, rfl⟩
  · rintro ⟨⟨q, found, hfound, hq⟩, rfl⟩
    exact ⟨found, hfound, ⟨q, hq⟩, by rw [hname hfound]⟩

/-- The end of a connection is the path of an existing port. -/
theorem endpoint_eq_ok {s : Schematic} {connection text : String} {p : PortRef} :
    endpoint s connection text = .ok p ↔ text = p.path ∧ p.Writable ∧ (s.port? p).isSome := by
  have hlift {node port : String} :
      (liftM (s.portRef node port) : Except Error PortRef) = .ok p ↔
        (s.port? ⟨node, port⟩).isSome ∧ p = ⟨node, port⟩ :=
    Outcome.mapError_eq_ok.trans portRef_eq_ok
  unfold endpoint
  constructor
  · intro h
    split at h
    · next n node q port hsplit =>
      obtain ⟨htext, hcolon⟩ := splitAtLast_eq_some_iff.1 hsplit
      obtain ⟨hport, rfl⟩ := hlift.1 h
      refine ⟨?_, ⟨?_, ?_, ?_⟩, hport⟩
      · apply String.toList_inj.1
        rw [htext, PortRef.toList_path, String.toList_ofList, String.toList_ofList]
      · simp
      · simp
      · simpa using hcolon
    · cases h
  · rintro ⟨rfl, hwritable, hport⟩
    have hsplit : splitAtLast ':' p.path.toList = some (p.node.toList, p.port.toList) :=
      splitAtLast_eq_some_iff.2 ⟨p.toList_path, hwritable.colon⟩
    -- Neither name is empty, so both have a first character.
    obtain ⟨n, node, hn⟩ := List.exists_cons_of_ne_nil
      (fun hnil => hwritable.node (String.toList_eq_nil_iff.1 hnil))
    obtain ⟨q, port, hq⟩ := List.exists_cons_of_ne_nil
      (fun hnil => hwritable.port (String.toList_eq_nil_iff.1 hnil))
    rw [hsplit, hn, hq]
    refine hlift.2 ⟨?_, ?_⟩
    · rw [← hn, ← hq, String.ofList_toList, String.ofList_toList]
      exact hport
    · rw [← hn, ← hq, String.ofList_toList, String.ofList_toList]

/-- A text is refused as malformed iff it is. -/
theorem endpoint_eq_malformed_iff {s : Schematic} {connection text c t : String} :
    endpoint s connection text = .error (.malformedEndpoint c t) ↔
      c = connection ∧ t = text ∧ Malformed text := by
  have hrefused : (Except.error (.malformedEndpoint connection text) : Except Error PortRef) =
      .error (.malformedEndpoint c t) ↔ c = connection ∧ t = text := by
    simp [eq_comm]
  unfold endpoint
  cases hsplit : splitAtLast ':' text.toList with
  | none =>
    have hmalformed : Malformed text := .undivided (not_mem_of_splitAtLast hsplit)
    simp only [hmalformed, and_true]
    exact hrefused
  | some parts =>
    obtain ⟨before, after⟩ := parts
    rw [malformed_iff_of_split hsplit]
    cases before with
    | nil =>
      simp only [true_or, and_true]
      exact hrefused
    | cons n node =>
      cases after with
      | nil =>
        simp only [or_true, and_true]
        exact hrefused
      | cons q port =>
        -- Both names are looked up, and one that is not found is another error.
        constructor
        · intro h
          obtain ⟨_, -, hcause⟩ := Outcome.mapError_eq_error.1 h
          cases hcause
        · rintro ⟨-, -, hempty⟩
          simp at hempty

/-- **Ends and paths undo each other.** A text is read as a port iff it is the path of this
    port, no name is empty and the name of the port has no colon. It is refused as malformed
    iff it has no colon or leaves a name empty. So no two ports with such names have one
    path, whatever the nodes are called. -/
theorem endpoint_inverts_path {s : Schematic} (hs : s.Reachable) (connection text : String) :
    (∀ p, endpoint s connection text = .ok p ↔
      p ∈ s.portRefs ∧ text = p.path ∧ p.node ≠ "" ∧ p.port ≠ "" ∧ ':' ∉ p.port.toList) ∧
    (∀ c t, endpoint s connection text = .error (.malformedEndpoint c t) ↔
      c = connection ∧ t = text ∧ Malformed text) ∧
    ((s.portRefs.filter fun p => p.port ≠ "" ∧ ':' ∉ p.port.toList).map PortRef.path).Nodup := by
  refine ⟨?_, fun c t => endpoint_eq_malformed_iff, ?_⟩
  · intro p
    rw [endpoint_eq_ok, PortRef.writable_iff, hs.consistent.mem_portRefs_iff_isSome]
    tauto
  · refine (hs.consistent.nodup_portRefs.filter _).map_on ?_
    intro p hp q hq h
    simp only [List.mem_filter, decide_eq_true_iff] at hp hq
    exact PortRef.eq_of_path_eq hp.2.2 hq.2.2 h

/-! Two nodes of one type, so called that the port `io` of the first and the port `b:io` of
    the second have one path. -/

/-- A type with the two ports. -/
def jackType : Netlister.NodeType := ⟨1, ∅, .ofList [("io", ⟨0, ∅⟩), ("b:io", ⟨0, ∅⟩)]⟩

/-- The schematic with the two nodes. -/
def jacks : Schematic :=
  [Schematic.Operation.addNode "a:b" jackType [] [], .addNode "a" jackType [] []].foldl
    Schematic.perform { name := "jacks" }

/-- The common path is read as the port whose name has no colon. Without a name for the port
    it is malformed. -/
theorem endpoint_inverts_path_jacks :
    jacks.Reachable ∧ (⟨"a:b", "io"⟩ : PortRef) ∈ jacks.portRefs ∧
      (⟨"a", "b:io"⟩ : PortRef) ∈ jacks.portRefs ∧
      (⟨"a:b", "io"⟩ : PortRef).path = (⟨"a", "b:io"⟩ : PortRef).path ∧
      endpoint jacks "w" "a:b:io" = .ok ⟨"a:b", "io"⟩ ∧
      endpoint jacks "w" "a:b:io" ≠ .ok ⟨"a", "b:io"⟩ ∧
      endpoint jacks "w" "a:b:" = .error (.malformedEndpoint "w" "a:b:") := by
  have hreach : jacks.Reachable := (Schematic.Reachable.new _).foldl (by decide +kernel)
  have hfirst : (⟨"a:b", "io"⟩ : PortRef) ∈ jacks.portRefs := by decide +kernel
  have hsecond : (⟨"a", "b:io"⟩ : PortRef) ∈ jacks.portRefs := by decide +kernel
  obtain ⟨hread, -, -⟩ := endpoint_inverts_path hreach "w" "a:b:io"
  obtain ⟨-, hrefused, -⟩ := endpoint_inverts_path hreach "w" "a:b:"
  refine ⟨hreach, hfirst, hsecond, by decide, ?_, ?_, ?_⟩
  · exact (hread _).2 ⟨hfirst, by decide⟩
  · intro h
    obtain ⟨-, -, -, -, hcolon⟩ := (hread _).1 h
    exact hcolon (by decide)
  · have hsplit : "a:b:".toList = "a:b".toList ++ ':' :: [] := by decide
    exact (hrefused _ _).2 ⟨rfl, rfl, .divided hsplit (by decide) (.inr rfl)⟩

end Document

end Netlister
