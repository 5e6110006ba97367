import Netlister.Products
import Netlister.Proofs.Netlist.Nets
import Netlister.Proofs.Vhdl.Compilation

/-! # What the gating checks rule out

  Files are written only for netlists that pass two checks: no net has several drivers,
  and no input is without a net. One would think that every net then has exactly one
  driver. It has at most one, but may have none: where inputs are wired to inputs only,
  all of them have a net, and nothing drives it.

  - `gatingFailures_eq_nil`: what it means to pass.
  - `driver_of_le_one`: the driver of a net with at most one.
  - `error_driver_of_compile`: compilation fails for want of a driver only where the
    netlist has a net without one.
  - `gating_excludes_overdriven`: behind the checks, a net without a driver is one of
    inputs only, and the production can fail for no other.
-/

namespace Netlister

/-! ### Passing -/

/-- A check that finds nothing but what it was made with passes iff that is nothing. -/
theorem Check.run_ofViolations (name : String) (found : List Violation) :
    (Check.ofViolations name found).run =
      ({ Check.ofViolations name found with state := .done found, verified := 1 },
        .ok found.isEmpty) := rfl

/-- The gating checks pass iff neither finds anything. -/
theorem Products.gatingFailures_eq_nil {s : Schematic} {n : Netlist} :
    Products.gatingFailures s n = .ok [] ↔
      n.multipleDrivers s = [] ∧ n.unconnectedInputs s = [] := by
  unfold Products.gatingFailures Netlist.noMultipleDrivers Netlist.noUnconnectedInputs
  simp only [Check.runAll, Check.run_ofViolations]
  cases n.multipleDrivers s <;> cases n.unconnectedInputs s <;>
    simp [Except.map, Except.mapError]

namespace Netlist

/-! ### Drivers -/

section Drivers

variable {s : Schematic} {n : Netlist} {net : Net}

/-- Without a violation no net has several drivers. -/
theorem length_drivers_le_one (h : n.multipleDrivers s = []) (hnet : net ∈ n.nets) :
    (n.drivers s net).length ≤ 1 := by
  have hnone := List.filterMap_eq_nil_iff.1 h net hnet
  by_contra hlt
  simp [Nat.lt_of_not_le hlt] at hnone

/-- A net with at most one driver has it, or else is undriven. -/
theorem driver_of_le_one (h : (n.drivers s net).length ≤ 1) :
    match n.driver s net with
    | .ok p => p ∈ net.ports ∧ n.isOutput s p ∧ ∀ q ∈ net.ports, n.isOutput s q → q = p
    | .error cause => cause = .undriven net.name ∧ ∀ p ∈ net.ports, ¬ n.isOutput s p := by
  have hmem (p : PortRef) : p ∈ n.drivers s net ↔ p ∈ net.ports ∧ n.isOutput s p :=
    List.mem_filter
  unfold driver
  cases hdrivers : n.drivers s net with
  | nil =>
    rw [hdrivers] at hmem
    exact ⟨rfl, fun p hp hout => List.not_mem_nil ((hmem p).2 ⟨hp, hout⟩)⟩
  | cons p rest =>
    rw [hdrivers, List.length_cons] at h
    have hrest : rest = [] := List.eq_nil_of_length_eq_zero (by omega)
    subst hrest
    rw [hdrivers] at hmem
    have hp := (hmem p).1 List.mem_cons_self
    exact ⟨hp.1, hp.2, fun q hq hout => List.mem_singleton.1 ((hmem q).2 ⟨hq, hout⟩)⟩

/-- Every port on a net takes a bit or gives one. -/
theorem digital_of_build (hs : s.Consistent) (h : (build s).result = .ok n) (hnet : net ∈ n.nets)
    {p : PortRef} (hp : p ∈ net.ports) : n.isInput s p ∨ n.isOutput s p := by
  obtain ⟨c, hc, hend⟩ := (represents_of_build hs h).ends net hnet p hp
  obtain ⟨v, -, -, hchecks, rfl⟩ := build_eq_ok.1 h
  obtain ⟨hin, hout⟩ := types_foldl_connect s.connections ⟨v.inPort, v.outPort, [], []⟩
  unfold isInput isOutput
  rw [hin, hout, decide_eq_true_iff, decide_eq_true_iff]
  exact type_of_checkConnection (hchecks c hc) hend

end Drivers

end Netlist

namespace Vhdl

open Outcome

/-! ### Failures for want of a driver -/

/-- A compilation fails for want of a driver only if a net has no single one. -/
theorem error_driver_of_compile {s : Schematic} {n : Netlist} {cause : Netlist.DriverError}
    (h : (compile s n).result = .error (.driver cause)) :
    ∃ net ∈ n.nets, n.driver s net = .error cause := by
  rcases compile_error_cases h with hnode | ⟨net, hnet, _, heq, hdriver⟩ | ⟨_, _, -, heq, -⟩
  · exact False.elim hnode
  · cases heq
    exact ⟨net, hnet, hdriver⟩
  · cases heq

/-- The writer adds no such failure. -/
theorem error_driver_of_generate {s : Schematic} {n : Netlist} {cause : Netlist.DriverError}
    (h : (generate s n).result = .error (.driver cause)) :
    ∃ net ∈ n.nets, n.driver s net = .error cause := by
  unfold generate at h
  simp only [Logged.result_bind, Logged.result_report, Logged.result_ofExcept, ok_bind] at h
  rcases bind_eq_error.1 h with h | ⟨e, -, h⟩
  · exact error_driver_of_compile h
  · obtain ⟨_, -, h⟩ := mapError_eq_error.1 h
    cases h

end Vhdl

namespace Products

open Outcome

/-! ### Production

Only the generation of code has errors of its language. -/

theorem requireFileStem_ne_vhdl (name : String) (cause : Vhdl.Error) :
    requireFileStem name ≠ .error (.vhdl cause) := by
  intro h
  unfold requireFileStem at h
  split at h
  · cases h
  · cases h

theorem requireDirectory_ne_vhdl (fs : FileSystem) (path : String) (cause : Vhdl.Error) :
    requireDirectory fs path ≠ .error (.vhdl cause) := by
  intro h
  unfold requireDirectory at h
  split at h
  · cases h
  · cases h
  · cases h
  · cases h

theorem reportUnmerged_eq_ok (n : Netlist) : (reportUnmerged n).result = .ok () := rfl

/-- Checks that fail are no errors of the language. -/
theorem checkNetlist_ne_vhdl (s : Schematic) (n : Netlist) (o : Options) (cause : Vhdl.Error) :
    (checkNetlist s n o).result ≠ .error (.vhdl cause) := by
  intro h
  unfold checkNetlist at h
  split at h
  · rw [Logged.result_bind, Vhdl.result_lift] at h
    rcases bind_eq_error.1 h with h | ⟨failures, -, h⟩
    · unfold gatingFailures at h
      obtain ⟨_, -, h⟩ := mapError_eq_error.1 h
      cases h
    · cases failures with
      | nil => cases h
      | cons failure failures => cases h
  · cases h

/-- The production goes on if checks are not to be run, or pass. -/
theorem gatingFailures_of_checkNetlist {s : Schematic} {n : Netlist} {o : Options} {u : Unit}
    (h : (checkNetlist s n o).result = .ok u) (hrun : o.runChecks = true) :
    gatingFailures s n = .ok [] := by
  unfold checkNetlist at h
  rw [if_pos hrun, Logged.result_bind] at h
  obtain ⟨failures, hfailures, h⟩ := bind_eq_ok.1 h
  cases failures with
  | nil => exact hfailures
  | cons failure failures => cases h

/-- The path of the source file for a schematic. -/
def Options.sourcePath (o : Options) (s : Schematic) : String :=
  joinPath o.outputDirectory (s.name ++ "." ++ o.target.extension)

/-- A production is a sequence of checks and results, with the write at its end. -/
theorem result_produce (fs : FileSystem) (s : Schematic) (o : Options) :
    (produce fs s o).result = (do
      requireFileStem s.name
      requireDirectory fs o.outputDirectory
      let n ← (Netlist.build s).result.mapError Error.netlist
      (checkNetlist s n o).result
      (reportUnmerged n).result
      let text ← (Vhdl.generate s n).result.mapError Error.vhdl
      let written ← (fs.writeText (o.sourcePath s) text).mapError (Error.file (o.sourcePath s))
      return (⟨o.sourcePath s, text⟩, written)) := by
  unfold produce render report
  simp only [Logged.result_bind, Logged.result_report, Logged.result_mapError, Vhdl.result_lift,
    ok_bind, bind_assoc]
  rfl

/-- A production that fails for want of a driver has built a netlist, passed the checks that
    were to be run, and found a net without a single driver. -/
theorem error_driver_of_produce {fs : FileSystem} {s : Schematic} {o : Options}
    {cause : Netlist.DriverError} (h : (produce fs s o).result = .error (.vhdl (.driver cause))) :
    ∃ n, (Netlist.build s).result = .ok n ∧
      (o.runChecks = true → gatingFailures s n = .ok []) ∧
      ∃ net ∈ n.nets, n.driver s net = .error cause := by
  rw [result_produce] at h
  rcases bind_eq_error.1 h with h | ⟨_, -, h⟩
  · exact absurd h (requireFileStem_ne_vhdl s.name _)
  rcases bind_eq_error.1 h with h | ⟨_, -, h⟩
  · exact absurd h (requireDirectory_ne_vhdl fs o.outputDirectory _)
  rcases bind_eq_error.1 h with h | ⟨n, hbuild, h⟩
  · obtain ⟨_, -, h⟩ := mapError_eq_error.1 h
    cases h
  rcases bind_eq_error.1 h with h | ⟨_, hcheck, h⟩
  · exact absurd h (checkNetlist_ne_vhdl s n o _)
  rw [reportUnmerged_eq_ok, ok_bind] at h
  rcases bind_eq_error.1 h with h | ⟨text, -, h⟩
  · obtain ⟨_, hgenerate, h⟩ := mapError_eq_error.1 h
    cases h
    exact ⟨n, mapError_eq_ok.1 hbuild, gatingFailures_of_checkNetlist hcheck,
      Vhdl.error_driver_of_generate hgenerate⟩
  -- What is left is to write the file.
  rcases bind_eq_error.1 h with h | ⟨_, -, h⟩
  · obtain ⟨_, -, h⟩ := mapError_eq_error.1 h
    cases h
  · cases h

/-- Behind the checks, the driver of a net is missing only where no port gives a bit. -/
theorem driver_of_gating {s : Schematic} {n : Netlist} (hs : s.Consistent)
    (hbuild : (Netlist.build s).result = .ok n) (hpass : gatingFailures s n = .ok []) {net : Net}
    (hnet : net ∈ n.nets) :
    match n.driver s net with
    | .ok p => p ∈ net.ports ∧ n.isOutput s p ∧ ∀ q ∈ net.ports, n.isOutput s q → q = p
    | .error cause => cause = .undriven net.name ∧
        ∀ p ∈ net.ports, n.isInput s p ∧ ¬ n.isOutput s p := by
  -- The check of unconnected inputs adds nothing: it asks for a net, not for its driver.
  have hone := Netlist.length_drivers_le_one (gatingFailures_eq_nil.1 hpass).1 hnet
  have hdriver := Netlist.driver_of_le_one hone
  cases hresult : n.driver s net with
  | ok p =>
    rw [hresult] at hdriver
    exact hdriver
  | error cause =>
    rw [hresult] at hdriver
    obtain ⟨hcause, hnone⟩ := hdriver
    refine ⟨hcause, fun p hp => ⟨?_, hnone p hp⟩⟩
    exact (Netlist.digital_of_build hs hbuild hnet hp).resolve_right (hnone p hp)

/-- **Behind the gating checks no net has several drivers**, but a net may have none: then
    all its ports take a bit and none gives one. Of the two ways in which the driver of a net
    is missing, a production that runs the checks can end in this one only. -/
theorem gating_excludes_overdriven {s : Schematic} {n : Netlist} (hs : s.Reachable)
    (hbuild : (Netlist.build s).result = .ok n) :
    (gatingFailures s n = .ok [] → ∀ net ∈ n.nets,
      match n.driver s net with
      | .ok p => p ∈ net.ports ∧ n.isOutput s p ∧ ∀ q ∈ net.ports, n.isOutput s q → q = p
      | .error cause => cause = .undriven net.name ∧
          ∀ p ∈ net.ports, n.isInput s p ∧ ¬ n.isOutput s p) ∧
    ∀ fs o cause, o.runChecks = true →
      (produce fs s o).result = .error (.vhdl (.driver cause)) →
        gatingFailures s n = .ok [] ∧ ∃ net ∈ n.nets, cause = .undriven net.name ∧
          ∀ p ∈ net.ports, n.isInput s p ∧ ¬ n.isOutput s p := by
  have hdriver (hpass : gatingFailures s n = .ok []) (net : Net) (hnet : net ∈ n.nets) :=
    driver_of_gating hs.consistent hbuild hpass hnet
  refine ⟨hdriver, ?_⟩
  -- A production that gets as far as asking for drivers has passed the checks.
  intro fs o cause hrun hproduce
  obtain ⟨n', hbuild', hpass, net, hnet, hcause⟩ := error_driver_of_produce hproduce
  have hn : n' = n := Except.ok.inj (hbuild'.symm.trans hbuild)
  subst hn
  have hundriven := hdriver (hpass hrun) net hnet
  rw [hcause] at hundriven
  exact ⟨hpass hrun, net, hnet, hundriven⟩

/-- An input pin with its output pin, and two output pins that are wired to each other. -/
def facingPinsSteps : List Schematic.Operation :=
  let d := DigitalTypes.numbered 0
  d.operations ++
    [.addNode "x" d.inputPin [] [], .addNode "y" d.outputPin [] [],
     .addNode "a" d.outputPin [] [], .addNode "b" d.outputPin [] [],
     .addConnection "c0" d.wire ⟨"a", "in"⟩ ⟨"b", "in"⟩ [],
     .addConnection "c1" d.wire ⟨"x", "out"⟩ ⟨"y", "in"⟩ []]

/-- The circuit with the four pins. -/
def facingPins : Schematic := facingPinsSteps.foldl Schematic.perform { name := "facing" }

/-- The netlist of the four pins: one net for each pair. -/
def facingPinsNetlist : Netlist where
  inPort := (DigitalTypes.numbered 0).inPort
  outPort := (DigitalTypes.numbered 0).outPort
  nets := [⟨"c0", [⟨"a", "in"⟩, ⟨"b", "in"⟩]⟩, ⟨"c1", [⟨"x", "out"⟩, ⟨"y", "in"⟩]⟩]

theorem reachable_facingPins : facingPins.Reachable :=
  (Schematic.Reachable.new _).foldl (by decide +kernel)

theorem build_facingPins : (Netlist.build facingPins).result = .ok facingPinsNetlist := by
  decide +kernel

theorem gatingFailures_facingPins : gatingFailures facingPins facingPinsNetlist = .ok [] :=
  gatingFailures_eq_nil.2 ⟨by decide +kernel, by decide +kernel⟩

theorem produce_facingPins :
    (produce ⟨[], []⟩ facingPins {}).result = .error (.vhdl (.driver (.undriven "n_c0"))) := rfl

/-- The two pins that face each other have a net, so that no input is unconnected, but nothing
    drives it. The checks pass, and the production ends in an internal error. -/
theorem gating_admits_undriven :
    facingPins.Reachable ∧ (Netlist.build facingPins).result = .ok facingPinsNetlist ∧
      gatingFailures facingPins facingPinsNetlist = .ok [] ∧
      facingPinsNetlist.driver facingPins ⟨"c0", [⟨"a", "in"⟩, ⟨"b", "in"⟩]⟩ =
        .error (.undriven "n_c0") ∧
      (produce ⟨[], []⟩ facingPins {}).result = .error (.vhdl (.driver (.undriven "n_c0"))) :=
  ⟨reachable_facingPins, build_facingPins, gatingFailures_facingPins, by decide +kernel,
    produce_facingPins⟩

/-- Of the two nets one has a single driver, and the other has inputs only. -/
theorem gating_excludes_overdriven_facingPins :
    facingPins.Reachable ∧ (Netlist.build facingPins).result = .ok facingPinsNetlist ∧
      gatingFailures facingPins facingPinsNetlist = .ok [] ∧
      (produce ⟨[], []⟩ facingPins {}).result = .error (.vhdl (.driver (.undriven "n_c0"))) ∧
      (∀ q ∈ [(⟨"x", "out"⟩ : PortRef), ⟨"y", "in"⟩],
        facingPinsNetlist.isOutput facingPins q → q = ⟨"x", "out"⟩) ∧
      ∃ net ∈ facingPinsNetlist.nets, Netlist.DriverError.undriven "n_c0" = .undriven net.name ∧
        ∀ p ∈ net.ports, facingPinsNetlist.isInput facingPins p ∧
          ¬ facingPinsNetlist.isOutput facingPins p := by
  obtain ⟨hnets, hproduce⟩ := gating_excludes_overdriven reachable_facingPins build_facingPins
  have hdriven := hnets gatingFailures_facingPins ⟨"c1", [⟨"x", "out"⟩, ⟨"y", "in"⟩]⟩
    (by decide +kernel)
  have hdriver : facingPinsNetlist.driver facingPins ⟨"c1", [⟨"x", "out"⟩, ⟨"y", "in"⟩]⟩ =
      .ok ⟨"x", "out"⟩ := by
    decide +kernel
  rw [hdriver] at hdriven
  exact ⟨reachable_facingPins, build_facingPins, gatingFailures_facingPins, produce_facingPins,
    hdriven.2.2, (hproduce ⟨[], []⟩ {} _ rfl produce_facingPins).2⟩

end Products

end Netlister
