/-! # Design rule checks

  A check looks for violations of one rule. It looks once: what the first
  verification finds is kept and answers every later run. A verification that
  fails leaves the check without a result for good.

  Main definitions: `Check.run` runs one check, `Check.runAll` several in order,
  and a `CheckFailure` is a check that did not pass with all it found.
-/

namespace Netlister

/-- A breach of a design rule. -/
inductive Violation where
  /-- A net has several drivers; these are their paths. -/
  | multipleDrivers (net : String) (drivers : List String)
  /-- An input port is on no net. -/
  | unconnectedInput (node port : String)
  /-- A connection lies between two nets that were not merged. -/
  | unmergedConnection (connection fromNet toNet : String)
deriving DecidableEq

/-- The message for a violation. -/
def Violation.message : Violation → String
  | multipleDrivers net drivers => s!"net '{net}' is driven by " ++ ", ".intercalate drivers
  | unconnectedInput node port => s!"input port '{node}:{port}' is not connected"
  | unmergedConnection connection fromNet toNet =>
    s!"connection '{connection}' joins nets '{fromNet}' and '{toNet}' without merging them"

/-- A check ended without a result. -/
structure NoResult where
  /-- The name of the check. -/
  check : String
deriving DecidableEq

/-- The message for a check without a result. -/
def NoResult.message (e : NoResult) : String :=
  s!"internal error: design rule check '{e.check}' produced no result"

/-- How far a check has come. -/
inductive CheckState where
  /-- It was never run. -/
  | notRun
  /-- Its verification began and never ended. -/
  | running
  /-- Its verification found these violations. -/
  | done (violations : List Violation)
deriving DecidableEq

/-- The violations that a verification has found. -/
def CheckState.violations : CheckState → List Violation
  | done violations => violations
  | _ => []

/-- A check of one design rule. -/
structure Check where
  /-- The name of the rule. -/
  name : String
  /-- What the verification finds when it is performed for the first, second, … time. -/
  verify : Nat → Except NoResult (List Violation)
  /-- How far the check has come. -/
  state : CheckState := .notRun
  /-- How many verifications were performed. -/
  verified : Nat := 0

/-- A check that did not pass, with all it found. -/
structure CheckFailure where
  /-- The name of the check. -/
  check : String
  /-- What it found. -/
  violations : List Violation
deriving DecidableEq

/-- The message for a failed check. -/
def CheckFailure.message (f : CheckFailure) : String :=
  match f.violations with
  | [] => f.check
  | violations => f.check ++ ": " ++ "; ".intercalate (violations.map Violation.message)

namespace Check

/-- The violations that a check has found so far. -/
def violations (c : Check) : List Violation := c.state.violations

/-- Runs a check: the check afterwards, and whether it passes. Only a check that
    was never run performs its verification. -/
def run (c : Check) : Check × Except NoResult Bool :=
  match c.state with
  | .notRun =>
    match c.verify c.verified with
    | .ok found => ({ c with state := .done found, verified := c.verified + 1 }, .ok found.isEmpty)
    -- The check stays `running`, so that it is never verified again.
    | .error e => ({ c with state := .running, verified := c.verified + 1 }, .error e)
  | .running => (c, .error ⟨c.name⟩)
  | .done found => (c, .ok found.isEmpty)

/-- Runs checks in order, up to the first one without a result: the checks
    afterwards, and those that did not pass. -/
def runAll : List Check → List Check × Except NoResult (List CheckFailure)
  | [] => ([], .ok [])
  | c :: cs =>
    match c.run with
    | (c', .error e) => (c' :: cs, .error e)
    | (c', .ok passed) =>
      let (cs', result) := runAll cs
      (c' :: cs', result.map fun failures =>
        if passed then failures else ⟨c'.name, c'.violations⟩ :: failures)

end Check

end Netlister
