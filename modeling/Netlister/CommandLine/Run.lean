import Netlister.CommandLine.Arguments
import Netlister.Document.Elaboration
import Netlister.Log.Filter

/-! # Running the program

  A run reads a document, builds its schematic and writes its output products. It
  is a function of the arguments, the file system and the text that selects the
  events to be shown.
-/

namespace Netlister.CommandLine

/-- What a run leads to. -/
structure Outcome where
  /-- Zero if nothing failed. -/
  exitCode : Nat
  /-- The events that are shown. -/
  events : List Log.Event
  /-- The file that was written, if one was. -/
  product : Option Products.Product
  /-- The file system after the run. -/
  files : FileSystem

/-- A part of a run that was not completed; it has been reported. -/
structure Incomplete where
  /-- The exit code. -/
  exitCode : Nat

/-- An event of the run. -/
def event (level : Log.Level) (message : String) : Log.Event :=
  { level, source := .program, message }

/-- Goes on with the result of a part of the run; a failure is reported with the
    given words before its message, and ends the run. -/
def orFail {ε α : Type} (words : String) (message : ε → String) (x : Logged ε α) :
    Logged Incomplete α :=
  match x.result with
  | .ok a => ⟨x.events, .ok a⟩
  | .error e => ⟨x.events ++ [event .error (words ++ message e)], .error ⟨1⟩⟩

/-- The language to produce. -/
def targetOf (a : Arguments) : Logged Incomplete Products.Target :=
  match a.hdl with
  | some target => pure target
  | none => do
    let target : Products.Target := .vhdl
    Logged.report (event .warn ("no HDL specified, defaulting to " ++ target.name))
    return target

/-- The file to read; without one there is nothing to do. -/
def inputOf (a : Arguments) : Logged Incomplete String :=
  match a.input with
  | some path => pure path
  | none => do
    Logged.report (event .warn "no input files, nothing to do")
    Logged.ofExcept (.error ⟨0⟩)

/-- The words before the reason why there is no schematic. -/
def noSchematic : String := "error while building schematic: "

/-- Performs a run. -/
def perform (a : Arguments) (fs : FileSystem) :
    Logged Incomplete (Products.Product × FileSystem) := do
  let target ← targetOf a
  let input ← inputOf a
  let text ← orFail (noSchematic ++ s!"could not read '{input}': ") FileError.message
    (Logged.ofExcept (fs.readText input))
  let (schematic, _) ← orFail noSchematic Document.Error.message (Document.load {} text)
  let options : Products.Options :=
    { outputDirectory := a.output.getD ".", runChecks := !a.noChecks, target }
  orFail "error while generating code: " Products.Error.message
    (Products.produce fs schematic options)

/-- The exit code of a run that is given up before it begins. -/
def abortedCode : Nat := 101

/-- A run with given arguments. Without a filter for its events nothing is done. -/
def runWith (a : Arguments) (filterText : Option String) (fs : FileSystem) : Outcome :=
  match Log.Filter.forRun? filterText (if a.verbose then .debug else .info) with
  | none => ⟨abortedCode, [], none, fs⟩
  | some filter =>
    let performed := perform a fs
    let events := performed.events.filter filter.shows
    match performed.result with
    | .ok (product, files) => ⟨0, events, some product, files⟩
    | .error incomplete => ⟨incomplete.exitCode, events, none, fs⟩

/-- A run of the program. -/
def run (args : List String) (filterText : Option String) (fs : FileSystem) : Outcome :=
  match Arguments.parse args with
  | .ok a => runWith a filterText fs
  | .error stop => ⟨stop.exitCode, [], none, fs⟩

end Netlister.CommandLine
