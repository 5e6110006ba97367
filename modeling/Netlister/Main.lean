import Netlister.CommandLine.Run

/-! # The command line program

  The program looks at the files that its arguments name, performs the run as a
  function of what it saw, writes the product and shows the events.
-/

namespace Netlister.CommandLine

/-! ### Texts -/

/-- The version of the program. -/
def versionText : String := "netlister 0.1.0"

/-- How the program is called. -/
def usageText : String := "Usage: netlister [OPTIONS] [INPUT]"

/-- What the arguments mean. -/
def helpText : String := "\n".intercalate
  ["Generate HDL source from a schematic.",
   "",
   usageText,
   "",
   "Arguments:",
   "  [INPUT]  Schematic to compile, in JSON form",
   "",
   "Options:",
   "      --hdl <HDL>        Target HDL",
   "  -o, --output <OUTPUT>  Directory output products are written to [default: .]",
   "      --no-checks        Generate code even if design rule checks fail",
   "  -v, --verbose",
   "  -h, --help             Print help",
   "  -V, --version          Print version"]

/-- The environment variable that selects the events to be shown. -/
def filterVariable : String := "NETLISTER_LOG"

/-! ### Looking at files -/

/-- The path from the root to a place. -/
def pathTo (place : Place) : String := "/" ++ "/".intercalate place

/-- What is at a place. Reading a directory fails with an error of its own. -/
def lookAt (place : Place) : IO (Option Entry) := do
  try
    return some (.file (← IO.FS.readBinFile (pathTo place)))
  catch
    | .inappropriateType _ 21 _ => return some .directory
    | _ => return none

/-- Adds what is at a place and at those above it. -/
def addPlaces (fs : FileSystem) (place : Place) : IO FileSystem :=
  (List.range place.length).foldlM (fun fs n => do
    let above := place.take (n + 1)
    match ← lookAt above with
    | some entry => return fs.set above entry
    | none => return fs) fs

/-- The place that a path leads to if all its parts are there. -/
def placeOf (fs : FileSystem) (path : String) : Place :=
  let start := if path.startsWith "/" then [] else fs.workingDirectory
  ((FileSystem.splitPath path.toList).map String.ofList).foldl (fun place part =>
    if part = "" || part = "." then place
    else if part = ".." then place.dropLast
    else place ++ [part]) start

/-- Adds what a path leads to. -/
def addPath (fs : FileSystem) (path : String) : IO FileSystem := addPlaces fs (placeOf fs path)

/-- The working directory, and nothing else. -/
def workingDirectory : IO FileSystem := do
  let place := placeOf ⟨[], []⟩ (← IO.currentDir).toString
  addPlaces ⟨place, []⟩ place

/-! ### The program -/

/-- Performs a run on the files that there are. The file that it would write is
    looked at before it is written. -/
def runOnFiles (a : Arguments) (filterText : Option String) : IO Outcome := do
  let paths := a.input.toList ++ [a.output.getD "."]
  let fs ← paths.foldlM addPath (← workingDirectory)
  match (runWith a filterText fs).product with
  | some product => return runWith a filterText (← addPath fs product.path)
  | none => return runWith a filterText fs

/-- Performs a run, writes its product and shows its events. -/
def performOnFiles (a : Arguments) : IO UInt32 := do
  let outcome ← runOnFiles a (← IO.getEnv filterVariable)
  for event in outcome.events do
    IO.eprintln event.terminalLine
  if let some product := outcome.product then
    IO.FS.writeFile product.path product.text
  return outcome.exitCode.toUInt32

/-- Shows why there is no run. -/
def explain (stop : Stop) : IO UInt32 := do
  match stop with
  | .help => IO.println helpText
  | .version => IO.println versionText
  | .misuse => IO.eprintln usageText
  return stop.exitCode.toUInt32

end Netlister.CommandLine

/-- Runs the program. -/
def main (args : List String) : IO UInt32 :=
  match Netlister.CommandLine.Arguments.parse args with
  | .ok a => Netlister.CommandLine.performOnFiles a
  | .error stop => Netlister.CommandLine.explain stop
