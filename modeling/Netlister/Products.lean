import Netlister.Check.Rules
import Netlister.FileSystem
import Netlister.Vhdl.Compiler

/-! # Output products

  The way from a schematic to a source file: its netlist is built and checked, its
  text is generated, and only then a file is written. A failure on the way leaves
  the file system as it was.
-/

namespace Netlister.Products

/-! ### Options -/

/-- A language that source files are written in. -/
inductive Target where
  | vhdl
deriving DecidableEq

/-- The name of a language. -/
def Target.name : Target → String
  | vhdl => "VHDL"

/-- How names of source files in a language end. -/
def Target.extension : Target → String
  | vhdl => "vhd"

/-- What to produce, and where. -/
structure Options where
  /-- The directory that files are written to. -/
  outputDirectory : String := "."
  /-- Whether a failed check keeps files from being written. -/
  runChecks : Bool := true
  /-- The language of the files. -/
  target : Target := .vhdl
deriving DecidableEq

/-! ### Errors -/

/-- Why nothing is produced. -/
inductive Error where
  /-- No language has this name. -/
  | unknownTarget (name : String)
  /-- The output directory does not exist. -/
  | outputDirectoryMissing (path : String)
  /-- The output directory is something else. -/
  | outputDirectoryNotADirectory (path : String)
  /-- No files can be made in the output directory. -/
  | outputDirectoryReadOnly (path : String)
  /-- The name of the schematic cannot be the name of a file. -/
  | invalidFileName (name : String)
  /-- Design rule checks failed. -/
  | checksFailed (failures : List CheckFailure)
  /-- The schematic has no netlist. -/
  | netlist (cause : Netlist.Error)
  /-- A design rule check has no result. -/
  | check (cause : NoResult)
  /-- The netlist has no entity. -/
  | vhdl (cause : Vhdl.Error)
  /-- A file or directory cannot be used. -/
  | file (path : String) (cause : FileError)

/-- The message for an error. -/
def Error.message : Error → String
  | unknownTarget name => s!"unknown HDL '{name}'"
  | outputDirectoryMissing path => s!"output directory '{path}' does not exist"
  | outputDirectoryNotADirectory path => s!"output directory '{path}' is not a directory"
  | outputDirectoryReadOnly path => s!"output directory '{path}' is not writable"
  | invalidFileName name => s!"schematic name '{name}' cannot be used as a file name"
  | checksFailed failures =>
    "design rule checks failed: " ++ "; ".intercalate (failures.map CheckFailure.message)
  | netlist cause => cause.message
  | check cause => cause.message
  | vhdl cause => cause.message
  | file path cause => s!"could not write '{path}': " ++ cause.message

/-- The language with a name, in any case of ASCII letters. -/
def Target.ofName (name : String) : Except Error Target :=
  if Vhdl.Identifier.lower name = "vhdl" then .ok .vhdl else .error (.unknownTarget name)

/-! ### Conditions -/

/-- Fails for a name that is no single name in a directory. -/
def requireFileStem (name : String) : Except Error Unit :=
  if name = "" ∨ name = "." ∨ name = ".." ∨ '/' ∈ name.toList ∨ '\\' ∈ name.toList then
    .error (.invalidFileName name)
  else .ok ()

/-- Fails for an output directory that is none. -/
def requireDirectory (fs : FileSystem) (path : String) : Except Error Unit :=
  match fs.status path with
  | .ok .directory => .ok ()
  | .ok (.file _) => .error (.outputDirectoryNotADirectory path)
  | .error .notFound => .error (.outputDirectoryMissing path)
  | .error cause => .error (.file path cause)

/-- Why files cannot be written to an output directory in which the system makes no new
    file. -/
def unwritable (path : String) : FileError → Error
  | .permissionDenied => .outputDirectoryReadOnly path
  | cause => .file path cause

/-- The path of a name in a directory, as Unix joins the two. -/
def joinPath (directory name : String) : String :=
  if directory = "" then name
  else if directory.toList.getLast? = some '/' then directory ++ name
  else directory ++ "/" ++ name

/-! ### Production -/

/-- An event of the production. -/
def event (level : Log.Level) (message : String) : Log.Event :=
  { level, source := .products, message }

/-- Reports an event of the production. -/
def report (level : Log.Level) (message : String) : Logged Error Unit :=
  Logged.report (event level message)

/-- Runs the checks that keep files from being written. -/
def gatingFailures (s : Schematic) (n : Netlist) : Except Error (List CheckFailure) :=
  (Check.runAll [n.noMultipleDrivers s, n.noUnconnectedInputs s]).2.mapError .check

/-- Checks a netlist, if checks are to be run. -/
def checkNetlist (s : Schematic) (n : Netlist) (o : Options) : Logged Error Unit := do
  if o.runChecks then
    match ← gatingFailures s n with
    | [] => report .info "design rule checks passed"
    | failures => Logged.ofExcept (.error (.checksFailed failures))
  else report .warn "design rule checks are disabled"

/-- Reports connections between nets, which keep nothing from being written. -/
def reportUnmerged (n : Netlist) : Logged Error Unit :=
  match n.noUnmergedConnections.run with
  | (_, .error cause) => Logged.ofExcept (.error (.check cause))
  | (check, .ok _) => Logged.reportAll (check.violations.map fun v => event .warn v.message)

/-- A source file. -/
structure Product where
  /-- The path of the file. -/
  path : String
  /-- The text of the file. -/
  text : String
deriving DecidableEq

/-- The source file for a schematic. -/
def render (fs : FileSystem) (s : Schematic) (o : Options) : Logged Error Product := do
  requireFileStem s.name
  requireDirectory fs o.outputDirectory
  report .info ("generating " ++ o.target.name ++ s!" for '{s.name}' in " ++ o.outputDirectory)
  let n ← (Netlist.build s).mapError .netlist
  report .info s!"netlist built with {n.nets.length} net(s)"
  checkNetlist s n o
  reportUnmerged n
  let text ← (Vhdl.generate s n).mapError .vhdl
  report .debug s!"rendered {text.utf8ByteSize} byte(s)"
  return ⟨joinPath o.outputDirectory (s.name ++ "." ++ o.target.extension), text⟩

/-- Writes the source file for a schematic: the file, and the file system with
    it. -/
def produce (fs : FileSystem) (s : Schematic) (o : Options) :
    Logged Error (Product × FileSystem) := do
  -- The text is complete before any file is touched.
  let product ← render fs s o
  let written ← (fs.writeText product.path product.text).mapError (Error.file product.path)
  report .info ("wrote " ++ product.path)
  return (product, written)

end Netlister.Products
