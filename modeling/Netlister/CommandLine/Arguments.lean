import Netlister.Products

/-! # Arguments of the command line

  Arguments are taken from left to right; the first that is wrong, or that asks
  for help or the version, ends it. Each option may be given once. A value stands
  in the same argument or in the next one, where it may not look like an option.
  After two dashes nothing is an option.
-/

namespace Netlister.CommandLine

open Products (Target)

/-- What the arguments say. -/
structure Arguments where
  /-- The language to produce, if it is given. -/
  hdl : Option Target := none
  /-- The directory to write to, if it is given. -/
  output : Option String := none
  /-- Whether to write files although checks fail. -/
  noChecks : Bool := false
  /-- Whether to report details. -/
  verbose : Bool := false
  /-- The file to read, if it is given. -/
  input : Option String := none
deriving DecidableEq

/-- Why the arguments do not lead to a run. -/
inductive Stop where
  /-- Help is asked for. -/
  | help
  /-- The version is asked for. -/
  | version
  /-- The arguments are wrong. -/
  | misuse
deriving DecidableEq

/-- The exit code when arguments do not lead to a run. -/
def Stop.exitCode : Stop → Nat
  | help => 0
  | version => 0
  | misuse => 2

/-! ### Values -/

/-- Sets a value that may be given once. -/
def once {α : Type} (old : Option α) (value : α) : Except Stop (Option α) :=
  match old with
  | some _ => .error .misuse
  | none => .ok (some value)

/-- Sets a flag that may be given once. -/
def onceFlag (old : Bool) : Except Stop Bool := if old then .error .misuse else .ok true

/-- Sets a path, which may not be empty. -/
def oncePath (old : Option String) (path : String) : Except Stop (Option String) :=
  if path = "" then .error .misuse else once old path

namespace Arguments

/-- Takes the language. -/
def setHdl (a : Arguments) (name : String) : Except Stop Arguments :=
  match Target.ofName name with
  | .ok target => return { a with hdl := ← once a.hdl target }
  | .error _ => .error .misuse

/-- Takes the directory to write to. -/
def setOutput (a : Arguments) (path : String) : Except Stop Arguments :=
  return { a with output := ← oncePath a.output path }

/-- Takes the file to read. -/
def setInput (a : Arguments) (path : String) : Except Stop Arguments :=
  return { a with input := ← oncePath a.input path }

end Arguments

/-! ### Switches -/

/-- A switch. -/
inductive Switch where
  | hdl
  | output
  | noChecks
  | verbose
  | help
  | version
deriving DecidableEq

namespace Switch

/-- The switch with a long name. -/
def ofLong? (name : List Char) : Option Switch :=
  [("hdl", hdl), ("output", output), ("no-checks", noChecks), ("verbose", verbose),
   ("help", help), ("version", version)].lookup (String.ofList name)

/-- The switch with a short name. -/
def ofShort? (c : Char) : Option Switch :=
  [('o', output), ('v', verbose), ('h', help), ('V', version)].lookup c

/-- Whether a switch takes a value. -/
def takesValue : Switch → Bool
  | hdl => true
  | output => true
  | _ => false

/-- Takes the value of a switch. -/
def setValue (a : Arguments) (value : String) : Switch → Except Stop Arguments
  | hdl => a.setHdl value
  | output => a.setOutput value
  | _ => .error .misuse

/-- Takes a switch without value. -/
def set (a : Arguments) : Switch → Except Stop Arguments
  | noChecks => return { a with noChecks := ← onceFlag a.noChecks }
  | verbose => return { a with verbose := ← onceFlag a.verbose }
  | help => .error .help
  | version => .error .version
  | hdl => .error .misuse
  | output => .error .misuse

end Switch

/-! ### Arguments in order -/

/-- How far the arguments have been taken. -/
structure Progress where
  /-- What they said so far. -/
  arguments : Arguments := {}
  /-- The switch whose value has to come next. -/
  pending : Option Switch := none
  /-- Whether all further arguments are files to read. -/
  inputsOnly : Bool := false

/-- Takes a switch, whose value is the next argument if it needs one. -/
def Progress.take (p : Progress) (s : Switch) : Except Stop Progress :=
  if s.takesValue then .ok { p with pending := some s }
  else return { p with arguments := ← s.set p.arguments }

/-- Takes a switch by its long name; its value may follow an equals sign. -/
def Progress.takeLong (p : Progress) (text : List Char) : Except Stop Progress :=
  match Switch.ofLong? (text.takeWhile (· ≠ '=')), text.dropWhile (· ≠ '=') with
  | none, _ => .error .misuse
  | some s, [] => p.take s
  | some s, _ :: value => return { p with arguments := ← s.setValue p.arguments (String.ofList value) }

/-- The value of a switch that is written right after its short name. -/
def attachedValue : List Char → List Char
  | '=' :: value => value
  | value => value

/-- Takes switches by their short names, up to one that takes a value: what is
    left of the argument then is the value, if there is anything left. -/
def Progress.takeShort (p : Progress) : List Char → Except Stop Progress
  | [] => .ok p
  | c :: cs =>
    match Switch.ofShort? c with
    | none => .error .misuse
    | some s =>
      if s.takesValue && !cs.isEmpty then
        return { p with arguments := ← s.setValue p.arguments (String.ofList (attachedValue cs)) }
      else do (← p.take s).takeShort cs

/-- Takes an argument. -/
def Progress.step (p : Progress) (arg : String) : Except Stop Progress :=
  match p.pending, p.inputsOnly, arg.toList with
  -- What looks like a switch is no value; a single dash does not look like one.
  | some _, _, '-' :: _ :: _ => .error .misuse
  | some s, _, _ => return { p with arguments := ← s.setValue p.arguments arg, pending := none }
  | none, false, ['-', '-'] => .ok { p with inputsOnly := true }
  | none, false, '-' :: '-' :: text => p.takeLong text
  | none, false, '-' :: c :: cs => p.takeShort (c :: cs)
  | none, _, _ => return { p with arguments := ← p.arguments.setInput arg }

/-- What arguments say. -/
def Arguments.parse (args : List String) : Except Stop Arguments := do
  let p ← args.foldlM Progress.step {}
  if p.pending.isSome then throw .misuse
  return p.arguments

end Netlister.CommandLine
