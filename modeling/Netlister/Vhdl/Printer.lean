import Netlister.CodeWriter
import Netlister.Vhdl.Entity

/-! # The text of an entity

  Each part of an entity is a step of a code writer. Bodies are written one level
  deeper than the line that opens them.
-/

namespace Netlister.Vhdl

open CodeWriter

/-- Performs writing steps one after the other. -/
def inOrder : List CodeWriter.Step → CodeWriter.Step
  | [] => pure ()
  | step :: steps => do
    step
    inOrder steps

/-- A bit as VHDL writes it. -/
def bitText (value : Bool) : String := if value then "'1'" else "'0'"

/-- The keyword for a direction. -/
def Direction.text : Direction → String
  | input => "in"
  | output => "out"

/-- The text of a condition. -/
def Condition.text : Condition → String
  | equals name value => "(" ++ name ++ " = " ++ bitText value ++ ")"
  | rising name => "rising_edge(" ++ name ++ ")"
  | falling name => "falling_edge(" ++ name ++ ")"

/-- The text of an expression. -/
def Expression.text : Expression → String
  | reference name => name
  | bit value => bitText value

/-- The declaration of a port, without the semicolon that divides ports. -/
def Port.text (p : Port) : String := p.name ++ " : " ++ p.direction.text ++ " std_logic"

/-- Writes port declarations; a semicolon follows each but the last. -/
def writePorts : List Port → CodeWriter.Step
  | [] => pure ()
  | [p] => line p.text
  | p :: q :: ps => do
    line (p.text ++ ";")
    writePorts (q :: ps)

/-- The declaration of a signal. -/
def Signal.text (s : Signal) : String :=
  match s.initial with
  | none => "signal " ++ s.name ++ " : std_logic;"
  | some value => "signal " ++ s.name ++ " : std_logic := " ++ bitText value ++ ";"

mutual

/-- Writes a statement of a process. -/
def Sequential.write : Sequential → CodeWriter.Step
  | .assign target source => line (target ++ " <= " ++ source.text ++ ";")
  | .choose branches otherwise => do
    writeBranches "if" branches
    writeElse otherwise
    line "end if;"

/-- Writes the statements of a body. -/
def writeBody : List Sequential → CodeWriter.Step
  | [] => pure ()
  | s :: ss => do
    s.write
    writeBody ss

/-- Writes branches, the first of them opened by `keyword`. -/
def writeBranches (keyword : String) : List (Condition × List Sequential) → CodeWriter.Step
  | [] => pure ()
  | (condition, body) :: rest => do
    block (keyword ++ " " ++ condition.text ++ " then") (writeBody body)
    writeBranches "elsif" rest

/-- Writes the statements for the case that no branch applies, if there are any. -/
def writeElse : List Sequential → CodeWriter.Step
  | [] => pure ()
  | s :: ss => block "else" do
    s.write
    writeBody ss

end

/-- Writes a concurrent statement. -/
def Concurrent.write : Concurrent → CodeWriter.Step
  | .assign target source => line (target ++ " <= " ++ source ++ ";")
  | .process label sensitivity body => do
    line (label ++ " : process (" ++ ", ".intercalate sensitivity ++ ")")
    block "begin" (writeBody body)
    line "end process;"

/-- Writes the ports of an entity; nothing if there are none. -/
def writePortClause (ports : List Port) : CodeWriter.Step :=
  match ports with
  | [] => pure ()
  | p :: ps => do
    block "port (" (writePorts (p :: ps))
    line ");"

/-- Writes an entity and its architecture. -/
def Entity.write (e : Entity) : CodeWriter.Step := do
  line "library IEEE;"
  line "use IEEE.std_logic_1164.all;"
  newline
  block ("entity " ++ e.name ++ " is") (writePortClause e.ports)
  line ("end " ++ e.name ++ ";")
  newline
  block ("architecture rtl of " ++ e.name ++ " is") (inOrder (e.signals.map fun s => line s.text))
  block "begin" (inOrder (e.statements.map Concurrent.write))
  line "end rtl;"

/-- The whole text of an entity. -/
def Entity.render (e : Entity) : Except CodeWriter.Error String :=
  match e.write {} with
  | .ok _ w => w.finish
  | .error err _ => .error err

end Netlister.Vhdl
