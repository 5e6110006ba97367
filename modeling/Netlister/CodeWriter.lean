/-! # Writing indented text

  A code writer collects text and knows how deep it is indented. Every step
  either succeeds or fails; the text written and the depth reached before a
  failure stay. Leaving a level that was never entered is a failure, and so is
  ending the text with a level still open.

  Levels are counted in a word of 32 bits, without a check for overflow. One level
  below the deepest that can be counted is level zero again.
-/

namespace Netlister

/-- Text under construction, and the depth at which its next line starts. -/
structure CodeWriter where
  /-- All text written so far. -/
  text : String := ""
  /-- How many levels are open. -/
  level : UInt32 := 0

namespace CodeWriter

/-- What can go wrong when text is written. -/
inductive Error where
  /-- A level was left at depth zero. -/
  | underflow
  /-- The text ended with levels still open. -/
  | unbalanced (level : UInt32)
deriving DecidableEq

/-- The message for an error. -/
def Error.message : Error → String
  | underflow => "indent level underflow"
  | unbalanced level => s!"{level} indent level(s) left open at end of output"

/-- A writing step. What was written before a failure is kept. -/
abbrev Step := EStateM Error CodeWriter Unit

/-- The blanks in front of a line at a depth: four for each level. -/
def margin (level : UInt32) : String := String.ofList (List.replicate (4 * level.toNat) ' ')

/-- Adds text as it is. -/
def append (s : String) : Step := modify fun w => { w with text := w.text ++ s }

/-- Adds the blanks that a line starts with. -/
def appendMargin : Step := modify fun w => { w with text := w.text ++ margin w.level }

/-- Ends the line. -/
def newline : Step := append "\n"

/-- Goes one level deeper. The level below the deepest one is level zero. -/
def indent : Step := modify fun w => { w with level := w.level + 1 }

/-- Leaves the current level. -/
def unindent : Step := do
  if (← get).level = 0 then throw .underflow
  modify fun w => { w with level := w.level - 1 }

/-- Adds a whole line at the current depth. -/
def line (s : String) : Step := do
  appendMargin
  append s
  newline

/-- Adds a header line and below it, one level deeper, what `body` writes. A
    failure of the body leaves the level open. -/
def block (header : String) (body : Step) : Step := do
  line header
  indent
  body
  unindent

/-- The whole text, once no level is open any more. -/
def finish (w : CodeWriter) : Except Error String :=
  if w.level = 0 then .ok w.text else .error (.unbalanced w.level)

end CodeWriter

end Netlister
