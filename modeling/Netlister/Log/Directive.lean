import Netlister.Log.Basic
import Netlister.Text.Pattern
import Netlister.Text.Whitespace

/-! # Directives

  A directive says how important events have to be in order to be shown. It is
  about all events, or about those of some sources, named by the beginning of
  their name; in brackets it may ask for a span that the event happens in, and for
  a field of the event, with or without a value:

  - `LEVEL`, `SOURCE`, `SOURCE=LEVEL`;
  - `SOURCE[SPAN]=LEVEL`, with the source, the span and the level optional;
  - the same with a field in braces after the span.

  Where the parts of a directive begin and end is found without the blanks around
  it. The parts themselves are cut out of the whole text at these distances from
  its start, in bytes, so blanks at the start shift them.
-/

namespace Netlister.Log

/-- What a directive asks of the fields of an event. -/
structure FieldTest where
  /-- The name of the field. -/
  name : String
  /-- Whether it has to have a certain value. -/
  valued : Bool
deriving DecidableEq

/-- A rule about which events are shown. -/
structure Directive where
  /-- The beginning of the names of the sources it is about; none for all. -/
  source : Option String := none
  /-- The span that it is about. -/
  span : Option String := none
  /-- The field that it is about. -/
  field : Option FieldTest := none
  /-- The rank of the least important level it lets through; none has rank zero. -/
  rank : Nat
deriving DecidableEq

/-- Why a text is no directive. -/
inductive DirectiveError where
  /-- It has another form. -/
  | malformed
  /-- A part of it would begin or end within a character. -/
  | brokenCharacter
deriving DecidableEq

/-! ### Levels -/

/-- The rank that lets everything through. -/
def fullRank : Nat := 5

/-- The ranks of the names of levels. -/
def namedRanks : List (String × Nat) :=
  [("off", 0), ("error", 1), ("warn", 2), ("info", 3), ("debug", 4), ("trace", 5)]

/-- The number that decimal digits stand for, with or without a plus sign. -/
def number? (cs : List Char) : Option Nat :=
  let digits := if cs.head? = some '+' then cs.drop 1 else cs
  if digits.isEmpty || !digits.all Char.isDigit then none
  else some (digits.foldl (fun n d => n * 10 + (d.toNat - '0'.toNat)) 0)

/-- The rank that the name or number of a level stands for. -/
def rank? (cs : List Char) : Option Nat :=
  match number? cs with
  | some n => if n ≤ fullRank then some n else none
  | none => namedRanks.lookup (String.ofList (cs.map Char.toLower))

/-- The rank after an equals sign; without a level everything is let through. -/
def readRank (cs : List Char) : Except DirectiveError Nat :=
  if cs.isEmpty then .ok fullRank
  else match rank? cs with
    | some rank => .ok rank
    | none => .error .malformed

/-! ### Parts of a text -/

/-- The parts of a text between separators. -/
def splitOn (sep : Char) : List Char → List (List Char)
  | [] => [[]]
  | c :: cs =>
    if c = sep then [] :: splitOn sep cs
    else match splitOn sep cs with
      | part :: parts => (c :: part) :: parts
      | [] => [[c]]

/-- The number of bytes of a text. -/
def byteCount (cs : List Char) : Nat := (String.ofList cs).utf8ByteSize

/-- Divides a text after so many bytes, unless a character stands there. -/
def splitAtByte? : Nat → List Char → Option (List Char × List Char)
  | 0, cs => some ([], cs)
  | _ + 1, [] => none
  | n + 1, c :: cs =>
    if c.utf8Size ≤ n + 1 then
      (splitAtByte? (n + 1 - c.utf8Size) cs).map fun (front, back) => (c :: front, back)
    else none

/-- The part of a text from a byte on. -/
def pieceFrom (cs : List Char) (start : Nat) : Except DirectiveError (List Char) :=
  match splitAtByte? start cs with
  | some (_, back) => .ok back
  | none => .error .brokenCharacter

/-- The part of a text that starts at a byte and has so many bytes. -/
def piece (cs : List Char) (start size : Nat) : Except DirectiveError (List Char) := do
  match splitAtByte? size (← pieceFrom cs start) with
  | some (front, _) => .ok front
  | none => .error .brokenCharacter

/-! ### Fields -/

/-- The text without a sign at its start. -/
def withoutSign (cs : List Char) : List Char :=
  if cs.head? = some '+' || cs.head? = some '-' then cs.drop 1 else cs

/-- Whether a text is an exponent: a letter, a sign or none, and digits. -/
def isExponent : List Char → Bool
  | [] => false
  | e :: cs =>
    let digits := withoutSign cs
    (e = 'e' || e = 'E') && !digits.isEmpty && digits.all Char.isDigit

/-- Whether a text is a number: a sign or none, digits with at most one point among
    them, and an exponent or none; or a name of infinity or of no number. -/
def isNumber (cs : List Char) : Bool :=
  let number := withoutSign cs
  let afterWhole := number.dropWhile Char.isDigit
  let afterPoint := if afterWhole.head? = some '.' then afterWhole.drop 1 else afterWhole
  let exponent := afterPoint.dropWhile Char.isDigit
  let hasDigit := number.head?.any Char.isDigit || afterPoint.head?.any Char.isDigit
  (hasDigit && (exponent.isEmpty || isExponent exponent)) ||
    String.ofList (number.map Char.toLower) ∈ ["inf", "infinity", "nan"]

/-- Whether a text is the value of a field: a number or a pattern. -/
def isFieldValue (cs : List Char) : Bool := isNumber cs || Text.isPattern cs

/-- The field between braces. -/
def FieldTest.read (cs : List Char) : Except DirectiveError FieldTest :=
  match splitOn '=' cs with
  | [] | [[]] => .error .malformed
  | [name] => .ok { name := String.ofList name, valued := false }
  | name :: value :: _ =>
    if isFieldValue value then .ok { name := String.ofList name, valued := true }
    else .error .malformed

/-! ### Directives -/

/-- Whether a directive with a source may start with a character. -/
def startsDirective (c : Char) : Bool :=
  c = '-' || c = ':' || c = '_' || Text.isAlphanumeric c

/-- The rank of the directive `cs` after its brackets, which end at byte `start`
    and have `rest` after them. -/
def rankAfterBrackets (cs : List Char) (start : Nat) (rest : List Char) :
    Except DirectiveError Nat :=
  match rest with
  | [] => .ok fullRank
  | '=' :: _ => do readRank (← pieceFrom cs (start + 1))
  | _ => .error .malformed

/-- The directive `cs` whose braces open before byte `start`, with `rest` after
    them. -/
def readBraces (cs : List Char) (source span : Option String) (start : Nat) (rest : List Char) :
    Except DirectiveError Directive := do
  let size := byteCount (rest.takeWhile (· ≠ '\x7d'))
  match rest.dropWhile (· ≠ '\x7d') with
  | [] => .error .malformed
  | _ :: rest =>
    let field ← FieldTest.read (← piece cs start size)
    match rest with
    | ']' :: rest =>
      return { source, span, field, rank := ← rankAfterBrackets cs (start + size + 2) rest }
    | _ => .error .malformed

/-- The directive `cs` whose brackets open before byte `start`, with `rest` after
    them. An empty span counts only without a field. -/
def readBrackets (cs : List Char) (source : Option String) (start : Nat) (rest : List Char) :
    Except DirectiveError Directive := do
  let inSpan := fun c => c ≠ ']' && c ≠ '\x7b'
  let size := byteCount (rest.takeWhile inSpan)
  match rest.dropWhile inSpan with
  | [] => .error .malformed
  | ']' :: rest =>
    let span := some (String.ofList (← piece cs start size))
    return { source, span, rank := ← rankAfterBrackets cs (start + size + 1) rest }
  | _ :: rest =>
    let span ← piece cs start size
    readBraces cs source (if span.isEmpty then none else some (String.ofList span))
      (start + size + 1) rest

/-- The directive `cs`, which without the blanks around it is `text`, and starts
    with a level or a source. -/
def readSource (cs text : List Char) : Except DirectiveError Directive := do
  let inSource := fun c => c ≠ '=' && c ≠ '['
  let size := byteCount (text.takeWhile inSource)
  match text.dropWhile inSource with
  | [] =>
    match rank? cs with
    | some rank => return { rank }
    | none => return { source := some (String.ofList cs), rank := fullRank }
  | '=' :: _ =>
    let source := some (String.ofList (← piece cs 0 size))
    return { source, rank := ← readRank (← pieceFrom cs (size + 1)) }
  | _ :: rest =>
    readBrackets cs (some (String.ofList (← piece cs 0 size))) (size + 1) rest

/-- The directive that a text stands for. -/
def Directive.read (cs : List Char) : Except DirectiveError Directive :=
  let text := Text.trimmed cs
  match text with
  | [] => .error .malformed
  | '[' :: rest => readBrackets cs none 1 rest
  | c :: _ => if startsDirective c then readSource cs text else .error .malformed

end Netlister.Log
