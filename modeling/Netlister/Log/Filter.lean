import Netlister.Log.Directive

/-! # Selecting events

  A filter is a list of directives, divided by commas in its text. Of the
  directives that apply to an event the narrowest counts: the one with the longest
  source, then one with a field before one without, then the one whose field comes
  last in the order of names. Of two directives about the same the later counts.
-/

namespace Netlister.Log

/-- Rules about which events are shown. -/
abbrev Filter := List Directive

/-- The filter that a text stands for; without directives only errors pass. -/
def Filter.read (text : String) : Except DirectiveError Filter := do
  let parts := (splitOn ',' text.toList).filter (!·.isEmpty)
  let directives ← parts.mapM Directive.read
  return if directives.isEmpty then [{ rank := Level.error.rank }] else directives

/-- Whether an event has a field of this name. The message is a field, too. -/
def Event.hasField (e : Event) (name : String) : Bool :=
  name = "message" || e.fields.any (·.1 = name)

/-- Whether a directive is about an event. Events happen in no span, and their
    fields are compared with no value. -/
def Directive.applies (d : Directive) (e : Event) : Bool :=
  d.span.isNone &&
    d.source.all (fun start => start.toList.isPrefixOf e.source.name.toList) &&
    d.field.all fun field => !field.valued && e.hasField field.name

/-- How narrow a directive is with regard to the sources. -/
def Directive.width (d : Directive) : Nat :=
  match d.source with
  | none => 0
  | some start => start.length + 1

/-- Whether a directive gives way to a later one. -/
def Directive.yieldsTo (d later : Directive) : Bool :=
  if d.width ≠ later.width then d.width < later.width
  else match d.field, later.field with
    | none, _ => true
    | some _, none => false
    | some field, some laterField => !(laterField.name < field.name)

/-- The directive that counts for an event. -/
def Filter.directiveFor? (f : Filter) (e : Event) : Option Directive :=
  (f.filter (·.applies e)).foldl
    (fun best d => match best with
      | none => some d
      | some b => if b.yieldsTo d then some d else some b)
    none

/-- Whether a filter shows an event. -/
def Filter.shows (f : Filter) (e : Event) : Bool :=
  match f.directiveFor? e with
  | some d => e.level.rank ≤ d.rank
  | none => false

/-- The filter for a run: the text given for it, or all levels down to the given
    one if there is no text or it is malformed. There is no filter if the text
    would have to be cut within a character. -/
def Filter.forRun? (given : Option String) (level : Level) : Option Filter :=
  match given.map Filter.read with
  | some (.ok filter) => some filter
  | some (.error .brokenCharacter) => none
  | some (.error .malformed) | none => some [{ rank := level.rank }]

end Netlister.Log
