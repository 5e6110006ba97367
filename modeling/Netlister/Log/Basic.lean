/-! # Events of a run

  A run reports what it does as events. `Logged` is a computation that may fail
  and whose events, up to the point of failure, are kept beside its result: the
  result does not depend on them.
-/

namespace Netlister

namespace Log

/-- How important an event is. -/
inductive Level where
  | error
  | warn
  | info
  | debug
deriving DecidableEq

/-- The name of a level. -/
def Level.text : Level → String
  | error => "ERROR"
  | warn => "WARN"
  | info => "INFO"
  | debug => "DEBUG"

/-- How much a level lets through: each level includes the more important ones. -/
def Level.rank : Level → Nat
  | error => 1
  | warn => 2
  | info => 3
  | debug => 4

/-- The part of the program that reports an event. -/
inductive Source where
  | program
  | products
  | document
  | netlist
  | vhdl
  | compiler
deriving DecidableEq

/-- The name by which events of a source are selected. -/
def Source.name : Source → String
  | program => "kairo"
  | products => "kairo::backend"
  | document => "kairo::serialization"
  | netlist => "kairo::netlist"
  | vhdl => "kairo::vhdl"
  | compiler => "kairo::vhdl::compiler"

/-- Something that happened during a run. -/
structure Event where
  /-- How important it is. -/
  level : Level
  /-- Who reports it. -/
  source : Source
  /-- What happened. -/
  message : String
  /-- Numbers that go with it, by name. -/
  fields : List (String × Nat) := []
deriving DecidableEq

/-- A line of text about an event, with its message as given. -/
def Event.lineWith (e : Event) (message : String) : String :=
  e.level.text ++ " " ++ message ++
    String.join (e.fields.map fun (name, n) => " " ++ name ++ "=" ++ toString n)

/-- An event as a line of text. -/
def Event.line (e : Event) : String := e.lineWith e.message

/-- The control characters below 128 that are not passed on to a terminal: bell,
    backspace, form feed, escape and delete. -/
def terminalControls : List Char := ['\x07', '\x08', '\x0c', '\x1b', '\x7f']

/-- A character as it is shown on a terminal: one that the terminal would act upon
    is written as its number. -/
def terminalChar (c : Char) : List Char :=
  if c ∈ terminalControls then
    ['\\', 'x', Nat.digitChar (c.toNat / 16), Nat.digitChar (c.toNat % 16)]
  else if 0x80 ≤ c.toNat && c.toNat ≤ 0x9f then
    ['\\', 'u', '\x7b'] ++ Nat.toDigits 16 c.toNat ++ ['\x7d']
  else [c]

/-- An event as a line of text for a terminal. -/
def Event.terminalLine (e : Event) : String :=
  e.lineWith (String.ofList (e.message.toList.flatMap terminalChar))

end Log

/-- A computation that reports events and may fail with an `ε`. -/
structure Logged (ε α : Type) where
  /-- What happened, in order, up to the end or the failure. -/
  events : List Log.Event
  /-- The result. -/
  result : Except ε α

namespace Logged

variable {ε α β : Type}

/-- Reports nothing. -/
def ofExcept (result : Except ε α) : Logged ε α := ⟨[], result⟩

/-- Reports one event. -/
def report (event : Log.Event) : Logged ε Unit := ⟨[event], .ok ()⟩

/-- Reports events in order. -/
def reportAll (events : List Log.Event) : Logged ε Unit := ⟨events, .ok ()⟩

instance : Monad (Logged ε) where
  pure a := ⟨[], .ok a⟩
  bind x f :=
    match x.result with
    | .ok a => ⟨x.events ++ (f a).events, (f a).result⟩
    | .error e => ⟨x.events, .error e⟩

instance : MonadLift (Except ε) (Logged ε) := ⟨ofExcept⟩

/-- Turns one kind of failure into another. -/
def mapError {ε' : Type} (f : ε → ε') (x : Logged ε α) : Logged ε' α :=
  ⟨x.events, x.result.mapError f⟩

@[simp] theorem result_pure (a : α) : (pure a : Logged ε α).result = .ok a := rfl

@[simp] theorem result_ofExcept (r : Except ε α) : (ofExcept r).result = r := rfl

@[simp] theorem result_report (event : Log.Event) :
    (report event : Logged ε Unit).result = .ok () := rfl

@[simp] theorem result_reportAll (events : List Log.Event) :
    (reportAll events : Logged ε Unit).result = .ok () := rfl

@[simp] theorem result_mapError {ε' : Type} (f : ε → ε') (x : Logged ε α) :
    (x.mapError f).result = x.result.mapError f := rfl

/-- The result of a sequence is the result of its parts, without their events. -/
@[simp] theorem result_bind (x : Logged ε α) (f : α → Logged ε β) :
    (x >>= f).result = (x.result >>= fun a => (f a).result) := by
  obtain ⟨events, result⟩ := x
  cases result <;> rfl

end Logged

end Netlister
