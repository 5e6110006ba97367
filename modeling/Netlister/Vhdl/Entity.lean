/-! # VHDL entities

  A flat design unit: an entity with its ports, and one architecture with its
  signals and concurrent statements. All ports and signals are of type
  `std_logic`.
-/

namespace Netlister.Vhdl

/-- Which way a port carries its signal. -/
inductive Direction where
  /-- Into the entity. -/
  | input
  /-- Out of the entity. -/
  | output
deriving DecidableEq

/-- A port of an entity. -/
structure Port where
  /-- The identifier of the port. -/
  name : String
  /-- Which way it carries its signal. -/
  direction : Direction
deriving DecidableEq

/-- A signal of an architecture. -/
structure Signal where
  /-- The identifier of the signal. -/
  name : String
  /-- The bit that the signal starts with, if one is declared. -/
  initial : Option Bool
deriving DecidableEq

/-- The condition of a branch. -/
inductive Condition where
  /-- The signal has this bit. -/
  | equals (name : String) (value : Bool)
  /-- The signal has just gone from 0 to 1. -/
  | rising (name : String)
  /-- The signal has just gone from 1 to 0. -/
  | falling (name : String)
deriving DecidableEq

/-- What is assigned inside a process. -/
inductive Expression where
  /-- The value of a signal or port. -/
  | reference (name : String)
  /-- A constant bit. -/
  | bit (value : Bool)
deriving DecidableEq

/-- A statement inside a process. -/
inductive Sequential where
  /-- Schedules a new value for a signal. -/
  | assign (target : String) (source : Expression)
  /-- Performs the body of the first branch whose condition holds, or else the
      last statements. -/
  | choose (branches : List (Condition × List Sequential)) (otherwise : List Sequential)

/-- A statement of an architecture. -/
inductive Concurrent where
  /-- Keeps a signal or port equal to another. -/
  | assign (target source : String)
  /-- Performs its body whenever a name of its sensitivity list changes. -/
  | process (label : String) (sensitivity : List String) (body : List Sequential)

/-- An entity and its architecture. -/
structure Entity where
  /-- The identifier of the entity. -/
  name : String
  /-- Its ports, in the order of their declaration. -/
  ports : List Port
  /-- The signals of its architecture, in the order of their declaration. -/
  signals : List Signal
  /-- The concurrent statements of its architecture. -/
  statements : List Concurrent

end Netlister.Vhdl
