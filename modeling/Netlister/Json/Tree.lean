import Netlister.Json.Scanner

/-! # JSON text as a tree

  A text is read from left to right up to its first fault. The tree keeps all that
  stands before the fault and marks where it is:

  - a value at fault is `broken`;
  - an array or object that the fault cuts short, at any depth, says so.

  What a reader of a certain shape has to say about the part before the fault can
  thus be said first. At most `maxDepth` arrays and objects may be open at once.
-/

namespace Netlister.Json

/-- A JSON value, or as much of it as there is before a fault. -/
inductive Tree where
  | null
  | bool (b : Bool)
  | number (n : Number)
  | string (s : String)
  /-- The elements, and the fault that cuts the array short if there is one. -/
  | array (elements : List Tree) (cut : Option Fault)
  /-- The members, and the fault that cuts the object short if there is one. -/
  | object (members : List (String × Tree)) (cut : Option Fault)
  /-- No value: the text is at fault here. -/
  | broken (fault : Fault)

/-- The fault in a tree, if there is one. -/
def Tree.fault? : Tree → Option Fault
  | array _ cut => cut
  | object _ cut => cut
  | broken fault => some fault
  | _ => none

/-- How many arrays and objects may be open at once. -/
def maxDepth : Nat := 127

/-- An array or object that is open, with what it holds so far, the last first. -/
inductive Frame where
  | array (before : List Tree)
  /-- The key belongs to the value that is being read. -/
  | object (before : List (String × Tree)) (key : String)

/-- The whole tree when a fault ends the text inside `t`, which stands in the
    given frames, the innermost first. -/
def cutShort (fault : Fault) : List Frame → Tree → Tree
  | [], t => t
  | .array before :: frames, t =>
    cutShort fault frames (.array (t :: before).reverse (some fault))
  | .object before key :: frames, t =>
    cutShort fault frames (.object ((key, t) :: before).reverse (some fault))

/-- The outcome of reading when a value is at fault. -/
def breakOff (fault : Fault) (frames : List Frame) : Tree × List Char :=
  (cutShort fault frames (.broken fault), [])

mutual

/-- Reads a value that stands in the given frames, and then the rest of the
    frames. Gives the whole tree and the text after it. -/
def readValue (frames : List Frame) (cs : List Char) : Tree × List Char :=
  match _start : skipBlanks cs with
  | [] => breakOff .unfinished frames
  | c :: rest =>
    if c = 'n' then
      match _rest : word ['u', 'l', 'l'] rest with
      | .ok rest' => afterValue frames .null rest'
      | .error fault => breakOff fault frames
    else if c = 't' then
      match _rest : word ['r', 'u', 'e'] rest with
      | .ok rest' => afterValue frames (.bool true) rest'
      | .error fault => breakOff fault frames
    else if c = 'f' then
      match _rest : word ['a', 'l', 's', 'e'] rest with
      | .ok rest' => afterValue frames (.bool false) rest'
      | .error fault => breakOff fault frames
    else if c = '"' then
      match _rest : stringBody [] rest with
      | .ok (s, rest') => afterValue frames (.string s) rest'
      | .error fault => breakOff fault frames
    else if c = '-' then
      match _rest : unsignedNumber true rest with
      | .ok (n, rest') => afterValue frames (.number n) rest'
      | .error fault => breakOff fault frames
    else if c.isDigit then
      match _rest : unsignedNumber false (c :: rest) with
      | .ok (n, rest') => afterValue frames (.number n) rest'
      | .error fault => breakOff fault frames
    -- One level too many is a fault before anything inside it is read.
    else if (c = '[' || c = '\x7b') && maxDepth ≤ frames.length then breakOff .malformed frames
    else if c = '[' then
      match _rest : skipBlanks rest with
      | [] => (cutShort .unfinished frames (.array [] (some .unfinished)), [])
      | d :: rest' =>
        if d = ']' then afterValue frames (.array [] none) rest'
        else readValue (.array [] :: frames) rest
    else if c = '\x7b' then
      match _rest : skipBlanks rest with
      | [] => (cutShort .unfinished frames (.object [] (some .unfinished)), [])
      | d :: rest' =>
        if d = '\x7d' then afterValue frames (.object [] none) rest'
        else readMember [] frames rest
    else breakOff .malformed frames
termination_by cs.length
decreasing_by
  all_goals have hstart := length_lt_of_skipBlanks _start
  · exact Nat.lt_of_le_of_lt (length_word_le _rest) hstart
  · exact Nat.lt_of_le_of_lt (length_word_le _rest) hstart
  · exact Nat.lt_of_le_of_lt (length_word_le _rest) hstart
  · exact Nat.lt_trans (length_stringBody_lt _rest) hstart
  · exact Nat.lt_trans (length_unsignedNumber_lt _rest) hstart
  · exact Nat.lt_of_le_of_lt (Nat.le_of_lt_succ (length_unsignedNumber_lt _rest)) hstart
  · exact Nat.lt_trans (length_lt_of_skipBlanks _rest) hstart
  · exact hstart
  · exact Nat.lt_trans (length_lt_of_skipBlanks _rest) hstart
  · exact hstart

/-- Reads a key and the value that belongs to it. -/
def readMember (before : List (String × Tree)) (frames : List Frame) (cs : List Char) :
    Tree × List Char :=
  match _start : skipBlanks cs with
  | [] => (cutShort .unfinished frames (.object before.reverse (some .unfinished)), [])
  | c :: rest =>
    if c = '"' then
      match _key : stringBody [] rest with
      | .error fault => (cutShort fault frames (.object before.reverse (some fault)), [])
      | .ok (key, rest') =>
        match _colon : skipBlanks rest' with
        | [] => breakOff .unfinished (.object before key :: frames)
        | d :: rest'' =>
          if d = ':' then readValue (.object before key :: frames) rest''
          else breakOff .malformed (.object before key :: frames)
    else (cutShort .malformed frames (.object before.reverse (some .malformed)), [])
termination_by cs.length
decreasing_by
  have := length_lt_of_skipBlanks _start
  have := length_stringBody_lt _key
  have := length_lt_of_skipBlanks _colon
  omega

/-- Goes on after a value that stands in the given frames. -/
def afterValue (frames : List Frame) (t : Tree) (cs : List Char) : Tree × List Char :=
  match frames with
  | [] => (t, cs)
  | .array before :: frames =>
    match _start : skipBlanks cs with
    | [] => (cutShort .unfinished frames (.array (t :: before).reverse (some .unfinished)), [])
    | c :: rest =>
      if c = ']' then afterValue frames (.array (t :: before).reverse none) rest
      else if c = ',' then readValue (.array (t :: before) :: frames) rest
      else (cutShort .malformed frames (.array (t :: before).reverse (some .malformed)), [])
  | .object before key :: frames =>
    match _start : skipBlanks cs with
    | [] => (cutShort .unfinished frames (.object ((key, t) :: before).reverse (some .unfinished)), [])
    | c :: rest =>
      if c = '\x7d' then afterValue frames (.object ((key, t) :: before).reverse none) rest
      else if c = ',' then readMember ((key, t) :: before) frames rest
      else (cutShort .malformed frames (.object ((key, t) :: before).reverse (some .malformed)), [])
termination_by cs.length
decreasing_by
  all_goals exact length_lt_of_skipBlanks _start

end

/-- Reads a text: its first value, up to the first fault, and what follows it. -/
def Tree.read (text : String) : Tree × List Char := readValue [] text.toList

mutual

/-- The value of a tree without fault. -/
def Tree.toJson : Tree → Json
  | .null => .null
  | .bool b => .bool b
  | .number n => .number n
  | .string s => .string s
  | .array elements _ => .array (elementsToJson elements)
  | .object members _ => .object (membersToJson [] members)
  | .broken _ => .null

/-- The values of elements. -/
def elementsToJson : List Tree → List Json
  | [] => []
  | t :: ts => t.toJson :: elementsToJson ts

/-- The values of members, placed among others in ascending order of their keys;
    of two members with one key the later counts. -/
def membersToJson (placed : List (String × Json)) : List (String × Tree) → List (String × Json)
  | [] => placed
  | (key, t) :: members => membersToJson (NameMap.insertEntry key t.toJson placed) members

end

end Netlister.Json
