import Netlister.Text.Alphanumeric
import Netlister.Text.Pattern.Basic
import Netlister.Text.Whitespace

/-! # Reading patterns

  The text of a pattern is read from left to right. What is open at a place, groups
  and brackets, is kept in a state, and every step takes a part of the text: a
  character, an escape, a range, or the start of a group. Counts in braces are not
  supported.
-/

namespace Netlister.Text.Pattern

/-! ### Blanks and comments -/

/-- The text from its first character on that is no blank and not in a comment,
    which goes from a number sign to the end of its line. -/
def afterBlanks (inComment : Bool) : List Char → List Char
  | [] => []
  | c :: cs =>
    if inComment then afterBlanks (c ≠ '\n') cs
    else if isWhitespace c then afterBlanks false cs
    else if c = '#' then afterBlanks true cs
    else c :: cs

/-- The text without what means nothing at its start. -/
def skipBlanks (verbose : Bool) (cs : List Char) : List Char :=
  if verbose then afterBlanks false cs else cs

/-- The first character of a text that is no blank, with one number sign passed
    over. -/
def firstShown? (signSeen : Bool) : List Char → Option Char
  | [] => none
  | c :: cs =>
    if isWhitespace c then firstShown? signSeen cs
    else if c = '#' && !signSeen then firstShown? true cs
    else some c

/-- The character that decides what a dash before it means. -/
def afterDash? (verbose : Bool) (cs : List Char) : Option Char :=
  if verbose then (firstShown? false cs).or cs.head? else cs.head?

/-! ### Escapes -/

/-- What a pattern is made of, outside or inside of brackets. -/
inductive Atom where
  | literal (l : Literal)
  | kind (negated : Bool)
  | edge
  | wordEdge

/-- The value of a hexadecimal digit. -/
def hexDigit? (c : Char) : Option Nat :=
  let d := c.toLower
  if d.isDigit then some (d.toNat - '0'.toNat)
  else if 'a' ≤ d && d ≤ 'f' then some (d.toNat - 'a'.toNat + 10)
  else none

/-- The number that so many hexadecimal digits stand for, after the number before
    them, and the text after them. -/
def readHex (verbose : Bool) (n : Nat) : Nat → List Char → Option (Nat × List Char)
  | 0, cs => some (n, cs)
  | _ + 1, [] => none
  | count + 1, c :: cs => do readHex verbose (n * 16 + (← hexDigit? c)) count (skipBlanks verbose cs)

/-- How many digits follow a letter that starts the number of a character. -/
def hexLengths : List (Char × Nat) := [('x', 2), ('u', 4), ('U', 8)]

/-- What the other letters stand for after a backslash. -/
def letterEscapes : List (Char × Atom) :=
  [('a', .literal ⟨'\x07', false⟩), ('f', .literal ⟨'\x0c', false⟩),
   ('t', .literal ⟨'\t', false⟩), ('n', .literal ⟨'\n', false⟩),
   ('r', .literal ⟨'\r', false⟩), ('v', .literal ⟨'\x0b', false⟩),
   ('A', .edge), ('z', .edge), ('b', .wordEdge), ('B', .wordEdge), ('<', .wordEdge),
   ('>', .wordEdge), ('d', .kind false), ('s', .kind false), ('w', .kind false),
   ('D', .kind true), ('S', .kind true), ('W', .kind true)]

/-- Whether a backslash makes a plain character of this one: all of ASCII but
    letters, digits and angle brackets. -/
def isEscapable (c : Char) : Bool :=
  c.toNat < 0x80 && !c.isAlphanum && c ≠ '<' && c ≠ '>'

/-- The atom that a text starts with, after a backslash, and the text after it. -/
def readEscape (verbose : Bool) : List Char → Option (Atom × List Char)
  | [] => none
  | c :: cs =>
    match hexLengths.lookup c with
    | some count => do
      let (code, rest) ← readHex verbose 0 count (skipBlanks verbose cs)
      if code.isValidChar then some (.literal ⟨Char.ofNat code, c = 'x'⟩, rest) else none
    | none =>
      if isEscapable c then some (.literal ⟨c, false⟩, cs)
      else (letterEscapes.lookup c).map (·, cs)

/-- The atom that starts with a character, and the text after it. -/
def readAtom (verbose : Bool) (c : Char) (cs : List Char) : Option (Atom × List Char) :=
  if c = '\\' then readEscape verbose cs else some (.literal ⟨c, false⟩, cs)

/-! ### State -/

/-- Brackets that are open. -/
structure OpenBrackets where
  /-- Whether they stand for the characters that are not in them. -/
  negated : Bool
  /-- Whether they hold nothing yet but dashes. -/
  fresh : Bool := true
  /-- The set that is to be combined with what follows. -/
  left : Option CharSet := none
  /-- The sets after it, the last first. -/
  sets : List CharSet := []

/-- The branches of a group. -/
structure Branches where
  /-- The branches that are complete, the last first. -/
  complete : List Tree := []
  /-- The items of the branch that is being read, the last first. -/
  items : List Tree := []

/-- A group that is open. -/
structure OpenGroup where
  /-- Its flags. -/
  flags : Flags
  /-- What was read of the group that it is in. -/
  around : Branches
  /-- Whether blanks mean nothing around it. -/
  verboseAround : Bool

/-- How far the reading has come. -/
structure State where
  /-- What was read of the innermost group. -/
  branches : Branches := {}
  /-- The open groups, the innermost first. -/
  groups : List OpenGroup := []
  /-- The open brackets, the innermost first. -/
  brackets : List OpenBrackets := []
  /-- The names of groups. -/
  names : List (List Char) := []
  /-- Whether blanks mean nothing. -/
  verbose : Bool := false

/-- The set in brackets. -/
def OpenBrackets.set (b : OpenBrackets) : CharSet :=
  let right := CharSet.ofList b.sets.reverse
  match b.left with
  | none => right
  | some left => .combine left right

/-- Puts a set into brackets. -/
def OpenBrackets.push (b : OpenBrackets) (set : CharSet) : OpenBrackets :=
  { b with sets := set :: b.sets }

/-- The branch that is being read. -/
def Branches.branch (b : Branches) : Tree := Tree.ofItems b.items.reverse

/-- The tree of all branches. -/
def Branches.tree (b : Branches) : Tree := Tree.ofBranches (b.branch :: b.complete).reverse

/-- Adds an item to the branch that is being read. -/
def Branches.push (b : Branches) (item : Tree) : Branches := { b with items := item :: b.items }

/-- Adds an item to the innermost group. -/
def State.push (s : State) (item : Tree) : State := { s with branches := s.branches.push item }

/-- The tree that was read, if nothing is open. -/
def State.finish (s : State) : Option Tree :=
  if s.groups.isEmpty && s.brackets.isEmpty then some s.branches.tree else none

/-! ### Groups -/

/-- Starts a group. -/
def State.openGroup (s : State) (flags : Flags) : State :=
  { s with
    branches := {}
    groups := ⟨flags, s.branches, s.verbose⟩ :: s.groups
    verbose := (flags.setting? .verbose).getD s.verbose }

/-- Ends the innermost group. -/
def State.closeGroup (s : State) : Option State :=
  match s.groups with
  | [] => none
  | g :: groups =>
    some { s with
      branches := g.around.push (.group g.flags s.branches.tree)
      groups
      verbose := g.verboseAround }

/-- Sets flags for the rest of the innermost group. -/
def State.setFlags (s : State) (flags : Flags) : State :=
  { s.push (.setFlags flags) with verbose := (flags.setting? .verbose).getD s.verbose }

/-- Whether a text is the name of a group. -/
def isGroupName : List Char → Bool
  | [] => false
  | c :: cs =>
    (c = '_' || isAlphabetic c) &&
      cs.all fun c => c = '_' || c = '.' || c = '[' || c = ']' || isAlphanumeric c

/-- Starts a group with a name, which stands at the start of a text. No two groups
    have one name. -/
def State.openNamed (s : State) (cs : List Char) : Option (State × List Char) :=
  let name := cs.takeWhile (· ≠ '>')
  match cs.dropWhile (· ≠ '>') with
  | [] => none
  | _ :: rest =>
    if isGroupName name && name ∉ s.names then
      some ({ s with names := name :: s.names }.openGroup [], rest)
    else none

/-- The letters of flags. -/
def flagLetters : List (Char × Flag) :=
  [('i', .ignoreCase), ('m', .multiLine), ('s', .dotMatchesNewline), ('U', .swapGreed),
   ('u', .unicode), ('R', .crlf), ('x', .verbose)]

/-- The flags of some letters. -/
def lettersToFlags? (on : Bool) (cs : List Char) : Option Flags :=
  cs.mapM fun c => (flagLetters.lookup c).map (·, on)

/-- The flags that a text stands for: those after a dash are turned off. There is
    at most one dash, which is not the last character, and no letter occurs
    twice. -/
def readFlags (cs : List Char) : Option Flags := do
  if !cs.Nodup || cs.getLast? = some '-' then none
  else
    let on ← lettersToFlags? true (cs.takeWhile (· ≠ '-'))
    let off ← lettersToFlags? false ((cs.dropWhile (· ≠ '-')).drop 1)
    return on ++ off

/-- Reads the flags at the start of a text, which are set for a group if a colon
    follows, else for the rest of the group they stand in. -/
def State.takeFlags (s : State) (cs : List Char) : Option (State × List Char) := do
  let inFlags := fun c => c ≠ ':' && c ≠ ')'
  let flags ← readFlags (cs.takeWhile inFlags)
  match cs.dropWhile inFlags with
  | [] => none
  | ':' :: rest => some (s.openGroup flags, rest)
  | _ :: rest => if flags.isEmpty then none else some (s.setFlags flags, rest)

/-- Reads the start of a group after its parenthesis. There are no conditions on
    what stands before or after a place. -/
def State.takeGroup (s : State) (cs : List Char) : Option (State × List Char) :=
  match skipBlanks s.verbose cs with
  | '?' :: '<' :: '=' :: _ => none
  | '?' :: '<' :: '!' :: _ => none
  | '?' :: 'P' :: '<' :: rest => s.openNamed rest
  | '?' :: '<' :: rest => s.openNamed rest
  | '?' :: rest => s.takeFlags rest
  | rest => some (s.openGroup [], rest)

/-! ### Brackets -/

/-- The names of sets that are written between `[:` and `:]` in brackets. -/
def setNames : List String :=
  ["alnum", "alpha", "ascii", "blank", "cntrl", "digit", "graph", "lower", "print", "punct",
   "space", "upper", "word", "xdigit"]

/-- The named set that a text starts with, after its first bracket, and the text
    after it. -/
def readNamedSet : List Char → Option (CharSet × List Char)
  | ':' :: cs =>
    let negated := cs.head? = some '^'
    let named := if negated then cs.drop 1 else cs
    match named.dropWhile (· ≠ ':') with
    | ':' :: ']' :: rest =>
      if String.ofList (named.takeWhile (· ≠ ':')) ∈ setNames then
        some (.named negated, rest)
      else none
    | _ => none
  | _ => none

/-- Reads the start of brackets after the first one. -/
def State.openBrackets (s : State) (cs : List Char) : State × List Char :=
  match skipBlanks s.verbose cs with
  | '^' :: rest => ({ s with brackets := { negated := true } :: s.brackets }, rest)
  | rest => ({ s with brackets := { negated := false } :: s.brackets }, rest)

/-- Ends the innermost brackets `b`; `outer` are the others. -/
def State.closeBrackets (s : State) (b : OpenBrackets) (outer : List OpenBrackets) : State :=
  match outer with
  | [] => { s with brackets := [] }.push (.brackets b.negated b.set)
  | o :: outer => { s with brackets := o.push (.brackets b.negated b.set) :: outer }

/-- The set that an atom stands for in brackets. -/
def Atom.set? : Atom → Option CharSet
  | literal l => some (.literal l)
  | kind negated => some (.kind negated)
  | _ => none

/-- The range between two atoms, which are characters in ascending order. -/
def Atom.range? : Atom → Atom → Option CharSet
  | literal first, literal last =>
    if first.char.toNat ≤ last.char.toNat then some (.range first last) else none
  | _, _ => none

/-- Reads a set that starts with a character: an atom, or a range if a dash follows
    that has neither a bracket nor another dash after it. -/
def readSet (verbose : Bool) (c : Char) (cs : List Char) : Option (CharSet × List Char) := do
  let (first, rest) ← readAtom verbose c cs
  let rest := skipBlanks verbose rest
  match rest with
  | '-' :: afterDash =>
    let next := afterDash? verbose afterDash
    if next = some ']' || next = some '-' then return (← first.set?, rest)
    else match skipBlanks verbose afterDash with
      | [] => none
      | d :: ds =>
        let (last, rest) ← readAtom verbose d ds
        return (← first.range? last, rest)
  | _ => return (← first.set?, rest)

/-- Whether a character is the first of two that combine the sets around them: those
    that have both, one but not the other, or one of them alone. -/
def startsCombination (c : Char) (cs : List Char) : Bool :=
  (c = '&' || c = '-' || c = '~') && cs.head? = some c

/-- Reads a part of the innermost brackets `b` that starts with a character; `outer`
    are the other brackets. A closing bracket or dashes at the start are plain
    characters. -/
def State.takeInBrackets (s : State) (b : OpenBrackets) (outer : List OpenBrackets) (c : Char)
    (cs : List Char) : Option (State × List Char) :=
  let inside := { b with fresh := false }
  if b.fresh && c = '-' then
    some ({ s with brackets := b.push (.literal ⟨c, false⟩) :: outer }, cs)
  else if b.fresh && b.sets.isEmpty && c = ']' then
    some ({ s with brackets := inside.push (.literal ⟨c, false⟩) :: outer }, cs)
  else if c = ']' then some (s.closeBrackets b outer, cs)
  else if c = '[' then
    match readNamedSet cs with
    | some (set, rest) => some ({ s with brackets := inside.push set :: outer }, rest)
    | none => some ({ s with brackets := inside :: outer }.openBrackets cs)
  else if startsCombination c cs then
    some ({ s with brackets := { inside with left := b.set, sets := [] } :: outer }, cs.drop 1)
  else do
    let (set, rest) ← readSet s.verbose c cs
    return ({ s with brackets := inside.push set :: outer }, rest)

/-! ### Items -/

/-- The item that an atom stands for. -/
def Atom.item : Atom → Tree
  | literal l => .literal l
  | kind negated => .kind negated
  | edge => .edge
  | wordEdge => .wordEdge

/-- Repeats the last item. A question mark after the sign of the repetition belongs
    to it. -/
def State.takeRepetition (s : State) (cs : List Char) : Option (State × List Char) :=
  match s.branches.items with
  | [] => none
  | item :: items =>
    if item.isRepeatable then
      some ({ s with branches.items := .repetition item :: items },
        if cs.head? = some '?' then cs.drop 1 else cs)
    else none

/-- Ends a branch and starts the next one. -/
def State.nextBranch (s : State) : State :=
  { s with branches := ⟨s.branches.branch :: s.branches.complete, []⟩ }

/-- Reads an item that starts with a character. -/
def State.takeItem (s : State) (c : Char) (cs : List Char) : Option (State × List Char) :=
  if c = '(' then s.takeGroup cs
  else if c = ')' then s.closeGroup.map (·, cs)
  else if c = '|' then some (s.nextBranch, cs)
  else if c = '[' then some (s.openBrackets cs)
  else if c = '?' || c = '*' || c = '+' then s.takeRepetition cs
  else if c = '\x7b' then none
  else if c = '.' then some (s.push .dot, cs)
  else if c = '^' || c = '$' then some (s.push .edge, cs)
  else (readAtom s.verbose c cs).map fun (atom, rest) => (s.push atom.item, rest)

/-- Reads a part of a pattern that starts with a character. -/
def State.take (s : State) (c : Char) (cs : List Char) : Option (State × List Char) :=
  match s.brackets with
  | [] => s.takeItem c cs
  | b :: outer => s.takeInBrackets b outer c cs

/-- Reads a pattern to its end. No step gives more text back than it was given, which
    is checked so that the end is seen to be reached. -/
def State.read (s : State) (cs : List Char) : Option Tree :=
  match cs with
  | [] => s.finish
  | c :: cs =>
    match s.take c cs with
    | none => none
    | some (next, rest) =>
      if (skipBlanks next.verbose rest).length ≤ cs.length then
        next.read (skipBlanks next.verbose rest)
      else none
termination_by cs.length
decreasing_by
  rw [List.length_cons]
  omega

/-- The tree of a pattern. -/
def Tree.read (cs : List Char) : Option Tree := State.read {} cs

end Netlister.Text.Pattern
