import Netlister.Text.Pattern.Basic

/-! # Patterns that can be matched

  A matcher works on bytes of well-formed text, and without tables of characters.
  So a pattern can be matched if

  - no letter would have to be compared without regard to case, or assigned to
    a kind of characters, other than in ASCII;
  - it matches no single bytes of characters outside ASCII;
  - it does not ask for the boundaries of words outside ASCII.

  The flag `unicode`, which is on at first, makes the difference between the
  characters of ASCII and all of them.
-/

namespace Netlister.Text.Pattern

/-- How a part of a pattern is to be understood. -/
structure Mode where
  /-- Whether it is about all characters, not only those of ASCII. -/
  unicode : Bool := true
  /-- Whether the case of letters means nothing. -/
  ignoreCase : Bool := false

/-- The mode with some flags set. -/
def Mode.withFlags (m : Mode) (flags : Flags) : Mode where
  unicode := (flags.setting? .unicode).getD m.unicode
  ignoreCase := (flags.setting? .ignoreCase).getD m.ignoreCase

/-- Whether a character is in ASCII. -/
def Literal.isAscii (l : Literal) : Bool := l.char.toNat < 0x80

/-! ### Sets -/

namespace CharSet

mutual

/-- Whether a set can be matched. Of all characters, sets are at hand that name
    their characters and regard their case; with ASCII alone, sets that have
    nothing outside of it. -/
def isSupported (m : Mode) : CharSet → Bool
  | empty => true
  | literal l => if m.unicode then !m.ignoreCase else l.isAscii
  | range first last => if m.unicode then !m.ignoreCase else first.isAscii && last.isAscii
  | named negated => if m.unicode then !m.ignoreCase else !negated
  | kind negated => !m.unicode && !negated
  | brackets negated set => (m.unicode || !negated) && set.isSupported m
  | union sets => areSupported m sets
  | combine left right => left.isSupported m && right.isSupported m

/-- Whether all of some sets can be matched. -/
def areSupported (m : Mode) : List CharSet → Bool
  | [] => true
  | set :: sets => set.isSupported m && areSupported m sets

end

end CharSet

/-! ### Trees -/

/-- Whether a character can be matched. -/
def Literal.isSupported (m : Mode) (l : Literal) : Bool :=
  if m.unicode then !m.ignoreCase else !l.asByte || l.isAscii

namespace Tree

mutual

/-- The mode for what follows a tree in its group; none if the tree cannot be
    matched. -/
def modeAfter? (m : Mode) : Tree → Option Mode
  | empty => some m
  | setFlags flags => some (m.withFlags flags)
  | literal l => if l.isSupported m then some m else none
  | dot => if m.unicode then some m else none
  | edge => some m
  | wordEdge => if m.unicode then none else some m
  | kind negated => if m.unicode || negated then none else some m
  | brackets negated set =>
    if (CharSet.brackets negated set).isSupported m then some m else none
  | repetition item => item.modeAfter? m
  | group flags content => do
    let _ ← content.modeAfter? (m.withFlags flags)
    return m
  | choice branches => modeAfterAll? m branches
  | sequence items => modeAfterAll? m items

/-- The mode for what follows some trees. -/
def modeAfterAll? (m : Mode) : List Tree → Option Mode
  | [] => some m
  | tree :: trees => do modeAfterAll? (← tree.modeAfter? m) trees

end

/-- Whether a pattern can be matched. -/
def isSupported (tree : Tree) : Bool := (tree.modeAfter? {}).isSome

end Tree

end Netlister.Text.Pattern
