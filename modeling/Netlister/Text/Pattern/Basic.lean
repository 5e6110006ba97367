/-! # Patterns

  A pattern is a regular expression. Its tree keeps what decides whether a matcher
  can be made of it, and leaves out the rest: which characters a named set has, how
  two sets are combined, how often an item may be repeated.
-/

namespace Netlister.Text

namespace Pattern

/-! ### Parts -/

/-- Something that can be turned on and off for a part of a pattern. -/
inductive Flag where
  | ignoreCase
  | multiLine
  | dotMatchesNewline
  | swapGreed
  | unicode
  | crlf
  /-- Blanks and comments in the pattern mean nothing. -/
  | verbose
deriving DecidableEq

/-- Flags and whether they are turned on. -/
abbrev Flags := List (Flag × Bool)

/-- Whether flags turn one of them on or off. -/
def Flags.setting? (flags : Flags) (flag : Flag) : Option Bool := flags.lookup flag

/-- A character in a pattern. -/
structure Literal where
  /-- The character. -/
  char : Char
  /-- Whether it is written as a byte, by two hexadecimal digits. -/
  asByte : Bool := false

/-! ### Classes -/

/-- What is in brackets: a set of characters. -/
inductive CharSet where
  /-- Nothing at all. -/
  | empty
  /-- A character. -/
  | literal (l : Literal)
  /-- The characters from one to another. -/
  | range (first last : Literal)
  /-- A set of ASCII characters with a name, or all characters but those. -/
  | named (negated : Bool)
  /-- Digits, blanks or the characters of words, or all characters but those. -/
  | kind (negated : Bool)
  /-- A set in brackets of its own. -/
  | brackets (negated : Bool) (set : CharSet)
  /-- The characters of several sets. -/
  | union (sets : List CharSet)
  /-- What two sets have in common, or one of them alone. -/
  | combine (left right : CharSet)

namespace CharSet

/-- The characters of some sets, as one set. -/
def ofList : List CharSet → CharSet
  | [] => empty
  | [set] => set
  | sets => union sets

mutual

/-- How deep sets are nested in a set. -/
def depth : CharSet → Nat
  | brackets _ set => set.depth + 1
  | union sets => maxDepth sets + 1
  | combine left right => max left.depth right.depth + 1
  | _ => 0

/-- The greatest depth of some sets. -/
def maxDepth : List CharSet → Nat
  | [] => 0
  | set :: sets => max set.depth (maxDepth sets)

end

end CharSet

/-! ### Trees -/

/-- The tree of a pattern. -/
inductive Tree where
  /-- Nothing at all. -/
  | empty
  /-- Flags for what follows in the same group. -/
  | setFlags (flags : Flags)
  /-- A character. -/
  | literal (l : Literal)
  /-- Any character. -/
  | dot
  /-- The start or end of a line or of the text. -/
  | edge
  /-- A place that the boundaries of words decide about. -/
  | wordEdge
  /-- Digits, blanks or the characters of words, or all characters but those. -/
  | kind (negated : Bool)
  /-- A set of characters in brackets. -/
  | brackets (negated : Bool) (set : CharSet)
  /-- Something that may occur another number of times than once. -/
  | repetition (item : Tree)
  /-- A group and its flags. -/
  | group (flags : Flags) (content : Tree)
  /-- One of several. -/
  | choice (branches : List Tree)
  /-- One after the other. -/
  | sequence (items : List Tree)

namespace Tree

/-- Some items one after the other, as one tree. -/
def ofItems : List Tree → Tree
  | [] => empty
  | [item] => item
  | items => sequence items

/-- One of some branches, as one tree. -/
def ofBranches : List Tree → Tree
  | [] => empty
  | [branch] => branch
  | branches => choice branches

/-- Whether something may be repeated: flags may not. -/
def isRepeatable : Tree → Bool
  | empty => false
  | setFlags _ => false
  | _ => true

mutual

/-- How deep trees are nested in a tree. -/
def depth : Tree → Nat
  | brackets _ set => set.depth + 1
  | repetition item => item.depth + 1
  | group _ content => content.depth + 1
  | choice branches => maxDepth branches + 1
  | sequence items => maxDepth items + 1
  | _ => 0

/-- The greatest depth of some trees. -/
def maxDepth : List Tree → Nat
  | [] => 0
  | tree :: trees => max tree.depth (maxDepth trees)

end

end Tree

end Pattern

end Netlister.Text
