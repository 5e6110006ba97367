/-! # VHDL identifiers

  VHDL-93 has two kinds of identifiers:

  - *basic* ones, a letter followed by letters, digits and single underscores
    that do not end it, and not a reserved word; their case does not matter;
  - *extended* ones, any text between backslashes in which a backslash is
    written twice; these are compared exactly.

  `escape` makes any name an extended identifier, `portName` does so only for a
  name that is not a basic identifier already, and `key` is the form under which
  two identifiers denote the same thing.
-/

namespace Netlister.Vhdl.Identifier

/-- The reserved words of VHDL-93, in lower case. -/
def reservedWords : List String :=
  ["abs", "access", "after", "alias", "all", "and", "architecture", "array", "assert",
   "attribute", "begin", "block", "body", "buffer", "bus", "case", "component", "configuration",
   "constant", "disconnect", "downto", "else", "elsif", "end", "entity", "exit", "file", "for",
   "function", "generate", "generic", "group", "guarded", "if", "impure", "in", "inertial",
   "inout", "is", "label", "library", "linkage", "literal", "loop", "map", "mod", "nand", "new",
   "next", "nor", "not", "null", "of", "on", "open", "or", "others", "out", "package", "port",
   "postponed", "procedure", "process", "pure", "range", "record", "register", "reject", "rem",
   "report", "return", "rol", "ror", "select", "severity", "signal", "shared", "sla", "sll",
   "sra", "srl", "subtype", "then", "to", "transport", "type", "unaffected", "units", "until",
   "use", "variable", "wait", "when", "while", "with", "xnor", "xor"]

/-! ### Extended identifiers -/

/-- Whether a text stands between two backslashes. -/
def isDelimited (cs : List Char) : Bool :=
  2 ≤ cs.length && cs.head? == some '\\' && cs.getLast? == some '\\'

/-- Writes every backslash twice. -/
def doubleBackslashes : List Char → List Char
  | [] => []
  | c :: cs => if c = '\\' then '\\' :: '\\' :: doubleBackslashes cs else c :: doubleBackslashes cs

/-- The extended identifier for a name. A name that stands between backslashes
    counts as an extended identifier and is left as it is. -/
def escape (name : String) : String :=
  if isDelimited name.toList then name
  else String.ofList ('\\' :: doubleBackslashes name.toList ++ ['\\'])

/-! ### Basic identifiers -/

/-- Whether two underscores stand side by side. -/
def hasDoubleUnderscore : List Char → Bool
  | '_' :: '_' :: _ => true
  | _ :: cs => hasDoubleUnderscore cs
  | [] => false

/-- Whether a text has the shape of a basic identifier: a letter first, then
    letters, digits and underscores, none of them doubled or last. -/
def hasBasicShape : List Char → Bool
  | [] => false
  | c :: cs =>
    c.isAlpha && cs.all (fun d => d.isAlphanum || d == '_') &&
      (c :: cs).getLast? != some '_' && !hasDoubleUnderscore (c :: cs)

/-- The name with its ASCII letters in lower case. -/
def lower (name : String) : String := String.ofList (name.toList.map Char.toLower)

/-- Whether a name is a basic identifier. -/
def isBasic (name : String) : Bool :=
  hasBasicShape name.toList && !reservedWords.contains (lower name)

/-! ### Names in a design -/

/-- The identifier of a port: the name itself where that is a basic identifier,
    else its extended form. -/
def portName (name : String) : String := if isBasic name then name else escape name

/-- Two identifiers with one key denote the same thing: extended identifiers are
    compared exactly, others without regard to case. -/
def key (identifier : String) : String :=
  if isDelimited identifier.toList then identifier else lower identifier

end Netlister.Vhdl.Identifier
