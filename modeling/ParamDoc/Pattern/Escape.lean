/-!
# Escapes in a pattern
-/

namespace ParamDoc.Pattern

/-- What a backslash and the character after it begin. -/
inductive Escape where
  /-- A character with the given code point. -/
  | literal (value : Nat)
  /-- A character whose code point follows in so many hexadecimal digits. -/
  | digits (count : Nat)
  /-- The characters with a property, whose letter follows. -/
  | property
  /-- Digits, white space or word characters, or all characters but these. -/
  | family (negated : Bool)
  /-- An end of the text. -/
  | edge
  /-- An edge of a word. -/
  | wordEdge
deriving DecidableEq

namespace Escape

/-- The escape with the given letter. Signs stand for themselves; other digits and letters and
all characters beyond ASCII have no escape. -/
def ofLetter? : Char → Option Escape
  | 'a' => some (.literal 0x07)
  | 't' => some (.literal 0x09)
  | 'n' => some (.literal 0x0A)
  | 'v' => some (.literal 0x0B)
  | 'f' => some (.literal 0x0C)
  | 'r' => some (.literal 0x0D)
  | 'x' => some (.digits 2)
  | 'u' => some (.digits 4)
  | 'U' => some (.digits 8)
  | 'p' => some .property
  | 'P' => some .property
  | 'd' => some (.family false)
  | 's' => some (.family false)
  | 'w' => some (.family false)
  | 'D' => some (.family true)
  | 'S' => some (.family true)
  | 'W' => some (.family true)
  | 'A' => some .edge
  | 'z' => some .edge
  | 'b' => some .wordEdge
  | 'B' => some .wordEdge
  | '<' => some .wordEdge
  | '>' => some .wordEdge
  | c => if c.toNat < 0x80 && !c.isAlphanum then some (.literal c.toNat) else none

end Escape

/-- The letters of properties that are named by one letter, the general categories. -/
def propertyLetters : List Char :=
  ['c', 'l', 'm', 'n', 'p', 's', 'z', 'C', 'L', 'M', 'N', 'P', 'S', 'Z']

/-- The names of the classes of ASCII characters that are written between `[:` and `:]`. -/
def asciiClasses : List String :=
  ["alnum", "alpha", "ascii", "blank", "cntrl", "digit", "graph", "lower", "print", "punct",
    "space", "upper", "word", "xdigit"]

end ParamDoc.Pattern
