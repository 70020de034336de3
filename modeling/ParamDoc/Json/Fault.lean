import ParamDoc.Decimal.Notation
import ParamDoc.Text.Bytes
import ParamDoc.Text.Quoted

/-!
# Why a dump is refused, and where

A refusal has a cause and a position. The causes name what the reader met; their wording is in
one function. A position is a line and a column, and columns count bytes.
-/

namespace ParamDoc.Json

/-- What stands where a value of another type belongs. -/
inductive Found where
  | null
  | boolean (b : Bool)
  | integer (n : Int)
  | floating (x : Float)
  | string (s : String)
  | map
  | sequence
deriving DecidableEq

inductive Expected where
  | string
  | sequence
  | node
deriving DecidableEq

inductive Cause where
  | endInValue
  | endInString
  | endInList
  | endInObject
  | expectedValue
  | expectedWord
  | expectedColon
  | expectedCommaInList
  | expectedCommaInObject
  | keyNotString
  | trailingComma
  | trailingCharacters
  | invalidNumber
  | numberOutOfRange
  | invalidEscape
  | loneSurrogate
  | brokenPair
  | controlCharacter
  | tooDeep
  | noFields
  | duplicateField (key : String)
  | missingField (key : String)
  | wrongType (found : Found) (expected : Expected)
deriving DecidableEq

def Found.message : Found → String
  | .null => "null"
  | .boolean true => "boolean `true`"
  | .boolean false => "boolean `false`"
  | .integer n => "integer `" ++ toString n ++ "`"
  | .floating x => "floating point `" ++ Decimal.written x ++ "`"
  | .string s => "string " ++ Text.quoted s
  | .map => "map"
  | .sequence => "sequence"

def Expected.message : Expected → String
  | .string => "a string"
  | .sequence => "a sequence"
  | .node => "struct Node"

def Cause.message : Cause → String
  | .endInValue => "EOF while parsing a value"
  | .endInString => "EOF while parsing a string"
  | .endInList => "EOF while parsing a list"
  | .endInObject => "EOF while parsing an object"
  | .expectedValue => "expected value"
  | .expectedWord => "expected ident"
  | .expectedColon => "expected `:`"
  | .expectedCommaInList => "expected `,` or `]`"
  | .expectedCommaInObject => "expected `,` or `\x7d`"
  | .keyNotString => "key must be a string"
  | .trailingComma => "trailing comma"
  | .trailingCharacters => "trailing characters"
  | .invalidNumber => "invalid number"
  | .numberOutOfRange => "number out of range"
  | .invalidEscape => "invalid escape"
  | .loneSurrogate => "lone leading surrogate in hex escape"
  | .brokenPair => "unexpected end of hex escape"
  | .controlCharacter => "control character (\\u0000-\\u001F) found while parsing a string"
  | .tooDeep => "recursion limit exceeded"
  | .noFields => "invalid length 0, expected struct Node with 7 elements"
  | .duplicateField key => "duplicate field `" ++ key ++ "`"
  | .missingField key => "missing field `" ++ key ++ "`"
  | .wrongType found expected =>
    "invalid type: " ++ found.message ++ ", expected " ++ expected.message

/-- A cause, with the text that was still unread and the number of bytes of it that count as
read. -/
structure Stop where
  cause : Cause
  unread : List Char
  beyond : Nat
deriving DecidableEq

/-- A cause, with the line and the column where it was noticed. -/
structure Fault where
  cause : Cause
  line : Nat
  column : Nat
deriving DecidableEq

def Fault.message (f : Fault) : String :=
  f.cause.message ++ " at line " ++ toString f.line ++ " column " ++ toString f.column

/-- The line and column reached after some bytes of a text, from a given line and column. A line
feed ends a line; the text may be shorter than the bytes asked for. -/
def positionFrom (line column : Nat) : Nat → List Char → Nat × Nat
  | 0, _ => (line, column)
  | _, [] => (line, column)
  | n, c :: rest =>
    if c = '\n' then positionFrom (line + 1) 0 (n - 1) rest
    else positionFrom line (column + min n c.utf8Size) (n - c.utf8Size) rest

def Stop.locate (s : Stop) (text : List Char) : Fault :=
  let offset := Text.byteLength text - Text.byteLength s.unread + s.beyond
  let (line, column) := positionFrom 1 0 offset text
  ⟨s.cause, line, column⟩

end ParamDoc.Json
