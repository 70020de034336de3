import ParamDoc.Json.Writing
import ParamDoc.Summary

/-!
# How a summary is printed

As five lines of text, or as a JSON object with one member a line.
-/

namespace ParamDoc

inductive Format where
  | text
  | json
deriving DecidableEq

def Format.ofName? (name : String) : Option Format :=
  if name = "text" ∨ name = "txt" then some .text
  else if name = "json" then some .json
  else none

def Format.unknown (name : String) : String :=
  "unknown format: " ++ name ++ ". Use text or json"

namespace Summary

/-- The names of the parts of a summary and their texts, in the order in which they are
printed. -/
def parts (s : Summary) : List (String × String) :=
  [("function", s.function), ("parameter", s.parameter), ("description", s.description),
    ("parameter_doc", s.parameterDoc), ("size", s.size)]

/-- Each part on a line of its own, as it is. -/
def toText (s : Summary) : String :=
  String.join (s.parts.map fun part => part.2 ++ "\n")

/-- A line of the JSON form: a member, without the comma after it. -/
def member (part : String × String) : List Char :=
  ' ' :: ' ' :: Json.literal part.1.toList ++ ':' :: ' ' :: Json.literal part.2.toList

/-- An object with one member a line. -/
def toJson (s : Summary) : String :=
  String.ofList
    ('\x7b' :: '\n' :: List.intercalate [',', '\n'] (s.parts.map member) ++ ['\n', '\x7d', '\n'])

def print (s : Summary) : Format → String
  | .text => s.toText
  | .json => s.toJson

end Summary

end ParamDoc
