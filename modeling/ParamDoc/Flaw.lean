import ParamDoc.Json.Fault
import ParamDoc.Node

/-!
# What can be wrong with a dump

The text may spell no node, or the tree may lack what a query asks for.
-/

namespace ParamDoc

inductive Kind where
  | unit
  | function
  | parameter
  | comment
  | paragraph
  | block
deriving DecidableEq

def Kind.name : Kind → String
  | .unit => "TranslationUnitDecl"
  | .function => "FunctionDecl"
  | .parameter => "ParmVarDecl"
  | .comment => "FullComment"
  | .paragraph => "ParagraphComment"
  | .block => "ParamCommandComment"

/-- What is wrong with the shape of a comment. Faults of a block tell the parameter it names. -/
inductive Malformation where
  | paragraphWithoutText
  | noBlocks
  | noParagraph (param : Option String)
  | emptyParagraph (param : Option String)
  | unknownDirection (text : String)
deriving DecidableEq

def Malformation.kind : Malformation → Kind
  | .paragraphWithoutText => .paragraph
  | .noBlocks => .comment
  | .noParagraph _ => .block
  | .emptyParagraph _ => .block
  | .unknownDirection _ => .block

def Malformation.reason : Malformation → String
  | .paragraphWithoutText => "paragraph has no text"
  | .noBlocks => "no @param blocks"
  | .noParagraph param => "@param " ++ param.getD "?" ++ ": no paragraph"
  | .emptyParagraph param => "@param " ++ param.getD "?" ++ ": empty paragraph"
  | .unknownDirection text => "unknown direction `" ++ text ++ "`"

inductive Flaw where
  | undecodable (fault : Json.Fault)
  | missingField (kind : String) (label : Label)
  | unexpectedKind (expected : Kind) (found : String)
  | noFunctions
  | missingComment (function : String)
  | malformed (what : Malformation)
  | noParameters (function : String)
  | unmatchedParameter (function parameter : String)
  | sizeNotFound (parameter : String)
deriving DecidableEq

def Flaw.message : Flaw → String
  | .undecodable fault => "failed to decode AST JSON: " ++ fault.message
  | .missingField kind label => "`" ++ kind ++ "` node has no `" ++ label.key ++ "` field"
  | .unexpectedKind expected found =>
    "expected a `" ++ expected.name ++ "` node, found `" ++ found ++ "`"
  | .noFunctions => "translation unit declares no functions"
  | .missingComment function => "function `" ++ function ++ "` has no FullComment"
  | .malformed what => "malformed `" ++ what.kind.name ++ "` node: " ++ what.reason
  | .noParameters function => "function `" ++ function ++ "` declares no parameters"
  | .unmatchedParameter function parameter =>
    "parameter `" ++ parameter ++ "` of `" ++ function ++ "` has no matching @param block"
  | .sizeNotFound parameter =>
    "no `size:` annotation in the documentation of parameter `" ++ parameter ++ "`"

end ParamDoc
