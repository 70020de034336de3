import ParamDoc.Function

/-!
# Summaries

The summary of a translation unit says, of its first function and of that function's first
parameter, what their documentation tells.
-/

namespace ParamDoc

structure Summary where
  function : String
  parameter : String
  /-- The prose of the function's comment. -/
  description : String
  /-- The text of the first block of the comment. -/
  parameterDoc : String
  /-- The identifier of the first size tag of the block that documents the parameter. -/
  size : String
deriving DecidableEq

/-- The report that a summary is about to be made. It names the function and the parameter. -/
def summarizing (f : Function) (p : Parameter) : Except Flaw Event := do
  return .summarizing (← Function.name f) (← p.name)

def TranslationUnit.summary (u : TranslationUnit) : Query Summary := do
  let f ← firstFunction u
  let comment ← Function.comment f
  let p ← Function.firstParameterIn f comment
  Query.report .summarizing (summarizing f p)
  let function ← Function.name f
  let parameter ← p.name
  let description ← Comment.text comment
  let block ← Comment.firstBlock comment
  let parameterDoc ← Block.text block
  let size ← p.size
  return { function, parameter, description, parameterDoc, size }

end ParamDoc
