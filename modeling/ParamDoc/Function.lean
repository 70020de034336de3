import ParamDoc.Comment
import ParamDoc.SizeTag

/-!
# Functions and their parameters

A function is documented by its first comment, and each of its parameters by the first block of
a comment that has the parameter's name.
-/

namespace ParamDoc

/-- A parameter with the block that documents it. -/
structure Parameter where
  node : Node.Of .parameter
  block : Block

namespace Parameter

def name (p : Parameter) : Except Flaw String :=
  p.node.node.require .name

def mangledName (p : Parameter) : Except Flaw String :=
  p.node.node.require .mangledName

/-- The identifier of the first size tag in the documentation of the parameter. -/
def size (p : Parameter) : Query String := do
  let text ← Block.text p.block
  match ← SizeTag.find text with
  | some size => return size
  | none => Query.fail (.sizeNotFound (p.node.node.name.getD "<anonymous>"))

end Parameter

namespace Function

def name (f : Function) : Except Flaw String :=
  f.node.require .name

def mangledName (f : Function) : Except Flaw String :=
  f.node.require .mangledName

def displayName (f : Function) : String :=
  f.node.name.getD "<anonymous>"

/-- The comment that documents the function: its first one, whose kind is checked. That there are
others is reported. -/
def comment (f : Function) : Query Comment :=
  match f.node.ofKind .comment with
  | [] => Query.fail (.missingComment (displayName f))
  | n :: others => do
    unless others.isEmpty do
      Query.report .extraComments (.ok (.extraComments (displayName f) (others.length + 1)))
    n.as .comment

/-- The first of the blocks that has the given name. -/
def documentation? (name : String) : List Block → Except Flaw (Option Block)
  | [] => .ok none
  | b :: rest => do
    if (← Block.name b) = name then return some b
    documentation? name rest

/-- Pairs parameters with the blocks that document them, in order. -/
def pair (f : Function) (blocks : List Block) : List (Node.Of .parameter) → Query (List Parameter)
  | [] => pure []
  | p :: rest => do
    let name ← p.node.require .name
    match ← documentation? name blocks with
    | none => Query.fail (.unmatchedParameter (displayName f) name)
    | some block => do
      Query.report .paired (.ok (.paired name))
      return ⟨p, block⟩ :: (← pair f blocks rest)

def parametersIn (f : Function) (c : Comment) : Query (List Parameter) :=
  pair f (Comment.blocks c) (f.node.childrenOf .parameter)

/-- The first parameter of the function. All are paired, so a flaw in any of them shows. -/
def firstParameterIn (f : Function) (c : Comment) : Query Parameter := do
  match ← parametersIn f c with
  | [] => Query.fail (.noParameters (displayName f))
  | p :: _ => return p

/-- The parameters of the function, documented by its own comment. -/
def parameters (f : Function) : Query (List Parameter) := do
  parametersIn f (← comment f)

def firstParameter (f : Function) : Query Parameter := do
  firstParameterIn f (← comment f)

end Function

namespace TranslationUnit

def functions (u : TranslationUnit) : List Function :=
  u.node.childrenOf .function

def firstFunction (u : TranslationUnit) : Except Flaw Function :=
  match functions u with
  | [] => .error .noFunctions
  | f :: _ => .ok f

end TranslationUnit

end ParamDoc
