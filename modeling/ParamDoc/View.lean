import ParamDoc.Query

/-!
# Nodes of a known kind

A query about functions, comments or parameters is put to a node of that kind. The kind is
checked once, and the check stays with the node.
-/

namespace ParamDoc

namespace Node

/-- The label of a node that must have it. -/
def require (n : Node) (l : Label) : Except Flaw String :=
  match n.label? l with
  | some s => .ok s
  | none => .error (.missingField n.kind l)

structure Of (k : Kind) where
  node : Node
  kind_eq : node.kind = k.name

def as? (n : Node) (k : Kind) : Option (Of k) :=
  if h : n.kind = k.name then some ⟨n, h⟩ else none

/-- The node, which must be of the given kind. -/
def as (n : Node) (k : Kind) : Except Flaw (Of k) :=
  if h : n.kind = k.name then .ok ⟨n, h⟩ else .error (.unexpectedKind k n.kind)

def ofKind (n : Node) (k : Kind) : List Node :=
  n.children.filter (·.kind = k.name)

def childrenOf (n : Node) (k : Kind) : List (Of k) :=
  n.children.filterMap (·.as? k)

end Node

abbrev TranslationUnit : Type := Node.Of .unit
abbrev Function : Type := Node.Of .function
abbrev Comment : Type := Node.Of .comment
abbrev Block : Type := Node.Of .block

end ParamDoc
