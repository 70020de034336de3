/-!
# How deep a pattern is nested

A pattern is a tree of groups, brackets, repetitions, alternatives and rows of items, and its
height is limited. While a pattern is read, the heights of its parts are kept instead of the
parts themselves. Single characters and escapes have no height.
-/

namespace ParamDoc.Pattern

structure Row where
  count : Nat
  /-- The height of the highest item before the last one. -/
  before : Nat
  last : Nat
  /-- A repetition may follow the last item. -/
  repeatable : Bool
deriving DecidableEq

namespace Row

def empty : Row := ⟨0, 0, 0, false⟩

def add (r : Row) (height : Nat) : Row :=
  ⟨r.count + 1, max r.before r.last, height, true⟩

/-- Adds flags, which are an item that may not be repeated. -/
def addFlags (r : Row) : Row :=
  { r.add 0 with repeatable := false }

def repeatLast (r : Row) : Row :=
  { r with last := r.last + 1 }

/-- Several items are a level of their own. -/
def height (r : Row) : Nat :=
  if 2 ≤ r.count then max r.before r.last + 1 else r.last

end Row

/-- What is read of a group or of a pair of brackets: the row at hand, and the height of what
stands before it and is set apart from it. -/
structure Body where
  row : Row
  before : Option Nat
deriving DecidableEq

namespace Body

def empty : Body := ⟨.empty, none⟩

/-- Two parts that are set apart are a level of their own. -/
def height (b : Body) : Nat :=
  match b.before with
  | none => b.row.height
  | some h => max h b.row.height + 1

def add (b : Body) (height : Nat) : Body :=
  { b with row := b.row.add height }

/-- Begins another alternative: they all are on one level. -/
def beginAlternative (b : Body) : Body :=
  ⟨.empty, some (max (b.before.getD 0) b.row.height)⟩

/-- Begins the right side of an operator, whose left side is everything before it. -/
def beginOperand (b : Body) : Body :=
  ⟨.empty, some b.height⟩

end Body

end ParamDoc.Pattern
