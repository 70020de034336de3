import ParamDoc.Json.Skip
import ParamDoc.Node

/-!
# Reading a dump

A dump is JSON text that spells one node. The reader takes one character at a time and has no
look-ahead: its state says what is being read and which nodes are still open around it.

A node is an object, whose members may come in any order and among others that are passed over,
or a list of the values of its fields in their fixed order, the last of which may be left out.
At most 127 brackets of nodes and of their inner lists may be open at once.
-/

namespace ParamDoc.Dump

open Json (Step Literal Skip isSpace)

inductive Shape where
  | object
  /-- A list of values; these fields come after the one at hand. -/
  | row (later : List Field)
deriving DecidableEq

/-- A node that is being read, with what has been said about it, the latest first. -/
structure Draft where
  shape : Shape
  members : List Member
deriving DecidableEq

/-- A node whose inner list is open, with its children so far, the latest first. -/
structure Parent where
  draft : Draft
  children : List Node
deriving DecidableEq

/-- What is being read. The parents are those of the node at hand, the nearest first; texts are
held in part. -/
inductive State where
  /-- The outermost node must begin. -/
  | root
  /-- A node of an inner list must begin; the list may also end if it is empty so far. -/
  | child (first : Bool) (parent : Parent) (up : List Parent)
  /-- A key of an object must begin; the object may also end if it is empty so far. -/
  | key (first : Bool) (members : List Member) (up : List Parent)
  | keyText (key : Literal) (members : List Member) (up : List Parent)
  /-- A colon must follow a key; the value of any other key is passed over. -/
  | colon (field : Option Field) (members : List Member) (up : List Parent)
  /-- The value of a field must begin. -/
  | value (field : Field) (draft : Draft) (up : List Parent)
  | word (left : List Char) (field : Field) (draft : Draft) (up : List Parent)
  | text (value : Literal) (field : Field) (draft : Draft) (up : List Parent)
  | skip (value : Skip) (members : List Member) (up : List Parent)
  /-- A value of the node is complete. -/
  | afterValue (draft : Draft) (up : List Parent)
  /-- A node of the inner list of a parent is complete. -/
  | afterChild (parent : Parent) (up : List Parent)
  | done (root : Node)
deriving DecidableEq

/-- The greatest number of brackets that may be open at once. -/
def openLimit : Nat := 127

namespace State

def mayOpen (opened : Nat) : Bool :=
  opened < openLimit

def ofNode (n : Node) : List Parent → State
  | [] => .done n
  | p :: up => .afterChild { p with children := n :: p.children } up

/-- The first character of a node. Each parent has two brackets open. -/
def beginNode? (up : List Parent) (c : Char) : Option State :=
  if !mayOpen (2 * up.length) then none
  else if c = '\x7b' then some (.key true [] up)
  else if c = '[' then some (.value .kind ⟨.row (Field.all.drop 1), []⟩ up)
  else none

/-- Ends the node at hand, if enough has been said about it. -/
def endNode? (draft : Draft) (up : List Parent) : Option State :=
  (Node.ofMembers? draft.members).map (ofNode · up)

def addMember (draft : Draft) (m : Member) (up : List Parent) : State :=
  .afterValue { draft with members := m :: draft.members } up

def endList (p : Parent) (up : List Parent) : State :=
  addMember p.draft (.inner (some p.children.reverse)) up

def beginValue? (field : Field) (draft : Draft) (up : List Parent) (c : Char) : Option State :=
  match field with
  | .kind => if c = '"' then some (.text .start field draft up) else none
  | .label _ =>
    if c = '"' then some (.text .start field draft up)
    else if c = 'n' then some (.word ['u', 'l', 'l'] field draft up)
    else none
  | .inner =>
    if c = 'n' then some (.word ['u', 'l', 'l'] field draft up)
    else if c = '[' ∧ mayOpen (2 * up.length + 1) then some (.child true ⟨draft, []⟩ up)
    else none

/-- The field of a complete key, unless something has been said about it already. -/
def afterKey? (name : String) (members : List Member) (up : List Parent) : Option State :=
  match Field.ofKey? name with
  | none => some (.colon none members up)
  | some f => if members.any (·.field = f) then none else some (.colon (some f) members up)

/-- A character after a complete value. -/
def afterValue? (draft : Draft) (up : List Parent) (c : Char) : Option State :=
  if isSpace c then some (.afterValue draft up)
  else match draft.shape with
    | .object =>
      if c = ',' then some (.key false draft.members up)
      else if c = '\x7d' then endNode? draft up
      else none
    | .row later =>
      if c = ',' then
        match later with
        | [] => none
        | f :: later => some (.value f ⟨.row later, draft.members⟩ up)
      else if c = ']' then endNode? draft up
      else none

/-- Reads one character; `none` if it is refused. -/
def step? : State → Char → Option State
  | .root, c => if isSpace c then some .root else beginNode? [] c
  | .child first p up, c =>
    if isSpace c then some (.child first p up)
    else if first ∧ c = ']' then some (endList p up)
    else beginNode? (p :: up) c
  | .key first members up, c =>
    if isSpace c then some (.key first members up)
    else if c = '"' then some (.keyText .start members up)
    else if first ∧ c = '\x7d' then endNode? ⟨.object, members⟩ up
    else none
  | .keyText l members up, c =>
    match l.step c with
    | .more l => some (.keyText l members up)
    | .done s => afterKey? (String.ofList s) members up
    | .refused => none
  | .colon field members up, c =>
    if isSpace c then some (.colon field members up)
    else if c = ':' then
      match field with
      | some f => some (.value f ⟨.object, members⟩ up)
      | none => some (.skip .start members up)
    else none
  | .value field draft up, c =>
    if isSpace c then some (.value field draft up) else beginValue? field draft up c
  | .word [] _ _ _, _ => none
  | .word (d :: left) field draft up, c =>
    if c ≠ d then none
    else if left.isEmpty then (Member.ofNull field).map (addMember draft · up)
    else some (.word left field draft up)
  | .text l field draft up, c =>
    match l.step c with
    | .more l => some (.text l field draft up)
    | .done s => (Member.ofText field (String.ofList s)).map (addMember draft · up)
    | .refused => none
  | .skip v members up, c =>
    if v.endsBefore c then afterValue? ⟨.object, members⟩ up c
    else match v.step c with
      | .more v => some (.skip v members up)
      | .done () => some (.afterValue ⟨.object, members⟩ up)
      | .refused => none
  | .afterValue draft up, c => afterValue? draft up c
  | .afterChild p up, c =>
    if isSpace c then some (.afterChild p up)
    else if c = ',' then some (.child false p up)
    else if c = ']' then some (endList p up)
    else none
  | .done n, c => if isSpace c then some (.done n) else none

def run? (s : State) : List Char → Option State
  | [] => some s
  | c :: rest => (s.step? c).bind fun t => t.run? rest

@[simp] theorem run?_nil (s : State) : s.run? [] = some s := rfl

/-- Reading two texts in turn is reading them as one. -/
theorem run?_append (s : State) (xs ys : List Char) :
    s.run? (xs ++ ys) = (s.run? xs).bind fun t => t.run? ys := by
  induction xs generalizing s with
  | nil => rfl
  | cons c xs ih =>
    cases h : s.step? c with
    | none => simp [run?, h]
    | some t => simpa [run?, h] using ih t

end State

end ParamDoc.Dump
