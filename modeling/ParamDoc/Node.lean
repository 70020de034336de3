/-!
# Nodes of a syntax tree

A dump describes declarations and their documentation comments as a tree of nodes. A node has a
kind, up to five labels, and possibly a list of inner nodes; a node without a list is not the
same as a node with an empty one.
-/

namespace ParamDoc

inductive Label where
  | name
  | mangledName
  | text
  | param
  | direction
deriving DecidableEq

def Label.key : Label → String
  | .name => "name"
  | .mangledName => "mangledName"
  | .text => "text"
  | .param => "param"
  | .direction => "direction"

structure Node where
  kind : String
  name : Option String
  mangledName : Option String
  text : Option String
  param : Option String
  direction : Option String
  inner : Option (List Node)

namespace Node

def label? (n : Node) : Label → Option String
  | .name => n.name
  | .mangledName => n.mangledName
  | .text => n.text
  | .param => n.param
  | .direction => n.direction

/-- The inner nodes; a node without a list has none. -/
def children (n : Node) : List Node :=
  n.inner.getD []

def firstChild? (n : Node) : Option Node :=
  n.children.head?

/-- The node at the end of a path of positions among inner nodes. -/
def descendant? (n : Node) : List Nat → Option Node
  | [] => some n
  | i :: path => n.children[i]?.bind (·.descendant? path)

def positionsOf (n : Node) (kind : String) : List Nat :=
  (n.children.zipIdx.filter (·.1.kind = kind)).map (·.2)

mutual

def decEq : (m n : Node) → Decidable (m = n)
  | ⟨k, a, b, c, d, e, i⟩, ⟨k', a', b', c', d', e', i'⟩ =>
    if h : k = k' ∧ a = a' ∧ b = b' ∧ c = c' ∧ d = d' ∧ e = e' then
      match decEqInner i i' with
      | isTrue hi => isTrue (by simp [h, hi])
      | isFalse hi => isFalse (by simp [hi])
    else isFalse (by
      simp only [mk.injEq, not_and]
      intro hk ha hb hc hd he
      exact absurd ⟨hk, ha, hb, hc, hd, he⟩ h)

def decEqInner : (m n : Option (List Node)) → Decidable (m = n)
  | none, none => isTrue rfl
  | some ms, some ns =>
    match decEqList ms ns with
    | isTrue h => isTrue (by rw [h])
    | isFalse h => isFalse (by simp [h])
  | none, some _ => isFalse (by simp)
  | some _, none => isFalse (by simp)

def decEqList : (m n : List Node) → Decidable (m = n)
  | [], [] => isTrue rfl
  | m :: ms, n :: ns =>
    match decEq m n, decEqList ms ns with
    | isTrue h, isTrue hs => isTrue (by rw [h, hs])
    | isFalse h, _ => isFalse (by simp [h])
    | _, isFalse hs => isFalse (by simp [hs])
  | [], _ :: _ => isFalse (by simp)
  | _ :: _, [] => isFalse (by simp)

end

instance : DecidableEq Node := decEq

end Node

inductive Field where
  | kind
  | label (l : Label)
  | inner
deriving DecidableEq

namespace Field

def key : Field → String
  | .kind => "kind"
  | .label l => l.key
  | .inner => "inner"

/-- All fields, in the order in which a dump without keys lists their values. -/
def all : List Field :=
  [.kind, .label .name, .label .mangledName, .label .text, .label .param, .label .direction,
    .inner]

def ofKey? (key : String) : Option Field :=
  all.find? (·.key = key)

end Field

/-- One statement of a dump about a node. -/
inductive Member where
  | kind (kind : String)
  | label (l : Label) (value : Option String)
  | inner (nodes : Option (List Node))
deriving DecidableEq

namespace Member

def field : Member → Field
  | .kind _ => .kind
  | .label l _ => .label l
  | .inner _ => .inner

/-- The statement that a text makes as the value of a field. -/
def ofText (f : Field) (s : String) : Option Member :=
  match f with
  | .kind => some (.kind s)
  | .label l => some (.label l (some s))
  | .inner => none

/-- The statement that an absent value makes. A kind may not be absent. -/
def ofNull (f : Field) : Option Member :=
  match f with
  | .kind => none
  | .label l => some (.label l none)
  | .inner => some (.inner none)

end Member

namespace Node

def kindIn : List Member → Option String
  | [] => none
  | .kind s :: _ => some s
  | _ :: rest => kindIn rest

def labelIn (l : Label) : List Member → Option String
  | [] => none
  | .label l' value :: rest => if l' = l then value else labelIn l rest
  | _ :: rest => labelIn l rest

def innerIn : List Member → Option (List Node)
  | [] => none
  | .inner nodes :: _ => nodes
  | _ :: rest => innerIn rest

/-- The node that the statements describe: its kind must be stated. -/
def ofMembers? (members : List Member) : Option Node :=
  (kindIn members).map fun kind =>
    { kind
      name := labelIn .name members
      mangledName := labelIn .mangledName members
      text := labelIn .text members
      param := labelIn .param members
      direction := labelIn .direction members
      inner := innerIn members }

end Node

end ParamDoc
