import ParamDoc.Function
import ParamDoc.Proofs.Telling

/-!
# Pairing parameters with blocks

Parameters are paired with blocks by a search of their own, which agrees with the lookup by name
for each of them up to the first flaw. So every parameter that a query gives has a name, and its
block is the earliest one with that name.
-/

namespace ParamDoc

namespace Node

theorem as?_eq_some_iff {n : Node} {k : Kind} {x : Of k} : n.as? k = some x ↔ n = x.node := by
  unfold as?
  split_ifs with h
  · constructor
    · intro hx
      rw [← Option.some.inj hx]
    · intro hx
      subst hx
      rfl
  · constructor
    · intro hx
      simp at hx
    · intro hx
      exact absurd (hx ▸ x.kind_eq) h

theorem map_node_childrenOf (n : Node) (k : Kind) :
    (n.childrenOf k).map (·.node) = n.children.filter (·.kind = k.name) := by
  unfold childrenOf
  induction n.children with
  | nil => rfl
  | cons x xs ih =>
    by_cases h : x.kind = k.name
    · have hx : x.as? k = some ⟨x, h⟩ := as?_eq_some_iff.mpr rfl
      simp [hx, h, ih]
    · have hx : x.as? k = none := by simp [as?, h]
      simp [hx, h, ih]

theorem ofKind_eq_map (n : Node) (k : Kind) : n.ofKind k = (n.childrenOf k).map (·.node) :=
  (map_node_childrenOf n k).symm

@[simp] theorem as_self {k : Kind} (x : Of k) : x.node.as k = .ok x :=
  dif_pos x.kind_eq

@[simp] theorem require_eq_ok_iff {n : Node} {l : Label} {s : String} :
    n.require l = .ok s ↔ n.label? l = some s := by
  unfold require
  cases n.label? l <;> simp

theorem require_of_none {n : Node} {l : Label} (h : n.label? l = none) :
    n.require l = .error (.missingField n.kind l) := by
  simp [require, h]

end Node

namespace Block

theorem name_eq_ok_iff {b : Block} {s : String} : name b = .ok s ↔ b.node.param = some s :=
  Node.require_eq_ok_iff

theorem name_of_none {b : Block} (h : b.node.param = none) :
    name b = .error (.missingField Kind.block.name .param) := by
  have hlabel : b.node.label? .param = none := h
  rw [name, Node.require_of_none hlabel, b.kind_eq]

def NamesOther (name : String) (b : Block) : Prop :=
  ∃ other, b.node.param = some other ∧ other ≠ name

end Block

/-- The block is the earliest one with the name: all before it have other names. -/
def Comment.Earliest (c : Comment) (name : String) (b : Block) : Prop :=
  ∃ before after, Comment.blocks c = before ++ b :: after ∧ Block.name b = .ok name ∧
    ∀ x ∈ before, Block.NamesOther name x

namespace Function

open Block (NamesOther)

/-- The check of its kind refuses no comment, as no other nodes are looked at. -/
theorem comment_eq (f : Function) : comment f =
    match f.node.childrenOf .comment with
    | [] => Query.fail (.missingComment (displayName f))
    | c :: others => do
      unless others.isEmpty do
        Query.report .extraComments (.ok (.extraComments (displayName f) (others.length + 1)))
      return c := by
  unfold comment
  rw [Node.ofKind_eq_map]
  cases f.node.childrenOf .comment with
  | nil => rfl
  | cons c others =>
    simp only [List.map_cons, List.isEmpty_map, List.length_map, Node.as_self]
    rfl

/-- All that a search by name can do: it finds the earliest block with the name, it meets a
block without a name before that, or all blocks have other names. -/
theorem documentation?_cases (name : String) (blocks : List Block) :
    (∃ before b after, blocks = before ++ b :: after ∧ b.node.param = some name ∧
      (∀ x ∈ before, NamesOther name x) ∧ documentation? name blocks = .ok (some b)) ∨
    (∃ before b after, blocks = before ++ b :: after ∧ b.node.param = none ∧
      (∀ x ∈ before, NamesOther name x) ∧
      documentation? name blocks = .error (.missingField Kind.block.name .param)) ∨
    ((∀ x ∈ blocks, NamesOther name x) ∧ documentation? name blocks = .ok none) := by
  induction blocks with
  | nil => exact .inr (.inr ⟨by simp, rfl⟩)
  | cons b rest ih =>
    cases hb : b.node.param with
    | none =>
      refine .inr (.inl ⟨[], b, rest, rfl, hb, by simp, ?_⟩)
      simp [documentation?, Block.name_of_none hb]
    | some other =>
      by_cases h : other = name
      · subst h
        refine .inl ⟨[], b, rest, rfl, hb, by simp, ?_⟩
        simp [documentation?, Block.name_eq_ok_iff.mpr hb]
        rfl
      · have hstep : documentation? name (b :: rest) = documentation? name rest := by
          simp [documentation?, Block.name_eq_ok_iff.mpr hb, h]
        have hother : NamesOther name b := ⟨other, hb, h⟩
        rw [hstep]
        rcases ih with ⟨before, x, after, rfl, hx, hbefore, hfind⟩ |
            ⟨before, x, after, rfl, hx, hbefore, hfind⟩ | ⟨hall, hfind⟩
        · exact .inl ⟨b :: before, x, after, rfl, hx, by simpa using ⟨hother, hbefore⟩, hfind⟩
        · exact .inr (.inl
            ⟨b :: before, x, after, rfl, hx, by simpa using ⟨hother, hbefore⟩, hfind⟩)
        · exact .inr (.inr ⟨by simpa using ⟨hother, hall⟩, hfind⟩)

theorem documentation?_blocks (name : String) (c : Comment) :
    documentation? name (Comment.blocks c) = Comment.block? c name := by
  unfold Comment.block?
  induction Comment.blocks c with
  | nil => rfl
  | cons b rest ih =>
    cases hb : b.node.param with
    | none =>
      have hname := Block.name_of_none hb
      simp [documentation?, hb, hname, Except.map]
    | some other =>
      have hname := Block.name_eq_ok_iff.mpr hb
      by_cases h : other = name
      · subst h
        simp [documentation?, hb, hname, Except.map]
        rfl
      · simp [documentation?, hb, hname, h, ih]

/-- One parameter with the block that the comment's lookup gives for its name. -/
def resolve (f : Function) (c : Comment) (p : Node.Of .parameter) : Except Flaw Parameter := do
  let name ← p.node.require .name
  match ← Comment.block? c name with
  | none => .error (.unmatchedParameter (displayName f) name)
  | some b => .ok ⟨p, b⟩

theorem resolve_eq_ok {f : Function} {c : Comment} {p : Node.Of .parameter} {q : Parameter}
    (h : resolve f c p = .ok q) :
    q.node = p ∧ ∃ name, q.name = .ok name ∧ Comment.Earliest c name q.block := by
  obtain ⟨name, hname, h⟩ := bind_eq_ok_iff.mp h
  obtain ⟨found, hfound, h⟩ := bind_eq_ok_iff.mp h
  rw [← documentation?_blocks] at hfound
  rcases documentation?_cases name (Comment.blocks c) with
    ⟨before, b, after, hblocks, hb, hbefore, hfind⟩ | ⟨_, _, _, _, _, _, hfind⟩ | ⟨_, hfind⟩
  · rw [hfound] at hfind
    cases hfind
    cases h
    exact ⟨rfl, name, hname, before, after, hblocks, Block.name_eq_ok_iff.mpr hb, hbefore⟩
  · rw [hfound] at hfind
    cases hfind
  · rw [hfound] at hfind
    cases hfind
    cases h

section Telling

variable {f : Function} {c : Comment}

/-- The first step of pairing ends it if the lookup has a flaw. -/
theorem tells_pair_of_error {p : Node.Of .parameter}
    {rest : List (Node.Of .parameter)} {flaw : Flaw} (h : resolve f c p = .error flaw) :
    (pair f (Comment.blocks c) (p :: rest)).Tells [] (.error flaw) := by
  unfold resolve at h
  rw [pair]
  cases hname : p.node.require .name with
  | error first =>
    rw [hname] at h
    cases h
    exact Query.tells_lift_bind_error rfl _
  | ok name =>
    rw [hname, ok_bind] at h
    refine Query.tells_lift_bind rfl ?_
    rw [documentation?_blocks]
    cases hblock : Comment.block? c name with
    | error second =>
      rw [hblock] at h
      cases h
      exact Query.tells_lift_bind_error rfl _
    | ok found =>
      rw [hblock, ok_bind] at h
      refine Query.tells_lift_bind rfl ?_
      cases found with
      | none =>
        cases h
        exact Query.tells_fail
      | some b => cases h

theorem tells_pair_of_ok {p : Node.Of .parameter} {q : Parameter}
    {rest : List (Node.Of .parameter)} {name : String} {events : List Event}
    {result : Except Flaw (List Parameter)} (h : resolve f c p = .ok q)
    (hname : p.node.require .name = .ok name)
    (hrest : (pair f (Comment.blocks c) rest).Tells events result) :
    (pair f (Comment.blocks c) (p :: rest)).Tells (.paired name :: events)
      (result.map (q :: ·)) := by
  unfold resolve at h
  rw [hname, ok_bind] at h
  rw [pair]
  refine Query.tells_lift_bind hname ?_
  rw [documentation?_blocks]
  cases hblock : Comment.block? c name with
  | error flaw =>
    rw [hblock] at h
    cases h
  | ok found =>
    rw [hblock, ok_bind] at h
    refine Query.tells_lift_bind rfl ?_
    cases found with
    | none => cases h
    | some b =>
      cases h
      refine (Query.tells_report (.paired name)).bind ?_
      cases result with
      | error flaw => exact hrest.bind_error _
      | ok qs => exact hrest.bind_silent (Query.tells_pure (⟨p, b⟩ :: qs))

variable (f c)

/-- The names of the parameters before the first one whose lookup has a flaw. -/
def pairedNames (ps : List (Node.Of .parameter)) : List String :=
  (ps.takeWhile fun p => (resolve f c p).isOk).filterMap (·.node.name)

variable {f c}

theorem pairedNames_of_error {p : Node.Of .parameter} {rest : List (Node.Of .parameter)}
    {flaw : Flaw} (h : resolve f c p = .error flaw) : pairedNames f c (p :: rest) = [] := by
  simp [pairedNames, h, Except.isOk, Except.toBool]

theorem pairedNames_of_ok {p : Node.Of .parameter} {rest : List (Node.Of .parameter)}
    {q : Parameter} {name : String} (h : resolve f c p = .ok q)
    (hname : p.node.require .name = .ok name) :
    pairedNames f c (p :: rest) = name :: pairedNames f c rest := by
  have hlabel : p.node.name = some name := Node.require_eq_ok_iff.mp hname
  simp [pairedNames, h, hlabel, Except.isOk, Except.toBool]

/-- Pairing is the comment's lookup for one parameter after another, and tells each success. -/
theorem tells_pair (ps : List (Node.Of .parameter)) :
    (pair f (Comment.blocks c) ps).Tells ((pairedNames f c ps).map .paired)
      (ps.mapM (resolve f c)) := by
  induction ps with
  | nil => exact Query.tells_pure []
  | cons p rest ih =>
    rw [List.mapM_cons]
    cases hp : resolve f c p with
    | error flaw =>
      rw [error_bind, pairedNames_of_error hp]
      exact tells_pair_of_error hp
    | ok q =>
      obtain ⟨hnode, name, hname, -⟩ := resolve_eq_ok hp
      subst hnode
      rw [pairedNames_of_ok hp hname]
      exact tells_pair_of_ok hp hname ih

end Telling

theorem outcome_parametersIn (f : Function) (c : Comment) (shown : Topic → Bool) :
    (parametersIn f c).outcome shown = (f.node.childrenOf .parameter).mapM (resolve f c) :=
  (tells_pair _).outcome shown

theorem parametersIn_eq_ok {f : Function} {c : Comment} {shown : Topic → Bool}
    {ps : List Parameter} (h : (parametersIn f c).outcome shown = .ok ps) :
    ps.map (·.node) = f.node.childrenOf .parameter ∧
      ∀ p ∈ ps, ∃ name, p.name = .ok name ∧ Comment.Earliest c name p.block := by
  rw [outcome_parametersIn, mapM_eq_ok_iff] at h
  generalize f.node.childrenOf .parameter = nodes at h ⊢
  induction h with
  | nil => exact ⟨rfl, by simp⟩
  | cons hq _ ih =>
    obtain ⟨hnode, hname⟩ := resolve_eq_ok hq
    refine ⟨by simp [hnode, ih.1], ?_⟩
    intro p hp
    rcases List.mem_cons.mp hp with rfl | hp
    · exact hname
    · exact ih.2 p hp

theorem firstParameterIn_eq_ok {f : Function} {c : Comment} {shown : Topic → Bool}
    {p : Parameter} (h : (firstParameterIn f c).outcome shown = .ok p) :
    ∃ rest, (parametersIn f c).outcome shown = .ok (p :: rest) := by
  unfold firstParameterIn at h
  rw [Query.outcome_bind] at h
  obtain ⟨ps, hps, h⟩ := bind_eq_ok_iff.mp h
  cases ps with
  | nil => cases h
  | cons q rest =>
    cases h
    exact ⟨rest, hps⟩

end Function

/-- A parameter that one of the queries gives, for some function, comment and topics. -/
inductive Parameter.Given : Parameter → Prop
  | parametersIn {f : Function} {c : Comment} {shown : Topic → Bool} {ps : List Parameter}
      {p : Parameter} : (Function.parametersIn f c).outcome shown = .ok ps → p ∈ ps → Given p
  | parameters {f : Function} {shown : Topic → Bool} {ps : List Parameter} {p : Parameter} :
      (Function.parameters f).outcome shown = .ok ps → p ∈ ps → Given p
  | firstParameterIn {f : Function} {c : Comment} {shown : Topic → Bool} {p : Parameter} :
      (Function.firstParameterIn f c).outcome shown = .ok p → Given p
  | firstParameter {f : Function} {shown : Topic → Bool} {p : Parameter} :
      (Function.firstParameter f).outcome shown = .ok p → Given p

/-- However a parameter was obtained, it is one of a function's list. -/
theorem Parameter.Given.mem {p : Parameter} (h : Given p) :
    ∃ (f : Function) (c : Comment) (shown : Topic → Bool) (ps : List Parameter),
      (Function.parametersIn f c).outcome shown = .ok ps ∧ p ∈ ps := by
  cases h with
  | parametersIn h hp => exact ⟨_, _, _, _, h, hp⟩
  | parameters h hp =>
    unfold Function.parameters at h
    rw [Query.outcome_bind] at h
    obtain ⟨c, -, h⟩ := bind_eq_ok_iff.mp h
    exact ⟨_, c, _, _, h, hp⟩
  | firstParameterIn h =>
    obtain ⟨rest, h⟩ := Function.firstParameterIn_eq_ok h
    exact ⟨_, _, _, _, h, by simp⟩
  | firstParameter h =>
    unfold Function.firstParameter at h
    rw [Query.outcome_bind] at h
    obtain ⟨c, -, h⟩ := bind_eq_ok_iff.mp h
    obtain ⟨rest, h⟩ := Function.firstParameterIn_eq_ok h
    exact ⟨_, c, _, _, h, by simp⟩

/-- Pairing is the comment's lookup for one parameter after another, up to the first flaw. What it
gives are the parameters of the function, each once and in order, with the earliest block of the
same name; so no parameter that a query gives lacks a name. -/
theorem Function.parametersIn_agrees (f : Function) (c : Comment) (shown : Topic → Bool) :
    (parametersIn f c).outcome shown = (f.node.childrenOf .parameter).mapM (resolve f c) ∧
      (∀ ps, (parametersIn f c).outcome shown = .ok ps →
        ps.map (·.node.node) = f.node.children.filter (·.kind = Kind.parameter.name) ∧
          ∀ p ∈ ps, ∃ name, p.name = .ok name ∧ Block.name p.block = .ok name ∧
            Comment.Earliest c name p.block) ∧
      ∀ p, Parameter.Given p → ∃ name, p.name = .ok name := by
  refine ⟨outcome_parametersIn f c shown, ?_, ?_⟩
  · intro ps h
    obtain ⟨hnodes, hnames⟩ := parametersIn_eq_ok h
    constructor
    · rw [← Node.map_node_childrenOf, ← hnodes, List.map_map]
      rfl
    · intro p hp
      obtain ⟨name, hname, hblock⟩ := hnames p hp
      obtain ⟨before, after, hblocks, hb, hbefore⟩ := hblock
      exact ⟨name, hname, hb, before, after, hblocks, hb, hbefore⟩
  · intro p hp
    obtain ⟨f, c, shown, ps, h, hmem⟩ := hp.mem
    obtain ⟨name, hname, -⟩ := (parametersIn_eq_ok h).2 p hmem
    exact ⟨name, hname⟩

end ParamDoc
