import ParamDoc.Proofs.Summary.Conditions
import ParamDoc.Proofs.Summary.Reports

/-!
# The part of a tree that a summary is about

Most of a tree has no part in its summary. The pruning of a tree keeps the rest: the first
function with the names of its parameters, its first comment, and of that comment the first leaf
of each paragraph and of each block. Every step from the tree to its summary commutes with it, so
trees with the same pruning have the same summary or the same flaw.
-/

namespace ParamDoc

namespace Node

section Definitions

/-- A node with nothing but a kind. -/
def bare (kind : String) : Node :=
  ⟨kind, none, none, none, none, none, none⟩

def prunedLeaf (n : Node) : Node :=
  { bare n.kind with text := n.text }

def prunedParagraph (n : Node) : Node :=
  { bare n.kind with inner := some (n.firstChild?.map prunedLeaf).toList }

/-- Of a block the name of its parameter and the first child remain. -/
def prunedBlock (n : Node) : Node :=
  { bare n.kind with param := n.param, inner := some (n.firstChild?.map prunedParagraph).toList }

/-- What remains of a child of a comment. -/
def prunedPart? (n : Node) : Option Node :=
  if n.kind = Kind.paragraph.name then some n.prunedParagraph
  else if n.kind = Kind.block.name then some n.prunedBlock
  else none

/-- Of a comment the paragraphs and the blocks remain, in order. -/
def prunedComment (n : Node) : Node :=
  { bare n.kind with inner := some (n.children.filterMap prunedPart?) }

def prunedParameter (n : Node) : Node :=
  { bare n.kind with name := n.name }

/-- Of a function the name, the parameters and the first comment remain. -/
def prunedFunction (n : Node) : Node :=
  { bare n.kind with
    name := n.name
    inner := some ((n.ofKind .parameter).map prunedParameter ++
      ((n.ofKind .comment).head?.map prunedComment).toList) }

/-- Of the root of a tree the first function remains. -/
def pruned (n : Node) : Node :=
  { bare n.kind with inner := some ((n.ofKind .function).head?.map prunedFunction).toList }

end Definitions

section Views

/-! Pruning keeps kinds, so it can be done to nodes of a known kind. -/

variable {k l : Kind}

theorem as?_self (x : Of k) : x.node.as? k = some x :=
  as?_eq_some_iff.mpr rfl

theorem as?_of_ne {n : Node} (h : n.kind ≠ k.name) : n.as? k = none := by
  rw [as?, dif_neg h]

theorem filterMap_as?_self (xs : List (Of k)) : (xs.map (·.node)).filterMap (·.as? k) = xs := by
  rw [List.filterMap_map]
  exact (List.filterMap_congr fun x _ => as?_self x).trans List.filterMap_some

theorem filterMap_as?_of_ne (h : k.name ≠ l.name) (xs : List (Of k)) :
    (xs.map (·.node)).filterMap (·.as? l) = [] := by
  rw [List.filterMap_eq_nil_iff]
  intro n hn
  obtain ⟨x, -, rfl⟩ := List.mem_map.mp hn
  exact as?_of_ne (x.kind_eq ▸ h)

def Of.prunedParagraph (p : Of .paragraph) : Of .paragraph :=
  ⟨p.node.prunedParagraph, p.kind_eq⟩

def Of.prunedParameter (p : Of .parameter) : Of .parameter :=
  ⟨p.node.prunedParameter, p.kind_eq⟩

end Views

end Node

def Block.pruned (b : Block) : Block :=
  ⟨b.node.prunedBlock, b.kind_eq⟩

def Comment.pruned (c : Comment) : Comment :=
  ⟨c.node.prunedComment, c.kind_eq⟩

def Parameter.pruned (p : Parameter) : Parameter :=
  ⟨p.node.prunedParameter, Block.pruned p.block⟩

def Function.pruned (f : Function) : Function :=
  ⟨f.node.prunedFunction, f.kind_eq⟩

def TranslationUnit.pruned (u : TranslationUnit) : TranslationUnit :=
  ⟨u.node.pruned, u.kind_eq⟩

section Children

/-! The children that a query looks for are those of the pruned node, pruned. -/

namespace Node

theorem childrenOf_function (u : TranslationUnit) :
    u.pruned.node.childrenOf .function =
      ((u.node.childrenOf .function).head?.map Function.pruned).toList := by
  have hchildren : u.pruned.node.children =
      ((u.node.childrenOf .function).head?.map Function.pruned).toList.map (·.node) := by
    have hpruned : u.pruned.node.children =
        ((u.node.ofKind .function).head?.map prunedFunction).toList := rfl
    rw [hpruned, ofKind_eq_map]
    cases u.node.childrenOf .function <;> rfl
  rw [childrenOf, hchildren, filterMap_as?_self]

theorem children_function (f : Function) :
    f.pruned.node.children =
      ((f.node.childrenOf .parameter).map Of.prunedParameter).map (·.node) ++
        ((f.node.childrenOf .comment).head?.map Comment.pruned).toList.map (·.node) := by
  have hpruned : f.pruned.node.children = (f.node.ofKind .parameter).map prunedParameter ++
      ((f.node.ofKind .comment).head?.map prunedComment).toList := rfl
  rw [hpruned, ofKind_eq_map, ofKind_eq_map, List.map_map, List.map_map]
  cases f.node.childrenOf .comment <;> rfl

theorem childrenOf_parameter (f : Function) :
    f.pruned.node.childrenOf .parameter =
      (f.node.childrenOf .parameter).map Of.prunedParameter := by
  rw [childrenOf, children_function, List.filterMap_append, filterMap_as?_self,
    filterMap_as?_of_ne (by decide), List.append_nil]

theorem childrenOf_comment (f : Function) :
    f.pruned.node.childrenOf .comment =
      ((f.node.childrenOf .comment).head?.map Comment.pruned).toList := by
  rw [childrenOf, children_function, List.filterMap_append, filterMap_as?_self,
    filterMap_as?_of_ne (by decide), List.nil_append]

theorem as?_prunedPart_paragraph (n : Node) :
    n.prunedPart?.bind (·.as? .paragraph) = (n.as? .paragraph).map Of.prunedParagraph := by
  unfold prunedPart?
  split_ifs with hp hb
  · have hself : n.as? .paragraph = some ⟨n, hp⟩ := as?_self ⟨n, hp⟩
    rw [hself]
    exact as?_self (Of.prunedParagraph ⟨n, hp⟩)
  · rw [as?_of_ne hp]
    exact as?_of_ne hp
  · rw [as?_of_ne hp]
    rfl

theorem as?_prunedPart_block (n : Node) :
    n.prunedPart?.bind (·.as? .block) = (n.as? .block).map Block.pruned := by
  unfold prunedPart?
  split_ifs with hp hb
  · have hne : n.kind ≠ Kind.block.name := by
      rw [hp]
      decide
    rw [as?_of_ne hne]
    exact as?_of_ne hne
  · have hself : n.as? .block = some ⟨n, hb⟩ := as?_self ⟨n, hb⟩
    rw [hself]
    exact as?_self (Block.pruned ⟨n, hb⟩)
  · rw [as?_of_ne hb]
    rfl

theorem childrenOf_paragraph (c : Comment) :
    c.pruned.node.childrenOf .paragraph =
      (c.node.childrenOf .paragraph).map Of.prunedParagraph := by
  have hchildren : c.pruned.node.children = c.node.children.filterMap prunedPart? := rfl
  rw [childrenOf, hchildren, List.filterMap_filterMap, childrenOf, List.map_filterMap]
  exact List.filterMap_congr fun n _ => as?_prunedPart_paragraph n

end Node

theorem Comment.blocks_pruned (c : Comment) :
    Comment.blocks c.pruned = (Comment.blocks c).map Block.pruned := by
  have hchildren : c.pruned.node.children = c.node.children.filterMap Node.prunedPart? := rfl
  rw [blocks, Node.childrenOf, hchildren, List.filterMap_filterMap, blocks, Node.childrenOf,
    List.map_filterMap]
  exact List.filterMap_congr fun n _ => Node.as?_prunedPart_block n

end Children

section Outcomes

theorem map_bind {α β γ : Type} (r : Except Flaw α) (g : α → β) (f : β → Except Flaw γ) :
    (r.map g >>= f) = r >>= fun a => f (g a) := by
  cases r <;> rfl

/-- If what is found for each member of a list changes with the member, so does what is found for
all of them. -/
theorem mapM_map {α β γ δ : Type} {f : α → Except Flaw γ} {f' : β → Except Flaw δ} {g : α → β}
    {h : γ → δ} (hf : ∀ a, f' (g a) = (f a).map h) (xs : List α) :
    (xs.map g).mapM f' = (xs.mapM f).map (List.map h) := by
  induction xs with
  | nil => rfl
  | cons a xs ih =>
    rw [List.map_cons, List.mapM_cons, List.mapM_cons, hf, ih]
    cases f a with
    | error flaw => rfl
    | ok c => cases xs.mapM f <;> rfl

theorem Node.firstChild?_toList (n : Node) {child : Option Node}
    (h : n.inner = some child.toList) : n.firstChild? = child := by
  rw [firstChild?, children, h]
  exact Option.head?_toList

theorem Comment.paragraphText_pruned (p : Node.Of .paragraph) :
    paragraphText p.prunedParagraph = paragraphText p := by
  unfold paragraphText
  rw [Node.firstChild?_toList p.prunedParagraph.node rfl]
  cases p.node.firstChild? <;> rfl

theorem Block.text_pruned (b : Block) : Block.text b.pruned = Block.text b := by
  unfold text
  rw [Node.firstChild?_toList b.pruned.node rfl]
  cases b.node.firstChild? with
  | none => rfl
  | some paragraph =>
    simp only [Option.map_some]
    rw [Node.firstChild?_toList paragraph.prunedParagraph rfl]
    cases paragraph.firstChild? <;> rfl

theorem Comment.text_pruned (c : Comment) : Comment.text c.pruned = Comment.text c := by
  have hsame : paragraphText ∘ Node.Of.prunedParagraph = paragraphText :=
    funext paragraphText_pruned
  unfold text
  rw [Node.childrenOf_paragraph, List.mapM_map, hsame]

theorem Comment.firstBlock_pruned (c : Comment) :
    Comment.firstBlock c.pruned = (Comment.firstBlock c).map Block.pruned := by
  unfold firstBlock
  rw [blocks_pruned]
  cases Comment.blocks c <;> rfl

theorem Comment.block?_pruned (c : Comment) (name : String) :
    Comment.block? c.pruned name = (Comment.block? c name).map (Option.map Block.pruned) := by
  unfold block?
  rw [blocks_pruned, List.find?_map]
  have hsame : ((fun b : Block => b.node.param.all (· = name)) ∘ Block.pruned) =
      fun b => b.node.param.all (· = name) := rfl
  rw [hsame]
  cases (Comment.blocks c).find? fun b => b.node.param.all (· = name) with
  | none => rfl
  | some b =>
    have hname : Block.name b.pruned = Block.name b := rfl
    simp only [Option.map_some, hname]
    cases Block.name b <;> rfl

theorem Function.resolve_pruned (f : Function) (c : Comment) (p : Node.Of .parameter) :
    resolve f.pruned c.pruned p.prunedParameter = (resolve f c p).map Parameter.pruned := by
  have hname : p.prunedParameter.node.require .name = p.node.require .name := rfl
  unfold resolve
  rw [hname]
  cases p.node.require .name with
  | error flaw => rfl
  | ok name =>
    rw [ok_bind, ok_bind, Comment.block?_pruned]
    cases Comment.block? c name with
    | error flaw => rfl
    | ok found => cases found <;> rfl

theorem Function.foundComment_pruned (f : Function) :
    foundComment f.pruned = (foundComment f).map Comment.pruned := by
  unfold foundComment
  rw [Node.childrenOf_comment]
  cases f.node.childrenOf .comment <;> rfl

theorem Function.foundParameter_pruned (f : Function) (c : Comment) :
    foundParameter f.pruned c.pruned = (foundParameter f c).map Parameter.pruned := by
  unfold foundParameter
  rw [Node.childrenOf_parameter, mapM_map (resolve_pruned f c)]
  cases (f.node.childrenOf .parameter).mapM (resolve f c) with
  | error flaw => rfl
  | ok ps => cases ps <;> rfl

theorem Parameter.foundSize_pruned (p : Parameter) : p.pruned.foundSize = p.foundSize := by
  have hblock : p.pruned.block = p.block.pruned := rfl
  unfold foundSize
  rw [hblock, Block.text_pruned]
  rfl

namespace TranslationUnit

theorem firstFunction_pruned (u : TranslationUnit) :
    firstFunction u.pruned = (firstFunction u).map Function.pruned := by
  unfold firstFunction functions
  rw [Node.childrenOf_function]
  cases u.node.childrenOf .function <;> rfl

theorem foundSummary_pruned (u : TranslationUnit) : foundSummary u.pruned = foundSummary u := by
  have hfunction (f : Function) : Function.name f.pruned = Function.name f := rfl
  have hparameter (p : Parameter) : p.pruned.name = p.name := rfl
  unfold foundSummary
  simp only [firstFunction_pruned, map_bind, Function.foundComment_pruned,
    Function.foundParameter_pruned, hfunction, hparameter, Comment.text_pruned,
    Comment.firstBlock_pruned, Block.text_pruned, Parameter.foundSize_pruned]

end TranslationUnit

end Outcomes

namespace TranslationUnit

/-- A unit has the same summary or the same flaw as its pruning, and so have all units with that
pruning. -/
theorem summary_pruned (u : TranslationUnit) (shown : Topic → Bool) :
    u.pruned.summary.outcome shown = u.summary.outcome shown ∧
      ∀ v : TranslationUnit, v.node.pruned = u.node.pruned →
        v.summary.outcome shown = u.summary.outcome shown := by
  have hpruned (w : TranslationUnit) :
      w.pruned.summary.outcome shown = w.summary.outcome shown := by
    rw [outcome_summary, outcome_summary, foundSummary_pruned]
  refine ⟨hpruned u, ?_⟩
  intro v hv
  have hsame : v.pruned = u.pruned := by
    unfold pruned
    simp only [hv]
  rw [← hpruned v, hsame, hpruned u]

/-- A unit with nothing but what its summary is about. -/
def tidy : TranslationUnit where
  node := { Node.bare "TranslationUnitDecl" with inner := some [
    { Node.bare "FunctionDecl" with name := "f", inner := some [
      { Node.bare "ParmVarDecl" with name := "p" },
      { Node.bare "FullComment" with inner := some [
        { Node.bare "ParamCommandComment" with param := "p", inner := some [
          { Node.bare "ParagraphComment" with inner := some [
            { Node.bare "TextComment" with text := "size:n" }] }] }] }] }] }
  kind_eq := rfl

/-- The same function between other declarations, with a second comment, a second leaf and fields
that are not read. -/
def cluttered : TranslationUnit where
  node := { Node.bare "TranslationUnitDecl" with inner := some [
    Node.bare "TypedefDecl",
    { Node.bare "FunctionDecl" with name := "f", mangledName := "_f", inner := some [
      { Node.bare "FullComment" with inner := some [
        { Node.bare "ParamCommandComment" with param := "p", direction := "in", inner := some [
          { Node.bare "ParagraphComment" with inner := some [
            { Node.bare "TextComment" with text := "size:n", inner := some [] },
            { Node.bare "TextComment" with text := "size:m" }] }] },
        Node.bare "BlockCommandComment"] },
      { Node.bare "ParmVarDecl" with name := "p", mangledName := "_p", inner := some [] },
      { Node.bare "FullComment" with inner := some [Node.bare "ParagraphComment"] }] },
    Node.bare "FunctionDecl"] }
  kind_eq := rfl

theorem summary_cluttered :
    cluttered.node ≠ tidy.node ∧ cluttered.node.pruned = tidy.node.pruned ∧
      cluttered.summary.outcome (fun _ => true) = tidy.summary.outcome (fun _ => true) ∧
      (tidy.summary.outcome fun _ => true).toOption = some ⟨"f", "p", "", "size:n", "n"⟩ := by
  have hpruned : cluttered.node.pruned = tidy.node.pruned := by decide
  exact ⟨by decide, hpruned, (summary_pruned tidy fun _ => true).2 cluttered hpruned,
    by decide +kernel⟩

end TranslationUnit

end ParamDoc
