import ParamDoc.Proofs.Pairing
import Mathlib.Data.List.Nodup

/-!
# The order of blocks

A parameter is paired with the first block that has its name, and a block without a name hides
those after it. If all blocks have names, and no two the same one, then each name leads to one
block wherever it stands, and the inner nodes of the comment may be put in any order.
-/

namespace ParamDoc

structure Block.Distinct (blocks : List Block) : Prop where
  named : ∀ b ∈ blocks, b.node.param ≠ none
  nodup : (blocks.map (·.node.param)).Nodup

section Blocks

variable {blocks blocks' : List Block}

theorem Block.Distinct.perm (h : Distinct blocks) (hperm : blocks'.Perm blocks) :
    Distinct blocks' where
  named b hb := h.named b (hperm.mem_iff.mp hb)
  nodup := (hperm.map _).nodup_iff.mpr h.nodup

theorem Block.Distinct.eq_of_param_eq (h : Distinct blocks) {b b' : Block} (hb : b ∈ blocks)
    (hb' : b' ∈ blocks) (hparam : b.node.param = b'.node.param) : b = b' :=
  List.inj_on_of_nodup_map h.nodup hb hb' hparam

/-- No block hides another one, so a search by name depends on what the blocks are alone. -/
theorem Block.Distinct.documentation?_cases (h : Distinct blocks) (name : String) :
    (∃ b ∈ blocks, b.node.param = some name ∧
      Function.documentation? name blocks = .ok (some b)) ∨
    ((∀ b ∈ blocks, b.node.param ≠ some name) ∧
      Function.documentation? name blocks = .ok none) := by
  rcases Function.documentation?_cases name blocks with
    ⟨before, b, after, hblocks, hb, -, hfind⟩ | ⟨before, b, after, hblocks, hb, -, -⟩ |
    ⟨hall, hfind⟩
  · exact .inl ⟨b, by simp [hblocks], hb, hfind⟩
  · exact absurd hb (h.named b (by simp [hblocks]))
  · refine .inr ⟨fun b hb => ?_, hfind⟩
    obtain ⟨other, hother, hne⟩ := hall b hb
    rw [hother]
    exact fun heq => hne (Option.some.inj heq)

theorem Block.Distinct.documentation?_of_perm (h : Distinct blocks)
    (hperm : blocks'.Perm blocks) (name : String) :
    Function.documentation? name blocks' = Function.documentation? name blocks := by
  rcases h.documentation?_cases name with ⟨b, hb, hname, hfind⟩ | ⟨hnone, hfind⟩
  · rcases (h.perm hperm).documentation?_cases name with ⟨b', hb', hname', hfind'⟩ | ⟨hnone', -⟩
    · have hmem := hperm.mem_iff.mp hb'
      rw [hfind, hfind', h.eq_of_param_eq hmem hb (hname'.trans hname.symm)]
    · exact absurd hname (hnone' b (hperm.mem_iff.mpr hb))
  · rcases (h.perm hperm).documentation?_cases name with ⟨b', hb', hname', -⟩ | ⟨-, hfind'⟩
    · exact absurd hname' (hnone b' (hperm.mem_iff.mp hb'))
    · rw [hfind, hfind']

end Blocks

namespace Function

theorem pair_congr {blocks blocks' : List Block} (f : Function)
    (h : ∀ name, documentation? name blocks' = documentation? name blocks)
    (ps : List (Node.Of .parameter)) : pair f blocks' ps = pair f blocks ps := by
  induction ps with
  | nil => rfl
  | cons p rest ih => simp only [pair, h, ih]

/-- Without blocks that lack a name or share one, a parameter is either paired, or it has no name,
or no block has its name. -/
theorem resolve_of_distinct {c : Comment} (h : Block.Distinct (Comment.blocks c)) (f : Function)
    (p : Node.Of .parameter) :
    (∃ q, resolve f c p = .ok q) ∨
      resolve f c p = .error (.missingField Kind.parameter.name .name) ∨
      ∃ name, resolve f c p = .error (.unmatchedParameter (displayName f) name) := by
  unfold resolve
  cases hname : p.node.label? .name with
  | none =>
    refine .inr (.inl ?_)
    rw [Node.require_of_none hname, p.kind_eq, error_bind]
  | some name =>
    rw [Node.require_eq_ok_iff.mpr hname, ok_bind, ← documentation?_blocks]
    rcases h.documentation?_cases name with ⟨b, -, -, hfind⟩ | ⟨-, hfind⟩
    · exact .inl ⟨⟨p, b⟩, by rw [hfind, ok_bind]⟩
    · exact .inr (.inr ⟨name, by rw [hfind, ok_bind]⟩)

/-- The order of the inner nodes of a comment does not matter if each of its blocks has a name of
its own. A function has the same parameters with the same blocks, so with the same sizes, or it has
the same flaw. Its parameters come in their own order, each with the only block that has its name; a
flaw can only be about a parameter that lacks a name or a block. -/
theorem parametersIn_of_perm (f : Function) {c c' : Comment}
    (hperm : c'.node.children.Perm c.node.children)
    (hdistinct : Block.Distinct (Comment.blocks c)) :
    parametersIn f c' = parametersIn f c ∧ ∀ shown : Topic → Bool,
      (∃ ps, (parametersIn f c').outcome shown = .ok ps ∧
        (parametersIn f c).outcome shown = .ok ps ∧
        ps.map (·.node) = f.node.childrenOf .parameter ∧
        ∀ p ∈ ps, ∃ name, p.name = .ok name ∧
          ∀ b ∈ Comment.blocks c, Block.name b = .ok name ↔ b = p.block) ∨
      ∃ flaw, (parametersIn f c').outcome shown = .error flaw ∧
        (parametersIn f c).outcome shown = .error flaw ∧
        (flaw = .missingField Kind.parameter.name .name ∨
          ∃ name, flaw = .unmatchedParameter (displayName f) name) := by
  -- the same for all names, and so for all parameters: the queries are equal, reports included
  have hblocks : (Comment.blocks c').Perm (Comment.blocks c) := hperm.filterMap _
  have hsame : parametersIn f c' = parametersIn f c :=
    pair_congr f (hdistinct.documentation?_of_perm hblocks) _
  refine ⟨hsame, fun shown => ?_⟩
  rw [hsame]
  cases hresult : (parametersIn f c).outcome shown with
  | ok ps =>
    obtain ⟨hnodes, hnames⟩ := parametersIn_eq_ok hresult
    refine .inl ⟨ps, rfl, rfl, hnodes, fun p hp => ?_⟩
    obtain ⟨name, hname, before, after, hsplit, hb, -⟩ := hnames p hp
    refine ⟨name, hname, fun b hmem => ⟨fun hother => ?_, fun heq => heq ▸ hb⟩⟩
    have hparam := (Block.name_eq_ok_iff.mp hother).trans (Block.name_eq_ok_iff.mp hb).symm
    exact hdistinct.eq_of_param_eq hmem (by simp [hsplit]) hparam
  | error flaw =>
    refine .inr ⟨flaw, rfl, rfl, ?_⟩
    rw [outcome_parametersIn] at hresult
    obtain ⟨before, p, after, -, -, hp⟩ := exists_flawed_of_mapM hresult
    rcases resolve_of_distinct hdistinct f p with ⟨q, hok⟩ | hmissing | ⟨name, hunmatched⟩
    · rw [hp] at hok
      cases hok
    · rw [hp] at hmissing
      exact .inl (Except.error.inj hmissing)
    · rw [hp] at hunmatched
      exact .inr ⟨name, Except.error.inj hunmatched⟩

/-- A function with the parameters `dst` and `n`. -/
def copying : Function where
  node := ⟨"FunctionDecl", some "copy", none, none, none, none, some [
    ⟨"ParmVarDecl", some "dst", none, none, none, none, none⟩,
    ⟨"ParmVarDecl", some "n", none, none, none, none, none⟩]⟩
  kind_eq := rfl

def blockFor (param : Option String) : Node :=
  ⟨"ParamCommandComment", none, none, none, param, none, none⟩

/-- The blocks of `dst` and `n`, in this order, after a paragraph. -/
def copyComment : Comment :=
  commentOf [⟨"ParagraphComment", none, none, none, none, none, none⟩, blockFor "dst", blockFor "n"]

def swappedComment : Comment :=
  commentOf [blockFor "n", ⟨"ParagraphComment", none, none, none, none, none, none⟩, blockFor "dst"]

def pairedBlocks (c : Comment) : Option (List (Option String)) :=
  ((parametersIn copying c).outcome fun _ => true).toOption.map (·.map (·.block.node.param))

theorem parametersIn_copying :
    swappedComment.node.children.Perm copyComment.node.children ∧
      Block.Distinct (Comment.blocks copyComment) ∧
      parametersIn copying swappedComment = parametersIn copying copyComment ∧
      pairedBlocks swappedComment = some [some "dst", some "n"] := by
  have hperm : swappedComment.node.children.Perm copyComment.node.children := by decide
  have hdistinct : Block.Distinct (Comment.blocks copyComment) := ⟨by decide, by decide⟩
  exact ⟨hperm, hdistinct, (parametersIn_of_perm copying hperm hdistinct).1, by decide⟩

/-- A block without a name makes the order count. -/
example : pairedBlocks (commentOf [blockFor "n", blockFor "dst", blockFor none]) =
      some [some "dst", some "n"] ∧
    pairedBlocks (commentOf [blockFor "n", blockFor none, blockFor "dst"]) = none := by
  decide

end Function

end ParamDoc
