import ParamDoc.Summary
import ParamDoc.Proofs.Pairing
import ParamDoc.Proofs.SizeTag

/-!
# What a summary depends on

A unit has a summary under eight conditions on its tree, which are put here in terms of nodes and
their kinds alone, in the order in which they count. Each comes with the flaws that are reported
when it is the first that does not hold.
-/

namespace ParamDoc

open Text (trimmed)

namespace Node

def displayName (n : Node) : String :=
  n.name.getD "<anonymous>"

/-- The first child of a paragraph carries the text. -/
def Reads (paragraph : Node) (t : String) : Prop :=
  ∃ leaf, paragraph.firstChild? = some leaf ∧ leaf.text = some t

def ReadingFlaw (paragraph : Node) (flaw : Flaw) : Prop :=
  (paragraph.firstChild? = none ∧ flaw = .malformed .paragraphWithoutText) ∨
  ∃ leaf, paragraph.firstChild? = some leaf ∧ leaf.text = none ∧
    flaw = .missingField leaf.kind .text

/-- The first child of the first child of a block carries the text. -/
def Says (block : Node) (t : String) : Prop :=
  ∃ paragraph, block.firstChild? = some paragraph ∧ paragraph.Reads t

def SayingFlaw (block : Node) (flaw : Flaw) : Prop :=
  (block.firstChild? = none ∧ flaw = .malformed (.noParagraph block.param)) ∨
  ∃ paragraph, block.firstChild? = some paragraph ∧
    ((paragraph.firstChild? = none ∧ flaw = .malformed (.emptyParagraph block.param)) ∨
      ∃ leaf, paragraph.firstChild? = some leaf ∧ leaf.text = none ∧
        flaw = .missingField leaf.kind .text)

/-- A block of the comment has the parameter's name, and no block before it lacks one. -/
def Paired (comment parameter : Node) : Prop :=
  ∃ name, parameter.name = some name ∧
    ∃ before block after, comment.ofKind .block = before ++ block :: after ∧
      block.param = some name ∧ ∀ x ∈ before, x.param ≠ none

/-- Why a parameter is not paired: it has no name, or a block without a name comes before any with
its name, or there is none. -/
def PairingFlaw (function comment parameter : Node) (flaw : Flaw) : Prop :=
  (parameter.name = none ∧ flaw = .missingField Kind.parameter.name .name) ∨
  ∃ name, parameter.name = some name ∧
    ((∃ before block after, comment.ofKind .block = before ++ block :: after ∧
        block.param = none ∧ (∀ x ∈ before, x.param ≠ some name) ∧
        flaw = .missingField Kind.block.name .param) ∨
      ((∀ x ∈ comment.ofKind .block, x.param ≠ some name) ∧
        (∀ x ∈ comment.ofKind .block, x.param ≠ none) ∧
        flaw = .unmatchedParameter function.displayName name))

def FirstNaming (comment : Node) (name : String) (block : Node) : Prop :=
  ∃ before after, comment.ofKind .block = before ++ block :: after ∧
    block.param = some name ∧ ∀ x ∈ before, x.param ≠ some name

end Node

/-- The function and the comment that a summary is about: the first function of the unit, and the
first comment of that function. -/
structure Subject (root function comment : Node) : Prop where
  function_eq : (root.ofKind .function).head? = some function
  comment_eq : (function.ofKind .comment).head? = some comment

/-- What must hold of the tree of a unit for its summary. -/
inductive Condition where
  | function
  | comment
  | pairing
  | parameter
  | functionName
  | prose
  | firstBlock
  | size
deriving DecidableEq

namespace Condition

def inOrder : List Condition :=
  [.function, .comment, .pairing, .parameter, .functionName, .prose, .firstBlock, .size]

def Holds (root : Node) : Condition → Prop
  | .function => ∃ f, f ∈ root.ofKind .function
  | .comment => ∃ f c, Subject root f c
  | .pairing => ∃ f c, Subject root f c ∧ ∀ p ∈ f.ofKind .parameter, c.Paired p
  | .parameter => ∃ f c, Subject root f c ∧ ∃ p, p ∈ f.ofKind .parameter
  | .functionName => ∃ f c, Subject root f c ∧ ∃ name, f.name = some name
  | .prose => ∃ f c, Subject root f c ∧ ∀ p ∈ c.ofKind .paragraph, ∃ t, p.Reads t
  | .firstBlock => ∃ f c, Subject root f c ∧
      ∃ b, (c.ofKind .block).head? = some b ∧ ∃ t, b.Says t
  | .size => ∃ f c, Subject root f c ∧ ∃ p, (f.ofKind .parameter).head? = some p ∧
      ∃ name, p.name = some name ∧ ∃ b, c.FirstNaming name b ∧
        ∃ t, b.Says t ∧ SizeTag.Occurs (trimmed t)

/-- The flaw of a condition that does not hold while all earlier ones do. -/
def Reports (root : Node) : Condition → Flaw → Prop
  | .function, flaw => flaw = .noFunctions
  | .comment, flaw => ∃ f, (root.ofKind .function).head? = some f ∧
      flaw = .missingComment f.displayName
  | .pairing, flaw => ∃ f c, Subject root f c ∧
      ∃ before p after, f.ofKind .parameter = before ++ p :: after ∧
        (∀ x ∈ before, c.Paired x) ∧ Node.PairingFlaw f c p flaw
  | .parameter, flaw => ∃ f c, Subject root f c ∧ flaw = .noParameters f.displayName
  | .functionName, flaw => flaw = .missingField Kind.function.name .name
  | .prose, flaw => ∃ f c, Subject root f c ∧
      ∃ before p after, c.ofKind .paragraph = before ++ p :: after ∧
        (∀ x ∈ before, ∃ t, x.Reads t) ∧ p.ReadingFlaw flaw
  | .firstBlock, flaw => ∃ f c, Subject root f c ∧
      ∃ b, (c.ofKind .block).head? = some b ∧ b.SayingFlaw flaw
  | .size, flaw => ∃ f c, Subject root f c ∧ ∃ p, (f.ofKind .parameter).head? = some p ∧
      ∃ name, p.name = some name ∧ ∃ b, c.FirstNaming name b ∧
        (b.SayingFlaw flaw ∨
          ∃ t, b.Says t ∧ ¬SizeTag.Occurs (trimmed t) ∧ flaw = .sizeNotFound name)

end Condition

/-- The parts of a summary are taken from the tree: the text comes from the first block, and the
size from the first block that names the parameter. -/
def Summary.Describes (s : Summary) (root : Node) : Prop :=
  ∃ f c p first b texts doc t, Subject root f c ∧
    (f.ofKind .parameter).head? = some p ∧ (c.ofKind .block).head? = some first ∧
    c.FirstNaming s.parameter b ∧ List.Forall₂ Node.Reads (c.ofKind .paragraph) texts ∧
    first.Says doc ∧ b.Says t ∧
    f.name = some s.function ∧ p.name = some s.parameter ∧
    s.description = Comment.joinParagraphs ((texts.map trimmed).filter (· ≠ "")) ∧
    s.parameterDoc = trimmed doc ∧ SizeTag.Leftmost (trimmed t) s.size

theorem Subject.unique {root f c f' c' : Node} (h : Subject root f c) (h' : Subject root f' c') :
    f' = f ∧ c' = c := by
  have hf : f' = f := Option.some.inj (h'.function_eq.symm.trans h.function_eq)
  subst hf
  exact ⟨rfl, Option.some.inj (h'.comment_eq.symm.trans h.comment_eq)⟩

theorem Subject.exists_iff {root f c : Node} (h : Subject root f c) {P : Node → Node → Prop} :
    (∃ f c, Subject root f c ∧ P f c) ↔ P f c := by
  constructor
  · rintro ⟨f', c', h', hP⟩
    obtain ⟨rfl, rfl⟩ := h.unique h'
    exact hP
  · intro hP
    exact ⟨f, c, h, hP⟩

theorem Node.FirstNaming.unique {comment b b' : Node} {name : String}
    (h : comment.FirstNaming name b) (h' : comment.FirstNaming name b') : b' = b := by
  have hfind : ∀ {x}, comment.FirstNaming name x →
      (comment.ofKind .block).find? (·.param = some name) = some x := by
    rintro x ⟨before, after, hsplit, hx, hbefore⟩
    rw [List.find?_eq_some_iff_append]
    exact ⟨by simp [hx], before, after, hsplit, by simpa using hbefore⟩
  exact Option.some.inj ((hfind h').symm.trans (hfind h))

namespace Subject

variable {root f c : Node} (h : Subject root f c)
include h

theorem not_pairing {p : Node} (hp : p ∈ f.ofKind .parameter) (hnot : ¬c.Paired p) :
    ¬Condition.pairing.Holds root :=
  fun hall => hnot (h.exists_iff.mp hall p hp)

theorem not_parameter (hnone : f.ofKind .parameter = []) : ¬Condition.parameter.Holds root := by
  intro hsome
  obtain ⟨p, hp⟩ := h.exists_iff.mp hsome
  simp [hnone] at hp

theorem not_functionName (hnone : f.name = none) : ¬Condition.functionName.Holds root := by
  intro hsome
  obtain ⟨name, hname⟩ := h.exists_iff.mp hsome
  rw [hnone] at hname
  cases hname

theorem not_prose {p : Node} (hp : p ∈ c.ofKind .paragraph) (hnot : ∀ t, ¬p.Reads t) :
    ¬Condition.prose.Holds root := by
  intro hall
  obtain ⟨t, ht⟩ := h.exists_iff.mp hall p hp
  exact hnot t ht

theorem not_firstBlock {b : Node} (hb : (c.ofKind .block).head? = some b)
    (hnot : ∀ t, ¬b.Says t) : ¬Condition.firstBlock.Holds root := by
  intro hsaid
  obtain ⟨b', hb', t, ht⟩ := h.exists_iff.mp hsaid
  rw [hb] at hb'
  cases hb'
  exact hnot t ht

theorem not_size {p b : Node} {name : String} (hp : (f.ofKind .parameter).head? = some p)
    (hname : p.name = some name) (hb : c.FirstNaming name b)
    (hnot : ∀ t, b.Says t → ¬SizeTag.Occurs (trimmed t)) : ¬Condition.size.Holds root := by
  intro hsize
  obtain ⟨p', hp', name', hname', b', hb', t, ht, hoccurs⟩ := h.exists_iff.mp hsize
  rw [hp] at hp'
  cases hp'
  rw [hname] at hname'
  cases hname'
  obtain rfl := hb.unique hb'
  exact hnot t ht hoccurs

end Subject

end ParamDoc
