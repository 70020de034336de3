import ParamDoc.Proofs.Summary.Conditions
import ParamDoc.Proofs.Summary.Reports

/-!
# The stages of a summary

Each stage of a summary either succeeds, and then its condition holds, or ends with a flaw that is
reported for it.
-/

namespace ParamDoc

open Text (trimmed)

section Reading

namespace Node

variable {block paragraph leaf : Node}

theorem reads_iff (h : paragraph.firstChild? = some leaf) {t : String} :
    paragraph.Reads t ↔ leaf.text = some t := by
  constructor
  · rintro ⟨other, hother, ht⟩
    rw [h] at hother
    cases hother
    exact ht
  · intro ht
    exact ⟨leaf, h, ht⟩

theorem not_reads (h : paragraph.firstChild? = none) (t : String) : ¬paragraph.Reads t := by
  rintro ⟨leaf, hleaf, -⟩
  rw [h] at hleaf
  cases hleaf

theorem says_iff (h : block.firstChild? = some paragraph) {t : String} :
    block.Says t ↔ paragraph.Reads t := by
  constructor
  · rintro ⟨other, hother, ht⟩
    rw [h] at hother
    cases hother
    exact ht
  · intro ht
    exact ⟨paragraph, h, ht⟩

theorem not_says (h : block.firstChild? = none) (t : String) : ¬block.Says t := by
  rintro ⟨paragraph, hparagraph, -⟩
  rw [h] at hparagraph
  cases hparagraph

theorem Reads.unique {t t' : String} (h : paragraph.Reads t) (h' : paragraph.Reads t') :
    t' = t := by
  obtain ⟨leaf, hleaf, ht⟩ := h
  exact Option.some.inj (((reads_iff hleaf).mp h').symm.trans ht)

theorem Says.unique {t t' : String} (h : block.Says t) (h' : block.Says t') : t' = t := by
  obtain ⟨paragraph, hparagraph, ht⟩ := h
  exact ht.unique ((says_iff hparagraph).mp h')

theorem require_text_cases (leaf : Node) :
    (∃ t, leaf.text = some t ∧ leaf.require .text = .ok t) ∨
      (leaf.text = none ∧ leaf.require .text = .error (.missingField leaf.kind .text)) := by
  cases h : leaf.text with
  | none => exact .inr ⟨rfl, require_of_none h⟩
  | some t => exact .inl ⟨t, rfl, require_eq_ok_iff.mpr h⟩

end Node

theorem Comment.paragraphText_cases (p : Node.Of .paragraph) :
    (∃ t, p.node.Reads t ∧ paragraphText p = .ok (trimmed t)) ∨
      ((∀ t, ¬p.node.Reads t) ∧ ∃ flaw, p.node.ReadingFlaw flaw ∧
        paragraphText p = .error flaw) := by
  unfold paragraphText
  cases hleaf : p.node.firstChild? with
  | none => exact .inr ⟨Node.not_reads hleaf, _, .inl ⟨hleaf, rfl⟩, rfl⟩
  | some leaf =>
    rcases leaf.require_text_cases with ⟨t, ht, hreq⟩ | ⟨hnone, hreq⟩
    · exact .inl ⟨t, (Node.reads_iff hleaf).mpr ht, by simp [hreq, Except.map]⟩
    · refine .inr ⟨?_, _, .inr ⟨leaf, hleaf, hnone, rfl⟩, by simp [hreq, Except.map]⟩
      intro t
      simp [Node.reads_iff hleaf, hnone]

theorem Block.text_cases (b : Block) :
    (∃ t, b.node.Says t ∧ Block.text b = .ok (trimmed t)) ∨
      ((∀ t, ¬b.node.Says t) ∧ ∃ flaw, b.node.SayingFlaw flaw ∧ Block.text b = .error flaw) := by
  unfold Block.text
  cases hpar : b.node.firstChild? with
  | none => exact .inr ⟨Node.not_says hpar, _, .inl ⟨hpar, rfl⟩, rfl⟩
  | some paragraph =>
    simp only [Node.says_iff hpar]
    cases hleaf : paragraph.firstChild? with
    | none =>
      exact .inr ⟨Node.not_reads hleaf, _, .inr ⟨paragraph, hpar, .inl ⟨hleaf, rfl⟩⟩, by simp⟩
    | some leaf =>
      rcases leaf.require_text_cases with ⟨t, ht, hreq⟩ | ⟨hnone, hreq⟩
      · exact .inl ⟨t, (Node.reads_iff hleaf).mpr ht, by simp [hreq, Except.map]⟩
      · refine .inr ⟨?_, _, .inr ⟨paragraph, hpar, .inr ⟨leaf, hleaf, hnone, rfl⟩⟩,
          by simp [hreq, Except.map]⟩
        intro t
        simp [Node.reads_iff hleaf, hnone]

/-- If a condition on nodes decides what becomes of each node in a row, a flaw of the row is that of
the first node for which it does not hold. -/
theorem Node.split_of_mapM_eq_error {α : Type} {k : Kind} {read : Node.Of k → Except Flaw α}
    {P : Node → Prop} {R : Node → Flaw → Prop} {nodes : List (Node.Of k)} {flaw : Flaw}
    (hread : ∀ x, (P x.node ∧ ∃ a, read x = .ok a) ∨
      (¬P x.node ∧ ∃ flaw, R x.node flaw ∧ read x = .error flaw))
    (h : nodes.mapM read = .error flaw) :
    ∃ before p after, nodes.map (·.node) = before ++ p :: after ∧ (∀ x ∈ before, P x) ∧
      ¬P p ∧ R p flaw := by
  obtain ⟨before, p, after, rfl, hbefore, hp⟩ := exists_flawed_of_mapM h
  refine ⟨before.map (·.node), p.node, after.map (·.node), by simp, ?_, ?_⟩
  · intro x hx
    obtain ⟨y, hy, rfl⟩ := List.mem_map.mp hx
    obtain ⟨a, ha⟩ := hbefore y hy
    rcases hread y with ⟨hP, -⟩ | ⟨-, flaw, -, herror⟩
    · exact hP
    · rw [ha] at herror
      cases herror
  · rcases hread p with ⟨-, a, ha⟩ | ⟨hnot, flaw, hflaw, herror⟩
    · rw [hp] at ha
      cases ha
    · rw [hp] at herror
      cases herror
      exact ⟨hnot, hflaw⟩

theorem Comment.exists_reads_of_paragraphText {paragraphs : List (Node.Of .paragraph)}
    {trims : List String} (h : List.Forall₂ (fun p s => paragraphText p = .ok s) paragraphs trims) :
    ∃ texts, List.Forall₂ Node.Reads (paragraphs.map (·.node)) texts ∧
      trims = texts.map trimmed := by
  induction h with
  | nil => exact ⟨[], .nil, rfl⟩
  | cons hp _ ih =>
    obtain ⟨texts, htexts, rfl⟩ := ih
    rcases paragraphText_cases _ with ⟨t, ht, hok⟩ | ⟨-, flaw, -, herror⟩
    · rw [hok] at hp
      cases hp
      exact ⟨t :: texts, .cons ht htexts, rfl⟩
    · rw [herror] at hp
      cases hp

theorem Comment.text_cases (c : Comment) :
    (∃ texts, List.Forall₂ Node.Reads (c.node.ofKind .paragraph) texts ∧
      Comment.text c = .ok (joinParagraphs ((texts.map trimmed).filter (· ≠ "")))) ∨
    ∃ before p after flaw, c.node.ofKind .paragraph = before ++ p :: after ∧
      (∀ x ∈ before, ∃ t, x.Reads t) ∧ (∀ t, ¬p.Reads t) ∧ p.ReadingFlaw flaw ∧
      Comment.text c = .error flaw := by
  rw [Node.ofKind_eq_map]
  unfold Comment.text
  generalize c.node.childrenOf .paragraph = paragraphs
  cases hread : paragraphs.mapM paragraphText with
  | ok trims =>
    obtain ⟨texts, htexts, rfl⟩ := exists_reads_of_paragraphText (mapM_eq_ok_iff.mp hread)
    exact .inl ⟨texts, htexts, rfl⟩
  | error flaw =>
    have hdecides (x : Node.Of .paragraph) :
        ((∃ t, x.node.Reads t) ∧ ∃ t, paragraphText x = .ok t) ∨
          ((¬∃ t, x.node.Reads t) ∧ ∃ flaw, x.node.ReadingFlaw flaw ∧
            paragraphText x = .error flaw) := by
      rcases paragraphText_cases x with ⟨t, ht, hok⟩ | ⟨hnone, hflaw⟩
      · exact .inl ⟨⟨t, ht⟩, _, hok⟩
      · exact .inr ⟨not_exists.mpr hnone, hflaw⟩
    obtain ⟨before, p, after, hsplit, hbefore, hnone, hflaw⟩ :=
      Node.split_of_mapM_eq_error (P := fun n => ∃ t, n.Reads t) (R := Node.ReadingFlaw) hdecides
        hread
    exact .inr ⟨before, p, after, flaw, hsplit, hbefore, not_exists.mp hnone, hflaw, rfl⟩

end Reading

section Pairing

theorem Comment.ofKind_block (c : Comment) :
    c.node.ofKind .block = (Comment.blocks c).map (·.node) :=
  Node.ofKind_eq_map c.node .block

/-- The earliest block with a name is the first one that has it, and no other block before it
lacks a name. -/
theorem Comment.Earliest.firstNaming {c : Comment} {name : String} {b : Block}
    (h : Comment.Earliest c name b) : c.node.FirstNaming name b.node ∧
      ∃ before after, c.node.ofKind .block = before ++ b.node :: after ∧
        b.node.param = some name ∧ ∀ x ∈ before, x.param ≠ none := by
  obtain ⟨before, after, hblocks, hb, hbefore⟩ := h
  have hsplit : c.node.ofKind .block = before.map (·.node) ++ b.node :: after.map (·.node) := by
    simp [Comment.ofKind_block, hblocks]
  have hparam := Block.name_eq_ok_iff.mp hb
  refine ⟨⟨_, _, hsplit, hparam, ?_⟩, _, _, hsplit, hparam, ?_⟩
  · intro x hx
    obtain ⟨y, hy, rfl⟩ := List.mem_map.mp hx
    obtain ⟨other, hother, hne⟩ := hbefore y hy
    simp [hother, hne]
  · intro x hx
    obtain ⟨y, hy, rfl⟩ := List.mem_map.mp hx
    obtain ⟨other, hother, -⟩ := hbefore y hy
    simp [hother]

/-- A block without a name hides all that come after it. -/
theorem Node.not_paired_of_nameless {name : String} {before after : List Node} {block : Node}
    (hblock : block.param = none) (hbefore : ∀ x ∈ before, x.param ≠ some name) :
    ¬∃ pre x post, before ++ block :: after = pre ++ x :: post ∧
      x.param = some name ∧ ∀ y ∈ pre, y.param ≠ none := by
  rintro ⟨pre, x, post, hsplit, hx, hpre⟩
  have hne : block ≠ x := by
    rintro rfl
    rw [hblock] at hx
    cases hx
  -- the nameless block stands before `x`, or `x` before it
  rcases List.append_eq_append_iff.mp hsplit with ⟨mid, hmid, hrest⟩ | ⟨mid, hmid, hrest⟩
  · cases mid with
    | nil => exact hne (List.cons.inj hrest).1
    | cons y mid =>
      obtain ⟨rfl, -⟩ := List.cons.inj hrest
      exact hpre block (by simp [hmid]) hblock
  · cases mid with
    | nil => exact hne (List.cons.inj hrest).1.symm
    | cons y mid =>
      obtain ⟨rfl, -⟩ := List.cons.inj hrest
      exact hbefore x (by simp [hmid]) hx

theorem Comment.Earliest.firstBlock {c : Comment} {name : String} {b : Block}
    (h : Comment.Earliest c name b) : ∃ first : Block,
      Comment.firstBlock c = .ok first ∧ (c.node.ofKind .block).head? = some first.node := by
  obtain ⟨before, after, hblocks, -, -⟩ := h
  rw [Comment.ofKind_block]
  unfold Comment.firstBlock
  rw [hblocks]
  cases before with
  | nil => exact ⟨b, rfl, rfl⟩
  | cons first _ => exact ⟨first, rfl, rfl⟩

theorem Comment.block?_cases (c : Comment) (name : String) :
    (∃ before b after, c.node.ofKind .block = before ++ b.node :: after ∧
      b.node.param = some name ∧ (∀ x ∈ before, x.param ≠ none) ∧ block? c name = .ok (some b)) ∨
    (∃ before block after, c.node.ofKind .block = before ++ block :: after ∧
      block.param = none ∧ (∀ x ∈ before, x.param ≠ some name) ∧
      block? c name = .error (.missingField Kind.block.name .param)) ∨
    ((∀ x ∈ c.node.ofKind .block, x.param ≠ some name) ∧
      (∀ x ∈ c.node.ofKind .block, x.param ≠ none) ∧ block? c name = .ok none) := by
  have hother {blocks : List Block} (h : ∀ x ∈ blocks, Block.NamesOther name x) :
      ∀ x ∈ blocks.map (·.node), x.param ≠ some name ∧ x.param ≠ none := by
    intro x hx
    obtain ⟨y, hy, rfl⟩ := List.mem_map.mp hx
    obtain ⟨other, hother, hne⟩ := h y hy
    simp [hother, hne]
  have hfind := Function.documentation?_cases name (Comment.blocks c)
  rw [Function.documentation?_blocks] at hfind
  rw [ofKind_block]
  rcases hfind with ⟨before, b, after, hblocks, hb, hbefore, hfound⟩ |
    ⟨before, b, after, hblocks, hb, hbefore, hfound⟩ | ⟨hall, hfound⟩
  · exact .inl ⟨before.map (·.node), b, after.map (·.node), by simp [hblocks], hb,
      fun x hx => (hother hbefore x hx).2, hfound⟩
  · exact .inr (.inl ⟨before.map (·.node), b.node, after.map (·.node), by simp [hblocks], hb,
      fun x hx => (hother hbefore x hx).1, hfound⟩)
  · exact .inr (.inr ⟨fun x hx => (hother hall x hx).1, fun x hx => (hother hall x hx).2, hfound⟩)

/-- What the lookup of a parameter makes of it is decided by whether it is paired. -/
theorem Function.resolve_cases (f : Function) (c : Comment) (p : Node.Of .parameter) :
    (c.node.Paired p.node ∧ ∃ q, resolve f c p = .ok q) ∨
      (¬c.node.Paired p.node ∧ ∃ flaw, f.node.PairingFlaw c.node p.node flaw ∧
        resolve f c p = .error flaw) := by
  cases hname : p.node.name with
  | none =>
    have hlabel : p.node.label? .name = none := hname
    refine .inr ⟨?_, .missingField Kind.parameter.name .name, .inl ⟨hname, rfl⟩, ?_⟩
    · rintro ⟨name, h, -⟩
      rw [hname] at h
      cases h
    · rw [resolve, Node.require_of_none hlabel, p.kind_eq]
      rfl
  | some name =>
    have hreq : p.node.require .name = .ok name := Node.require_eq_ok_iff.mpr hname
    have hpaired : c.node.Paired p.node ↔ ∃ before block after,
        c.node.ofKind .block = before ++ block :: after ∧ block.param = some name ∧
          ∀ x ∈ before, x.param ≠ none := by
      simp [Node.Paired, hname]
    rw [hpaired, resolve, hreq, ok_bind]
    rcases c.block?_cases name with ⟨before, b, after, hsplit, hb, hbefore, hfound⟩ |
      ⟨before, block, after, hsplit, hb, hbefore, hfound⟩ | ⟨hother, hnamed, hfound⟩
    · exact .inl ⟨⟨before, b.node, after, hsplit, hb, hbefore⟩, ⟨p, b⟩, by rw [hfound, ok_bind]⟩
    · refine .inr ⟨?_, .missingField Kind.block.name .param,
        .inr ⟨name, hname, .inl ⟨before, block, after, hsplit, hb, hbefore, rfl⟩⟩,
        by rw [hfound, error_bind]⟩
      rw [hsplit]
      exact Node.not_paired_of_nameless hb hbefore
    · refine .inr ⟨?_, .unmatchedParameter f.node.displayName name,
        .inr ⟨name, hname, .inr ⟨hother, hnamed, rfl⟩⟩, by rw [hfound, ok_bind]; rfl⟩
      rintro ⟨before, x, after, hsplit, hx, -⟩
      exact hother x (by simp [hsplit]) hx

end Pairing

section Stages

theorem TranslationUnit.firstFunction_cases (u : TranslationUnit) :
    (∃ f : Function, (u.node.ofKind .function).head? = some f.node ∧ firstFunction u = .ok f) ∨
      (u.node.ofKind .function = [] ∧ firstFunction u = .error .noFunctions) := by
  unfold firstFunction functions
  rw [Node.ofKind_eq_map]
  cases u.node.childrenOf .function with
  | nil => exact .inr ⟨rfl, rfl⟩
  | cons f _ => exact .inl ⟨f, rfl, rfl⟩

theorem Function.foundComment_cases (f : Function) :
    (∃ c : Comment, (f.node.ofKind .comment).head? = some c.node ∧ foundComment f = .ok c) ∨
    (f.node.ofKind .comment = [] ∧
      foundComment f = .error (.missingComment f.node.displayName)) := by
  unfold foundComment
  rw [Node.ofKind_eq_map]
  cases f.node.childrenOf .comment with
  | nil => exact .inr ⟨rfl, rfl⟩
  | cons c others => exact .inl ⟨c, rfl, rfl⟩

theorem Function.foundParameter_cases (f : Function) (c : Comment) :
    (∃ p name, (f.node.ofKind .parameter).head? = some p.node.node ∧
      (∀ x ∈ f.node.ofKind .parameter, c.node.Paired x) ∧ p.node.node.name = some name ∧
      Comment.Earliest c name p.block ∧ foundParameter f c = .ok p) ∨
    (f.node.ofKind .parameter = [] ∧
      foundParameter f c = .error (.noParameters f.node.displayName)) ∨
    ∃ before p after flaw, f.node.ofKind .parameter = before ++ p :: after ∧
      (∀ x ∈ before, c.node.Paired x) ∧ ¬c.node.Paired p ∧
      f.node.PairingFlaw c.node p flaw ∧ foundParameter f c = .error flaw := by
  rw [Node.ofKind_eq_map]
  unfold foundParameter
  generalize f.node.childrenOf .parameter = nodes
  cases hread : nodes.mapM (resolve f c) with
  | ok ps =>
    have hall := mapM_eq_ok_iff.mp hread
    have hmem : ∀ x ∈ nodes.map (·.node), c.node.Paired x := by
      intro x hx
      obtain ⟨y, hy, rfl⟩ := List.mem_map.mp hx
      obtain ⟨q, hq⟩ := exists_of_mem_forall₂ hall y hy
      rcases resolve_cases f c y with ⟨hpaired, -⟩ | ⟨-, flaw, -, herror⟩
      · exact hpaired
      · rw [hq] at herror
        cases herror
    cases hall with
    | nil => exact .inr (.inl ⟨rfl, rfl⟩)
    | cons hq _ =>
      obtain ⟨hnode, name, hname, hearliest⟩ := resolve_eq_ok hq
      subst hnode
      exact .inl ⟨_, name, rfl, hmem, Node.require_eq_ok_iff.mp hname, hearliest, rfl⟩
  | error flaw =>
    obtain ⟨before, p, after, hsplit, hbefore, hnot, hflaw⟩ :=
      Node.split_of_mapM_eq_error (resolve_cases f c) hread
    exact .inr (.inr ⟨before, p, after, flaw, hsplit, hbefore, hnot, hflaw, rfl⟩)

theorem Parameter.foundSize_cases (p : Parameter) :
    (∃ t size, p.block.node.Says t ∧ SizeTag.Leftmost (trimmed t) size ∧
      p.foundSize = .ok size) ∨
    ((∀ t, p.block.node.Says t → ¬SizeTag.Occurs (trimmed t)) ∧
      ∃ flaw, (p.block.node.SayingFlaw flaw ∨ ∃ t, p.block.node.Says t ∧
        ¬SizeTag.Occurs (trimmed t) ∧ flaw = .sizeNotFound p.node.node.displayName) ∧
        p.foundSize = .error flaw) := by
  unfold foundSize
  rcases Block.text_cases p.block with ⟨t, ht, hok⟩ | ⟨hnone, flaw, hflaw, herror⟩
  · rcases SizeTag.all_cases (trimmed t) with ⟨name, others, hall, hleft⟩ | ⟨hall, hnot⟩
    · exact .inl ⟨t, String.ofList name, ht, hleft, by simp [hok, hall]⟩
    · refine .inr ⟨?_, _, .inr ⟨t, ht, hnot, rfl⟩, by simp [hok, hall]; rfl⟩
      intro t' ht'
      rwa [ht.unique ht']
  · refine .inr ⟨fun t ht => absurd ht (hnone t), flaw, .inl hflaw, by simp [herror]⟩

/-- The function, its comment and its first parameter, with both names, when there is nothing left
to be found but the texts. -/
structure TranslationUnit.Named (u : TranslationUnit) (f : Function) (c : Comment) (p : Parameter)
    (function name : String) : Prop where
  subject : Subject u.node f.node c.node
  parameter_eq : (f.node.ofKind .parameter).head? = some p.node.node
  paired : ∀ x ∈ f.node.ofKind .parameter, c.node.Paired x
  function_eq : f.node.name = some function
  name_eq : p.node.node.name = some name
  earliest : Comment.Earliest c name p.block

theorem TranslationUnit.Named.holds {u : TranslationUnit} {f : Function} {c : Comment}
    {p : Parameter} {function name : String} (h : u.Named f c p function name) :
    ∀ d ∈ [Condition.function, .comment, .pairing, .parameter, .functionName],
      d.Holds u.node := by
  have hs := h.subject
  have h1 : Condition.function.Holds u.node := ⟨_, List.mem_of_head? hs.function_eq⟩
  have h2 : Condition.comment.Holds u.node := ⟨_, _, hs⟩
  have h3 : Condition.pairing.Holds u.node := ⟨_, _, hs, h.paired⟩
  have h4 : Condition.parameter.Holds u.node := ⟨_, _, hs, _, List.mem_of_head? h.parameter_eq⟩
  have h5 : Condition.functionName.Holds u.node := ⟨_, _, hs, function, h.function_eq⟩
  simp [h1, h2, h3, h4, h5]

end Stages

end ParamDoc
