import ParamDoc.Proofs.Summary.Stages

/-!
# When a unit has a summary

The summary of a unit exists exactly when all conditions hold. Otherwise the flaw is that of the
first one, in their order, that does not.
-/

namespace ParamDoc

open Text (trimmed)

/-- The result is a summary that the tree describes, and all conditions hold; or it is the flaw that
the first one reports which does not. -/
def Node.Settles (root : Node) (result : Except Flaw Summary) : Prop :=
  (∃ s, result = .ok s ∧ (∀ d : Condition, d.Holds root) ∧ s.Describes root) ∨
  ∃ flaw d, result = .error flaw ∧ FirstFails (Condition.Holds root) Condition.inOrder d ∧
    d.Reports root flaw

theorem Node.settles_error {root : Node} {flaw : Flaw} {d : Condition} (before : List Condition)
    {after : List Condition} (horder : Condition.inOrder = before ++ d :: after)
    (hbefore : ∀ b ∈ before, b.Holds root) (hnot : ¬d.Holds root) (hflaw : d.Reports root flaw) :
    root.Settles (.error flaw) :=
  .inr ⟨flaw, d, rfl, ⟨before, after, horder, hbefore, hnot⟩, hflaw⟩

namespace TranslationUnit

variable {u : TranslationUnit} {f : Function} {c : Comment} {p : Parameter}
  {function name doc : String} {texts : List String} {first : Node}

theorem Named.settles_size (h : u.Named f c p function name)
    (htexts : List.Forall₂ Node.Reads (c.node.ofKind .paragraph) texts)
    (hhead : (c.node.ofKind .block).head? = some first) (hdoc : first.Says doc) :
    u.node.Settles (do
      let size ← p.foundSize
      .ok ⟨function, name, Comment.joinParagraphs ((texts.map trimmed).filter (· ≠ "")),
        trimmed doc, size⟩) := by
  have hs := h.subject
  have hnaming := h.earliest.firstNaming.1
  have h6 : Condition.prose.Holds u.node := ⟨_, _, hs, exists_of_mem_forall₂ htexts⟩
  have h7 : Condition.firstBlock.Holds u.node := ⟨_, _, hs, first, hhead, doc, hdoc⟩
  rcases Parameter.foundSize_cases p with ⟨t, size, ht, hsize, hfind⟩ | ⟨hnot, flaw, hflaw, hfind⟩
  · have h8 : Condition.size.Holds u.node :=
      ⟨_, _, hs, _, h.parameter_eq, name, h.name_eq, _, hnaming, t, ht, hsize.occurs⟩
    rw [hfind, ok_bind]
    refine .inl ⟨_, rfl, ?_, ?_⟩
    · intro d
      cases d with
      | prose => exact h6
      | firstBlock => exact h7
      | size => exact h8
      | _ => exact h.holds _ (by simp)
    · exact ⟨_, _, _, _, _, texts, doc, t, hs, h.parameter_eq, hhead, hnaming, htexts, hdoc, ht,
        h.function_eq, h.name_eq, rfl, rfl, hsize⟩
  · rw [hfind, error_bind]
    refine Node.settles_error (d := .size) (_ ++ [.prose, .firstBlock]) rfl
      (List.forall_mem_append.mpr ⟨h.holds, by simp [h6, h7]⟩)
      (hs.not_size h.parameter_eq h.name_eq hnaming hnot) ?_
    refine ⟨_, _, hs, _, h.parameter_eq, name, h.name_eq, _, hnaming, ?_⟩
    simpa [Node.displayName, h.name_eq] using hflaw

theorem Named.settles_texts (h : u.Named f c p function name) :
    u.node.Settles (do
      let description ← Comment.text c
      let block ← Comment.firstBlock c
      let parameterDoc ← Block.text block
      let size ← p.foundSize
      .ok ⟨function, name, description, parameterDoc, size⟩) := by
  have hs := h.subject
  obtain ⟨first, hblock, hhead⟩ := h.earliest.firstBlock
  rcases Comment.text_cases c with
    ⟨texts, htexts, hprose⟩ | ⟨before, x, after, flaw, hsplit, hbefore, hnot, hflaw, hprose⟩
  · rw [hprose, hblock, ok_bind, ok_bind]
    rcases Block.text_cases first with ⟨doc, hdoc, hsaid⟩ | ⟨hnot, flaw, hflaw, hsaid⟩
    · rw [hsaid, ok_bind]
      exact h.settles_size htexts hhead hdoc
    · have h6 : Condition.prose.Holds u.node := ⟨_, _, hs, exists_of_mem_forall₂ htexts⟩
      rw [hsaid, error_bind]
      exact Node.settles_error (d := .firstBlock) (_ ++ [.prose]) rfl
        (List.forall_mem_append.mpr ⟨h.holds, by simp [h6]⟩) (hs.not_firstBlock hhead hnot)
        ⟨_, _, hs, first.node, hhead, hflaw⟩
  · rw [hprose, error_bind]
    exact Node.settles_error (d := .prose) _ rfl h.holds (hs.not_prose (by simp [hsplit]) hnot)
      ⟨_, _, hs, before, x, after, hsplit, hbefore, hflaw⟩

/-- The first function of a unit and its first comment decide about the rest. -/
theorem settles_of_subject (hs : Subject u.node f.node c.node) :
    u.node.Settles (do
      let p ← Function.foundParameter f c
      let function ← Function.name f
      let parameter ← p.name
      let description ← Comment.text c
      let block ← Comment.firstBlock c
      let parameterDoc ← Block.text block
      let size ← p.foundSize
      .ok ⟨function, parameter, description, parameterDoc, size⟩) := by
  have h1 : Condition.function.Holds u.node := ⟨_, List.mem_of_head? hs.function_eq⟩
  have h2 : Condition.comment.Holds u.node := ⟨_, _, hs⟩
  rcases Function.foundParameter_cases f c with
    ⟨p, name, hp, hpaired, hname, hearliest, hfirst⟩ | ⟨hnone, hfirst⟩ |
    ⟨before, p, after, flaw, hsplit, hbefore, hnot, hflaw, hfirst⟩
  · rw [hfirst, ok_bind]
    cases hf : f.node.name with
    | none =>
      have hlabel : f.node.label? .name = none := hf
      have h3 : Condition.pairing.Holds u.node := ⟨_, _, hs, hpaired⟩
      have h4 : Condition.parameter.Holds u.node := ⟨_, _, hs, _, List.mem_of_head? hp⟩
      rw [Function.name, Node.require_of_none hlabel, f.kind_eq, error_bind]
      exact Node.settles_error (d := .functionName)
        [.function, .comment, .pairing, .parameter] rfl (by simp [h1, h2, h3, h4])
        (hs.not_functionName hf) rfl
    | some function =>
      have hfname : Function.name f = .ok function := Node.require_eq_ok_iff.mpr hf
      have hpname : p.name = .ok name := Node.require_eq_ok_iff.mpr hname
      rw [hfname, hpname, ok_bind, ok_bind]
      exact Named.settles_texts ⟨hs, hp, hpaired, hf, hname, hearliest⟩
  · have h3 : Condition.pairing.Holds u.node := ⟨_, _, hs, by simp [hnone]⟩
    rw [hfirst, error_bind]
    exact Node.settles_error (d := .parameter) [.function, .comment, .pairing] rfl
      (by simp [h1, h2, h3]) (hs.not_parameter hnone) ⟨_, _, hs, rfl⟩
  · rw [hfirst, error_bind]
    exact Node.settles_error (d := .pairing) [.function, .comment] rfl
      (by simp [h1, h2]) (hs.not_pairing (by simp [hsplit]) hnot)
      ⟨_, _, hs, before, p, after, hsplit, hbefore, hflaw⟩

theorem settles (u : TranslationUnit) : u.node.Settles (foundSummary u) := by
  unfold foundSummary
  rcases firstFunction_cases u with ⟨f, hf, hfunction⟩ | ⟨hnone, hfunction⟩
  · have h1 : Condition.function.Holds u.node := ⟨_, List.mem_of_head? hf⟩
    rw [hfunction, ok_bind]
    rcases Function.foundComment_cases f with ⟨c, hc, hcomment⟩ | ⟨hnone, hcomment⟩
    · rw [hcomment, ok_bind]
      exact settles_of_subject ⟨hf, hc⟩
    · rw [hcomment, error_bind]
      refine Node.settles_error (d := .comment) [.function] rfl (by simp [h1]) ?_
        ⟨_, hf, rfl⟩
      rintro ⟨f', c, hs⟩
      have hsame : f' = f.node := Option.some.inj (hs.function_eq.symm.trans hf)
      subst hsame
      have := hs.comment_eq
      simp [hnone] at this
  · rw [hfunction, error_bind]
    refine Node.settles_error (d := .function) [] rfl (by simp) ?_ rfl
    rintro ⟨f, hf⟩
    simp [hnone] at hf

variable {shown : Topic → Bool}

theorem describes_of_eq_ok {s : Summary} (h : u.summary.outcome shown = .ok s) :
    s.Describes u.node := by
  rw [outcome_summary] at h
  rcases settles u with ⟨s', hok, -, hdescribes⟩ | ⟨flaw, _, herror, -, -⟩
  · rw [h] at hok
    cases hok
    exact hdescribes
  · rw [h] at herror
    cases herror

theorem reports_of_eq_error {flaw : Flaw} (h : u.summary.outcome shown = .error flaw) :
    ∃ d : Condition, d.Reports u.node flaw := by
  rw [outcome_summary] at h
  rcases settles u with ⟨s, hok, -, -⟩ | ⟨flaw', d, herror, -, hreports⟩
  · rw [h] at hok
    cases hok
  · rw [h] at herror
    cases herror
    exact ⟨d, hreports⟩

/-- A unit has a summary exactly when all conditions hold, and its parts are then those of the
tree. Otherwise the flaw is that of the first condition that does not hold. -/
theorem summary_outcome_iff (u : TranslationUnit) (shown : Topic → Bool) :
    ((∃ s, u.summary.outcome shown = .ok s) ↔ ∀ c : Condition, c.Holds u.node) ∧
      (∀ s, u.summary.outcome shown = .ok s → s.Describes u.node) ∧
      ∀ flaw, u.summary.outcome shown = .error flaw → ∃ before c after,
        Condition.inOrder = before ++ c :: after ∧ (∀ d ∈ before, d.Holds u.node) ∧
          ¬c.Holds u.node ∧ c.Reports u.node flaw := by
  rw [outcome_summary]
  rcases settles u with ⟨s, hok, hall, hdescribes⟩ | ⟨flaw, d, herror, hfirst, hreports⟩
  · refine ⟨⟨fun _ => hall, fun _ => ⟨s, hok⟩⟩, ?_, ?_⟩
    · intro s' hs'
      rw [hok] at hs'
      cases hs'
      exact hdescribes
    · intro flaw hflaw
      rw [hok] at hflaw
      cases hflaw
  · obtain ⟨before, after, horder, hbefore, hnot⟩ := hfirst
    refine ⟨⟨?_, fun hall => absurd (hall d) hnot⟩, ?_, ?_⟩
    · rintro ⟨s, hok⟩
      rw [hok] at herror
      cases herror
    · intro s hok
      rw [hok] at herror
      cases herror
    · intro flaw' herror'
      rw [herror] at herror'
      cases herror'
      exact ⟨before, d, after, horder, hbefore, hnot, hreports⟩

end TranslationUnit

end ParamDoc
