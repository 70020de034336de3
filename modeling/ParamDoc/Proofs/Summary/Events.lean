import ParamDoc.Proofs.Summary.Narration

/-!
# What a summary reports

A summary is made in stages. Each stage tells its part of the events and then either hands on what
it found or ends the summary, so the events before a flaw stay reported.
-/

namespace ParamDoc

open Text (trimmed)

namespace Summary

/-- The stages of a summary once both names are known. -/
def readTexts (c : Comment) (p : Parameter) (function parameter : String) : Query Summary := do
  let description ← Comment.text c
  let block ← Comment.firstBlock c
  let parameterDoc ← Block.text block
  let size ← p.size
  return { function, parameter, description, parameterDoc, size }

/-- The stages of a summary once the first parameter is known. -/
def readNames (f : Function) (c : Comment) (p : Parameter) : Query Summary := do
  Query.report .summarizing (summarizing f p)
  let function ← Function.name f
  let parameter ← p.name
  readTexts c p function parameter

end Summary

theorem TranslationUnit.summary_eq (u : TranslationUnit) : u.summary = (do
    let f ← firstFunction u
    let c ← Function.comment f
    let p ← Function.firstParameterIn f c
    Summary.readNames f c p) := rfl

/-- The query tells the given events and then those about further size tags. It has a summary if
there are any of the latter. -/
def Query.Concludes (q : Query Summary) (root : Node) (events : List Event) : Prop :=
  ∃ sizes result, root.Counts sizes ∧ (sizes ≠ [] → ∃ s, result = .ok s) ∧
    q.Tells (events ++ sizes) result

section Concluding

variable {α : Type} {root : Node} {events later : List Event}

theorem Node.counts_of_not_holds {d : Condition} (hd : d ∈ Condition.allButSize)
    (hnot : ¬d.Holds root) : root.Counts [] :=
  .absent fun _ _ hall _ _ => absurd (hall d hd) hnot

/-- A flaw that is met before the size. -/
theorem Query.Tells.concludes {q : Query Summary} {d : Condition} {flaw : Flaw}
    (h : q.Tells events (.error flaw)) (hd : d ∈ Condition.allButSize) (hnot : ¬d.Holds root) :
    q.Concludes root events := by
  refine ⟨[], .error flaw, Node.counts_of_not_holds hd hnot, by simp, ?_⟩
  rw [List.append_nil]
  exact h

theorem Query.Tells.bind_concludes {q : Query α} {f : α → Query Summary} {a : α}
    (h : q.Tells events (.ok a)) (hf : (f a).Concludes root later) :
    (q >>= f).Concludes root (events ++ later) := by
  obtain ⟨sizes, result, hcounts, hresult, htells⟩ := hf
  refine ⟨sizes, result, hcounts, hresult, ?_⟩
  rw [List.append_assoc]
  exact h.bind htells

theorem Query.concludes_lift_bind {result : Except Flaw α} {f : α → Query Summary} {a : α}
    (h : result = .ok a) (hf : (f a).Concludes root events) :
    ((liftM result : Query α) >>= f).Concludes root events := by
  subst h
  exact (tells_lift _).bind_concludes hf

end Concluding

theorem Function.pairedNames_pairs (f : Function) (c : Comment) :
    f.node.PairedNames c.node (pairedNames f c (f.node.childrenOf .parameter)) := by
  rw [Node.PairedNames, Node.ofKind_eq_map]
  induction f.node.childrenOf .parameter with
  | nil => exact ⟨[], [], rfl, by simp, by simp, .nil⟩
  | cons p rest ih =>
    rcases resolve_cases f c p with ⟨hpaired, q, hq⟩ | ⟨hnot, flaw, -, herror⟩
    · obtain ⟨before, after, hsplit, hbefore, hafter, hnames⟩ := ih
      obtain ⟨hnode, name, hname, -⟩ := resolve_eq_ok hq
      subst hnode
      rw [pairedNames_of_ok hq hname]
      exact ⟨q.node.node :: before, after, by simp [hsplit], by simpa using ⟨hpaired, hbefore⟩,
        hafter, .cons (Node.require_eq_ok_iff.mp hname) hnames⟩
    · rw [pairedNames_of_error herror]
      exact ⟨[], _, rfl, by simp, by simpa using hnot, .nil⟩

namespace TranslationUnit

variable {u : TranslationUnit} {f : Function} {c : Comment} {p : Parameter}
  {function name : String}

theorem Named.basics (h : u.Named f c p function name) :
    ∀ d ∈ Condition.basics, d.Holds u.node := by
  intro d hd
  refine h.holds d ?_
  revert d
  decide

theorem concludes_size (hfirst : u.node.DocumentsFirst p.block.node)
    (hall : ∀ d ∈ Condition.allButSize, d.Holds u.node) (make : String → Summary) :
    (p.size >>= fun size => pure (make size)).Concludes u.node [] := by
  have hsize := p.tells_size
  unfold Parameter.otherSizes at hsize
  rcases Block.text_cases p.block with ⟨t, ht, hsaid⟩ | ⟨hnot, flaw, -, hsaid⟩
  · rw [hsaid] at hsize
    have hcounts : u.node.Counts (SizeTag.others (trimmed t)) := by
      rcases SizeTag.others_cases (trimmed t) with ⟨size, k, hleft, hmost, heq⟩ | ⟨hfew, heq⟩
      · rw [heq]
        exact .several hall (hfirst.sizeText_iff.mpr ⟨t, ht, rfl⟩) hleft hmost
      · rw [heq]
        refine .absent fun text k _ hlast hmost => ?_
        obtain ⟨t', ht', rfl⟩ := hfirst.sizeText_iff.mp hlast
        rw [ht.unique ht'] at hmost
        exact hfew k hmost
    cases hresult : p.foundSize with
    | ok size =>
      rw [hresult] at hsize
      exact ⟨_, .ok (make size), hcounts, fun _ => ⟨_, rfl⟩,
        hsize.bind_silent (Query.tells_pure _)⟩
    | error flaw =>
      rw [hresult] at hsize
      refine ⟨_, .error flaw, hcounts, fun hne => ?_, hsize.bind_error _⟩
      -- further tags come after a first one, which is found
      rcases SizeTag.others_cases (trimmed t) with ⟨size, _, hleft, -, -⟩ | ⟨-, hnil⟩
      · rcases p.foundSize_cases with ⟨_, _, -, -, hok⟩ | ⟨hnone, -⟩
        · rw [hresult] at hok
          cases hok
        · exact absurd hleft.occurs (hnone t ht)
      · exact absurd hnil hne
  · have hfound : p.foundSize = .error flaw := by
      rw [Parameter.foundSize, hsaid, error_bind]
    rw [hsaid, hfound] at hsize
    refine ⟨[], .error flaw, .absent fun text k _ hlast _ => ?_, by simp, hsize.bind_error _⟩
    obtain ⟨t, ht, -⟩ := hfirst.sizeText_iff.mp hlast
    exact absurd ht (hnot t)

/-- The texts are read without a report, up to the size. -/
theorem Named.concludes_readTexts (h : u.Named f c p function name) :
    (Summary.readTexts c p function name).Concludes u.node [] := by
  have hs := h.subject
  have hdocuments : u.node.DocumentsFirst p.block.node :=
    ⟨_, _, _, name, hs, h.parameter_eq, h.name_eq, h.earliest.firstNaming.1⟩
  obtain ⟨first, hblock, hhead⟩ := h.earliest.firstBlock
  rcases Comment.text_cases c with
    ⟨texts, htexts, hprose⟩ | ⟨before, x, after, flaw, hsplit, -, hnot, -, hprose⟩
  · have hprose' : Condition.prose.Holds u.node := ⟨_, _, hs, exists_of_mem_forall₂ htexts⟩
    rcases Block.text_cases first with ⟨doc, hdoc, hsaid⟩ | ⟨hnot, flaw, -, hsaid⟩
    · have hfirst : Condition.firstBlock.Holds u.node :=
        ⟨_, _, hs, first.node, hhead, doc, hdoc⟩
      have hall : ∀ d ∈ Condition.allButSize, d.Holds u.node :=
        List.forall_mem_append.mpr ⟨h.basics, by simp [hprose', hfirst]⟩
      exact Query.concludes_lift_bind hprose (Query.concludes_lift_bind hblock
        (Query.concludes_lift_bind hsaid (concludes_size hdocuments hall _)))
    · have htells : (Summary.readTexts c p function name).Tells [] (.error flaw) :=
        Query.tells_lift_bind hprose
          (Query.tells_lift_bind hblock (Query.tells_lift_bind_error hsaid _))
      exact htells.concludes (d := .firstBlock) (by decide) (hs.not_firstBlock hhead hnot)
  · have htells : (Summary.readTexts c p function name).Tells [] (.error flaw) :=
      Query.tells_lift_bind_error hprose _
    exact htells.concludes (d := .prose) (by decide) (hs.not_prose (by simp [hsplit]) hnot)

/-- The start of the summary is told if the function has a name. -/
theorem concludes_readNames (hs : Subject u.node f.node c.node)
    (hp : (f.node.ofKind .parameter).head? = some p.node.node)
    (hpaired : ∀ x ∈ f.node.ofKind .parameter, c.node.Paired x)
    (hname : p.node.node.name = some name) (hearliest : Comment.Earliest c name p.block) :
    ∃ start, u.node.Starts start ∧ (Summary.readNames f c p).Concludes u.node start := by
  have hpname : p.name = .ok name := Node.require_eq_ok_iff.mpr hname
  cases hf : f.node.name with
  | none =>
    have hfname : Function.name f = .error (.missingField f.node.kind .name) :=
      Node.require_of_none hf
    have hstart : summarizing f p = .error (.missingField f.node.kind .name) := by
      rw [summarizing, hfname, error_bind]
    have hfunction : ¬Condition.functionName.Holds u.node := hs.not_functionName hf
    have htells : (Summary.readNames f c p).Tells []
        (.error (.missingField f.node.kind .name)) := by
      rw [Summary.readNames, hstart]
      exact Query.tells_report_error_bind (Query.tells_lift_bind_error hfname _)
    exact ⟨[], .absent (by decide) hfunction,
      htells.concludes (d := .functionName) (by decide) hfunction⟩
  | some function =>
    have hfname : Function.name f = .ok function := Node.require_eq_ok_iff.mpr hf
    have hstart : summarizing f p = .ok (.summarizing function name) := by
      rw [summarizing, hfname, hpname]
      rfl
    have hnamed : u.Named f c p function name := ⟨hs, hp, hpaired, hf, hname, hearliest⟩
    refine ⟨[.summarizing function name], .named hnamed.basics hs hp hf hname, ?_⟩
    rw [Summary.readNames, hstart]
    exact (Query.tells_report (.summarizing function name)).bind_concludes
      (Query.concludes_lift_bind hfname
        (Query.concludes_lift_bind hpname hnamed.concludes_readTexts))

theorem concludes_of_subject (hs : Subject u.node f.node c.node) :
    ∃ matched start, u.node.Matches matched ∧ u.node.Starts start ∧
      (Function.firstParameterIn f c >>= Summary.readNames f c).Concludes u.node
        (matched ++ start) := by
  have htells := Function.tells_firstParameterIn f c
  have hmatched : u.node.Matches
      ((Function.pairedNames f c (f.node.childrenOf .parameter)).map .paired) :=
    .pairs hs (Function.pairedNames_pairs f c)
  -- a flaw of the pairing ends the summary before its start
  have hends {d : Condition} {flaw : Flaw} (hd : d ∈ Condition.basics) (hnot : ¬d.Holds u.node)
      (h : Function.foundParameter f c = .error flaw) : ∃ matched start,
        u.node.Matches matched ∧ u.node.Starts start ∧
          (Function.firstParameterIn f c >>= Summary.readNames f c).Concludes u.node
            (matched ++ start) := by
    rw [h] at htells
    refine ⟨_, [], hmatched, .absent hd hnot, ?_⟩
    rw [List.append_nil]
    exact (htells.bind_error _).concludes (List.mem_append_left _ hd) hnot
  rcases Function.foundParameter_cases f c with
    ⟨p, name, hp, hpaired, hname, hearliest, hfirst⟩ | ⟨hnone, hfirst⟩ |
    ⟨before, p, after, flaw, hsplit, -, hnot, -, hfirst⟩
  · rw [hfirst] at htells
    obtain ⟨start, hstart, hnext⟩ := concludes_readNames hs hp hpaired hname hearliest
    exact ⟨_, start, hmatched, hstart, htells.bind_concludes hnext⟩
  · exact hends (d := .parameter) (by decide) (hs.not_parameter hnone) hfirst
  · exact hends (d := .pairing) (by decide) (hs.not_pairing (by simp [hsplit]) hnot) hfirst

/-- Nothing is told without a comment, and there is no summary. -/
theorem concludes_of_not_subject {flaw : Flaw} (hnone : ∀ f c, ¬Subject u.node f c)
    (hwarning : u.node.Warns []) (h : u.summary.Tells [] (.error flaw)) :
    ∃ warning matched start, u.node.Warns warning ∧ u.node.Matches matched ∧
      u.node.Starts start ∧ u.summary.Concludes u.node (warning ++ matched ++ start) := by
  have hpairing : ¬Condition.pairing.Holds u.node := by
    rintro ⟨f, c, hs, -⟩
    exact hnone f c hs
  exact ⟨[], [], [], hwarning, .absent hnone, .absent (by decide) hpairing,
    h.concludes (d := .pairing) (by decide) hpairing⟩

theorem warns_otherComments (hf : (u.node.ofKind .function).head? = some f.node) :
    u.node.Warns (Function.otherComments f) := by
  have hcomments := Node.ofKind_eq_map f.node .comment
  unfold Function.otherComments
  have hfew (h : (f.node.ofKind .comment).length < 2) : u.node.Warns [] := by
    refine .absent fun f' hf' => ?_
    rw [hf] at hf'
    cases hf'
    exact h
  rcases hchildren : f.node.childrenOf .comment with _ | ⟨c, _ | ⟨d, others⟩⟩
  · exact hfew (by simp [hcomments, hchildren])
  · exact hfew (by simp [hcomments, hchildren])
  · have hlength : (f.node.ofKind .comment).length = (d :: others).length + 1 := by
      rw [hcomments, hchildren, List.length_map, List.length_cons]
    dsimp only
    rw [← hlength]
    exact .several hf (by rw [hlength, List.length_cons]; omega)

theorem concludes_summary (u : TranslationUnit) : ∃ warning matched start,
    u.node.Warns warning ∧ u.node.Matches matched ∧ u.node.Starts start ∧
      u.summary.Concludes u.node (warning ++ matched ++ start) := by
  rcases firstFunction_cases u with ⟨f, hf, hfunction⟩ | ⟨hnone, hfunction⟩
  · have hwarns := warns_otherComments hf
    have hcomment := Function.tells_comment f
    rcases Function.foundComment_cases f with ⟨c, hc, hfound⟩ | ⟨hnone, hfound⟩
    · rw [hfound] at hcomment
      obtain ⟨matched, start, hmatched, hstart, hnext⟩ := concludes_of_subject ⟨hf, hc⟩
      refine ⟨_, matched, start, hwarns, hmatched, hstart, ?_⟩
      rw [List.append_assoc, summary_eq]
      exact Query.concludes_lift_bind hfunction (hcomment.bind_concludes hnext)
    · have hsilent : Function.otherComments f = [] := by
        rw [Node.ofKind_eq_map, List.map_eq_nil_iff] at hnone
        rw [Function.otherComments, hnone]
      rw [hfound, hsilent] at hcomment
      refine concludes_of_not_subject ?_ (hsilent ▸ hwarns)
        (Query.tells_lift_bind hfunction (hcomment.bind_error _))
      rintro f' c ⟨hf', hc⟩
      rw [hf] at hf'
      cases hf'
      simp [hnone] at hc
  · refine concludes_of_not_subject ?_ (.absent fun f hf => ?_)
      (Query.tells_lift_bind_error hfunction _)
    · rintro f c ⟨hf, -⟩
      simp [hnone] at hf
    · simp [hnone] at hf

/-- The events of a summary are those that its tree narrates, and no others, whether it succeeds or
fails; of these, the ones that are shown are reported. If further size tags are reported, which are
counted without overlaps, then there is a summary. The parts of the narration differ in their levels
and messages. -/
theorem summary_events_iff (u : TranslationUnit) :
    (∀ events, (u.summary.run fun _ => true).1 = events ↔ u.node.Narrates events) ∧
    (∀ shown, (u.summary.run shown).1 =
      (u.summary.run fun _ => true).1.filter (shown ·.topic)) ∧
    (∀ sizes, u.node.Counts sizes → sizes ≠ [] → ∃ s, ∀ shown, u.summary.outcome shown = .ok s) ∧
    (∀ warning, u.node.Warns warning → ∀ e ∈ warning, e.topic.level = .warn) ∧
    (∀ matched, u.node.Matches matched → ∀ e ∈ matched,
      e.topic.level = .trace ∧ e.topic.message = "matched @param block") ∧
    (∀ start, u.node.Starts start → ∀ e ∈ start,
      e.topic.level = .debug ∧ e.topic.message = "summarizing") ∧
    ∀ sizes, u.node.Counts sizes → ∀ e ∈ sizes,
      e.topic.level = .debug ∧ e.topic.message = "multiple size annotations, using the first" := by
  obtain ⟨warning, matched, start, hwarning, hmatched, hstart, sizes, result, hsizes, hresult,
    htells⟩ := concludes_summary u
  have hnarrates : u.node.Narrates (warning ++ matched ++ start ++ sizes) :=
    ⟨warning, matched, start, sizes, hwarning, hmatched, hstart, hsizes, rfl⟩
  have hall : (u.summary.run fun _ => true).1 = warning ++ matched ++ start ++ sizes := by
    rw [htells]
    exact List.filter_eq_self.mpr fun _ _ => rfl
  refine ⟨fun events' => ?_, fun shown => ?_, ?_, ?_, ?_, ?_, ?_⟩
  · rw [hall]
    constructor
    · rintro rfl
      exact hnarrates
    · intro h
      exact (hnarrates.unique h).symm
  · rw [hall, htells shown]
  · intro sizes' hsizes' hne
    obtain rfl := hsizes.unique hsizes'
    obtain ⟨s, rfl⟩ := hresult hne
    exact ⟨s, htells.outcome⟩
  · intro warning h e he
    rw [h.topic_eq e he]
    rfl
  · intro matched h e he
    rw [h.topic_eq e he]
    exact ⟨rfl, rfl⟩
  · intro start h e he
    rw [h.topic_eq e he]
    exact ⟨rfl, rfl⟩
  · intro sizes h e he
    rw [h.topic_eq e he]
    exact ⟨rfl, rfl⟩

end TranslationUnit

end ParamDoc
