import ParamDoc.Proofs.Summary.FirstFault

/-!
# The flaws of a summary

The parts of a summary can have more flaws on their own than they have in a summary. The first
block of a comment may be missing, but a parameter that has been paired implies a block; and a
comment that has been looked for by its kind passes the check of its kind.
-/

namespace ParamDoc

/-- What can be wrong with a unit whose summary fails. -/
inductive Flaw.OfSummary : Flaw → Prop
  | noFunctions : OfSummary .noFunctions
  | missingComment (function : String) : OfSummary (.missingComment function)
  | namelessParameter : OfSummary (.missingField Kind.parameter.name .name)
  | namelessBlock : OfSummary (.missingField Kind.block.name .param)
  | unmatchedParameter (function parameter : String) :
      OfSummary (.unmatchedParameter function parameter)
  | noParameters (function : String) : OfSummary (.noParameters function)
  | namelessFunction : OfSummary (.missingField Kind.function.name .name)
  | paragraphWithoutText : OfSummary (.malformed .paragraphWithoutText)
  | noParagraph (param : Option String) : OfSummary (.malformed (.noParagraph param))
  | emptyParagraph (param : Option String) : OfSummary (.malformed (.emptyParagraph param))
  | textlessLeaf (kind : String) : OfSummary (.missingField kind .text)
  | sizeNotFound (parameter : String) : OfSummary (.sizeNotFound parameter)

section Stages

variable {flaw : Flaw}

theorem Node.ReadingFlaw.ofSummary {paragraph : Node} (h : paragraph.ReadingFlaw flaw) :
    flaw.OfSummary := by
  rcases h with ⟨-, rfl⟩ | ⟨leaf, -, -, rfl⟩
  · exact .paragraphWithoutText
  · exact .textlessLeaf leaf.kind

theorem Node.SayingFlaw.ofSummary {block : Node} (h : block.SayingFlaw flaw) :
    flaw.OfSummary := by
  rcases h with ⟨-, rfl⟩ | ⟨paragraph, -, ⟨-, rfl⟩ | ⟨leaf, -, -, rfl⟩⟩
  · exact .noParagraph block.param
  · exact .emptyParagraph block.param
  · exact .textlessLeaf leaf.kind

theorem Node.PairingFlaw.ofSummary {function comment parameter : Node}
    (h : Node.PairingFlaw function comment parameter flaw) : flaw.OfSummary := by
  rcases h with ⟨-, rfl⟩ | ⟨name, -, ⟨_, _, _, -, -, -, rfl⟩ | ⟨-, -, rfl⟩⟩
  · exact .namelessParameter
  · exact .namelessBlock
  · exact .unmatchedParameter function.displayName name

theorem Condition.Reports.ofSummary {root : Node} {c : Condition} (h : c.Reports root flaw) :
    flaw.OfSummary := by
  cases c with
  | function =>
    cases h
    exact .noFunctions
  | comment =>
    obtain ⟨f, -, rfl⟩ := h
    exact .missingComment f.displayName
  | pairing =>
    obtain ⟨_, _, -, _, _, _, -, -, hflaw⟩ := h
    exact hflaw.ofSummary
  | parameter =>
    obtain ⟨f, _, -, rfl⟩ := h
    exact .noParameters f.displayName
  | functionName =>
    cases h
    exact .namelessFunction
  | prose =>
    obtain ⟨_, _, -, _, _, _, -, -, hflaw⟩ := h
    exact hflaw.ofSummary
  | firstBlock =>
    obtain ⟨_, _, -, _, -, hflaw⟩ := h
    exact hflaw.ofSummary
  | size =>
    obtain ⟨_, _, -, _, -, name, -, _, -, hflaw | ⟨_, -, -, rfl⟩⟩ := h
    · exact hflaw.ofSummary
    · exact .sizeNotFound name

end Stages

namespace TranslationUnit

theorem ofSummary_of_eq_error {u : TranslationUnit} {shown : Topic → Bool} {flaw : Flaw}
    (h : u.summary.outcome shown = .error flaw) : flaw.OfSummary := by
  obtain ⟨d, hreports⟩ := reports_of_eq_error h
  exact hreports.ofSummary

/-- A summary never fails because of the text of a dump, an unexpected kind, a comment without
blocks, an unknown direction, or a mangled name or direction that is missing. Once the parameters of
a function are paired they all have names, and if there are any then the comment has a first
block. -/
theorem summary_flaw_cases (u : TranslationUnit) (shown : Topic → Bool) :
    (∀ flaw, u.summary.outcome shown = .error flaw →
      (∀ fault, flaw ≠ .undecodable fault) ∧
      (∀ expected found, flaw ≠ .unexpectedKind expected found) ∧
      (∀ what, flaw = .malformed what →
        what.kind ≠ .comment ∧ ∀ text, what ≠ .unknownDirection text) ∧
      ∀ kind label, flaw = .missingField kind label → label ≠ .mangledName ∧ label ≠ .direction) ∧
    ∀ f c ps, (Function.parametersIn f c).outcome shown = .ok ps →
      (∀ p ∈ ps, ∃ name, p.name = .ok name) ∧
        (ps ≠ [] → ∃ b, Comment.firstBlock c = .ok b) := by
  constructor
  · intro flaw h
    cases ofSummary_of_eq_error h <;> simp [Malformation.kind]
  · intro f c ps h
    obtain ⟨-, hnames⟩ := Function.parametersIn_eq_ok h
    constructor
    · intro p hp
      obtain ⟨name, hname, -⟩ := hnames p hp
      exact ⟨name, hname⟩
    · intro hne
      obtain ⟨p, hp⟩ := List.exists_mem_of_ne_nil ps hne
      obtain ⟨name, -, hearliest⟩ := hnames p hp
      obtain ⟨first, hfirst, -⟩ := hearliest.firstBlock
      exact ⟨first, hfirst⟩

/-- Asked for its first block by itself, a comment without blocks has the flaw. -/
example : Comment.firstBlock ⟨⟨"FullComment", none, none, none, none, none, none⟩, rfl⟩ =
    .error (.malformed .noBlocks) := rfl

end TranslationUnit

end ParamDoc
