import ParamDoc.Summary
import ParamDoc.Proofs.Pairing
import ParamDoc.Proofs.SizeTag

/-!
# Reports have no part in a summary

An event is made only if its topic is shown, and making it may meet a flaw, so runs that show
different topics do take different ways: the missing name of a function ends one of them inside a
report and another one after it. The queries behind a summary are given here as computations
without reports, which they agree with whatever is shown.
-/

namespace ParamDoc

/-- A report changes nothing if the flaw of its event would be met next anyway. -/
theorem Query.outcome_report_bind {α : Type} {topic : Topic} {event : Except Flaw Event}
    {rest : Except Flaw α} (shown : Topic → Bool)
    (h : ∀ flaw, event = .error flaw → rest = .error flaw) :
    ((report topic event).outcome shown >>= fun _ => rest) = rest := by
  rw [outcome_report]
  split_ifs
  · cases event with
    | ok e => rfl
    | error flaw =>
      rw [h flaw rfl]
      rfl
  · rfl

namespace Function

def foundComment (f : Function) : Except Flaw Comment :=
  match f.node.childrenOf .comment with
  | [] => .error (.missingComment (displayName f))
  | c :: _ => .ok c

/-- The warning about comments besides the first. -/
def otherComments (f : Function) : List Event :=
  match f.node.childrenOf .comment with
  | [] | [_] => []
  | _ :: others => [.extraComments (displayName f) (others.length + 1)]

theorem tells_comment (f : Function) : (comment f).Tells (otherComments f) (foundComment f) := by
  rw [comment_eq]
  unfold otherComments foundComment
  rcases f.node.childrenOf .comment with _ | ⟨c, _ | ⟨d, others⟩⟩
  · exact Query.tells_fail
  · exact Query.tells_pure c
  · exact (Query.tells_report (.extraComments _ _)).bind_silent (Query.tells_pure c)

/-- The first of the parameters, all of which are looked up. -/
def foundParameter (f : Function) (c : Comment) : Except Flaw Parameter := do
  match ← (f.node.childrenOf .parameter).mapM (resolve f c) with
  | [] => .error (.noParameters (displayName f))
  | p :: _ => .ok p

theorem tells_firstParameterIn (f : Function) (c : Comment) : (firstParameterIn f c).Tells
    ((pairedNames f c (f.node.childrenOf .parameter)).map .paired) (foundParameter f c) := by
  have htells := tells_pair (f := f) (c := c) (f.node.childrenOf .parameter)
  unfold firstParameterIn foundParameter
  cases hread : (f.node.childrenOf .parameter).mapM (resolve f c) with
  | error flaw =>
    rw [hread] at htells
    exact htells.bind_error _
  | ok ps =>
    rw [hread] at htells
    cases ps with
    | nil => exact htells.bind_silent Query.tells_fail
    | cons p rest => exact htells.bind_silent (Query.tells_pure p)

end Function

namespace Parameter

def foundSize (p : Parameter) : Except Flaw String := do
  let text ← Block.text p.block
  match SizeTag.all text.toList with
  | [] => .error (.sizeNotFound (p.node.node.name.getD "<anonymous>"))
  | size :: _ => .ok (String.ofList size)

/-- The event about size tags besides the first. -/
def otherSizes (p : Parameter) : List Event :=
  match Block.text p.block with
  | .error _ => []
  | .ok text => SizeTag.others text

theorem tells_size (p : Parameter) : p.size.Tells p.otherSizes p.foundSize := by
  unfold size otherSizes foundSize
  cases Block.text p.block with
  | error flaw => exact Query.tells_lift_bind_error rfl _
  | ok text =>
    refine Query.tells_lift_bind rfl ?_
    have htells := SizeTag.tells_find text
    rw [ok_bind]
    cases hall : SizeTag.all text.toList with
    | nil =>
      rw [hall] at htells
      exact htells.bind_silent Query.tells_fail
    | cons size others =>
      rw [hall] at htells
      exact htells.bind_silent (Query.tells_pure _)

end Parameter

namespace TranslationUnit

/-- The summary, part by part. -/
def foundSummary (u : TranslationUnit) : Except Flaw Summary := do
  let f ← firstFunction u
  let comment ← Function.foundComment f
  let p ← Function.foundParameter f comment
  let function ← Function.name f
  let parameter ← p.name
  let description ← Comment.text comment
  let block ← Comment.firstBlock comment
  let parameterDoc ← Block.text block
  let size ← p.foundSize
  return { function, parameter, description, parameterDoc, size }

/-- The names in the report of a summary are asked for right after it, in the same order. -/
theorem name_of_summarizing {α : Type} {f : Function} {p : Parameter} {flaw : Flaw}
    (h : summarizing f p = .error flaw) (rest : String → String → Except Flaw α) :
    (do let function ← Function.name f; let parameter ← p.name; rest function parameter) =
      .error flaw := by
  unfold summarizing at h
  cases hf : Function.name f with
  | error first =>
    rw [hf, error_bind] at h
    cases h
    rfl
  | ok function =>
    rw [hf, ok_bind] at h
    cases hp : p.name with
    | error second =>
      rw [hp, error_bind] at h
      cases h
      rfl
    | ok parameter =>
      rw [hp, ok_bind] at h
      cases h

/-- A unit has the same summary or the same flaw whatever is shown. -/
theorem outcome_summary (u : TranslationUnit) (shown : Topic → Bool) :
    u.summary.outcome shown = foundSummary u := by
  unfold summary foundSummary
  simp only [Query.outcome_bind, Query.outcome_lift, Query.outcome_pure,
    (Function.tells_comment _).outcome, (Function.tells_firstParameterIn _ _).outcome,
    (Parameter.tells_size _).outcome]
  refine bind_congr fun f => bind_congr fun c => bind_congr fun p => ?_
  exact Query.outcome_report_bind shown fun flaw h => name_of_summarizing h _

end TranslationUnit

end ParamDoc
