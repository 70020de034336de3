import ParamDoc.Cli.Run
import ParamDoc.Proofs.Summary.Reports

/-!
# What the log has no part in

A run reports events on its way, and the log filter and the verbosity flags choose which of them
are made and printed. What a run ends with is a function of its source and its format. How the log
library reads a filter is left open here, but that it returns is assumed where a run is to go on.
-/

namespace ParamDoc.Cli

def result (w : World) (o : Options) : Except Failure String :=
  match load w o with
  | .error failure => .error failure
  | .ok (format, root) =>
    match root.as .unit >>= TranslationUnit.foundSummary with
    | .ok summary => .ok (summary.print format)
    | .error flaw => .error (.flawed flaw)

theorem outcome_summarize (root : Node) (shown : Topic → Bool) :
    (summarize root).outcome shown = root.as .unit >>= TranslationUnit.foundSummary := by
  unfold summarize
  rw [Query.outcome_bind, Query.outcome_lift]
  refine bind_congr fun u => ?_
  rw [Query.outcome_bind, Query.outcome_report_ok, ok_bind, TranslationUnit.outcome_summary]

theorem perform_snd (w : World) (o : Options) (shown : Topic → Bool) :
    (perform w o shown).2 = result w o := by
  unfold perform result
  cases load w o with
  | error failure => rfl
  | ok loaded =>
    obtain ⟨format, root⟩ := loaded
    have hfound := outcome_summarize root shown
    unfold Query.outcome at hfound
    dsimp only
    rw [← hfound]
    rcases (summarize root).run shown with ⟨events, flaw | summary⟩
    · rfl
    · rfl

/-- What a run with the given log leaves behind. -/
def Outcome.ofResult (log : List String) : Except Failure String → Outcome
  | .ok output => ⟨0, output, log, ""⟩
  | .error failure => ⟨1, "", log, failure.message⟩

/-- A run shows what its filter lets through. -/
theorem outcome_of_filter {w : World} {o : Options} {filter : Filter}
    (h : w.filter? o.verbosity = some filter) : (Request.run o).outcome w =
      .ofResult ((perform w o filter.shows).1.map Event.line) (perform w o filter.shows).2 := by
  simp only [Request.outcome, h]
  rcases perform w o filter.shows with ⟨events, failure | output⟩
  · rfl
  · rfl

section Library

variable {w : World} {o : Options}

/-- The log library returns when it reads the filter that the environment asks for: it gives a
filter or refuses the text. -/
def LogSetting.Returns (s : LogSetting) : Prop :=
  ∀ text, s.logFilter = some text → s.readFilter text ≠ .error .crash

theorem LogSetting.Returns.exists_filter {s : LogSetting} (h : s.Returns) (verbosity : Nat) :
    ∃ filter, s.filter? verbosity = some filter := by
  unfold filter?
  cases hrequested : s.logFilter with
  | none => exact ⟨_, rfl⟩
  | some text =>
    dsimp only
    split
    · exact ⟨_, rfl⟩
    · exact ⟨_, rfl⟩
    · next hcrash => exact absurd hcrash (h text hrequested)

theorem LogSetting.filter_eq_none_iff {s : LogSetting} {verbosity : Nat} :
    s.filter? verbosity = none ↔ ¬s.Returns := by
  constructor
  · intro hnone hreturns
    obtain ⟨filter, hfilter⟩ := hreturns.exists_filter verbosity
    rw [hnone] at hfilter
    cases hfilter
  · intro hnot
    unfold Returns at hnot
    push Not at hnot
    obtain ⟨text, hrequested, hcrash⟩ := hnot
    simp only [filter?, hrequested, hcrash]

/-- Nothing is done once the log library has crashed. -/
theorem run_of_crash {args : List String} (h : Request.ofArguments args = .run o)
    (hcrash : ¬w.Returns) : run w args = ⟨101, "", [], crashText⟩ := by
  rw [run, h]
  simp only [Request.outcome, LogSetting.filter_eq_none_iff.mpr hcrash]

/-- An equals sign is found after one byte of the trimmed text, which is within the first character
of the whole. -/
example : Filter.read "\u3000a=info" = .error .crash := by decide +kernel

/-- The log is all that a run leaves behind besides its result. -/
theorem outcome_run (w : World) (o : Options) (h : w.Returns) :
    (Request.run o).outcome w = .ofResult ((Request.run o).outcome w).log (result w o) := by
  obtain ⟨filter, hfilter⟩ := h.exists_filter o.verbosity
  rw [outcome_of_filter hfilter, perform_snd]
  cases result w o <;> rfl

end Library

/-- Runs on the same source in the same format differ in their logs only, whatever filters the
environment asks for, if the log library returns from reading them, and however many verbosity
flags there are. Their results would be the same for any other way to choose what is shown. A unit
has the same summary or the same flaw whichever of its events are shown. -/
theorem run_eq_of_logging (w : World) {args args' : List String} {file : Option String}
    {format : String} {verbosity verbosity' : Nat} (filter filter' : Option String)
    (h : Request.ofArguments args = .run ⟨file, format, verbosity⟩)
    (h' : Request.ofArguments args' = .run ⟨file, format, verbosity'⟩)
    (hreturns : LogSetting.Returns ⟨filter, w.readFilter⟩)
    (hreturns' : LogSetting.Returns ⟨filter', w.readFilter⟩) :
    run { w with logFilter := filter } args =
        { run { w with logFilter := filter' } args' with
          log := (run { w with logFilter := filter } args).log } ∧
      (∀ (o : Options) (shown shown' : Topic → Bool),
        (perform w o shown).2 = (perform w o shown').2) ∧
      ∀ (u : TranslationUnit) (shown shown' : Topic → Bool),
        u.summary.outcome shown = u.summary.outcome shown' := by
  refine ⟨?_, ?_, ?_⟩
  · have hresult : result { w with logFilter := filter } ⟨file, format, verbosity⟩ =
        result { w with logFilter := filter' } ⟨file, format, verbosity'⟩ := rfl
    unfold run
    rw [h, h', outcome_run { w with logFilter := filter } _ hreturns, hresult,
      outcome_run { w with logFilter := filter' } _ hreturns']
    cases result { w with logFilter := filter' } ⟨file, format, verbosity'⟩ <;> rfl
  · intro o shown shown'
    rw [perform_snd, perform_snd]
  · intro u shown shown'
    rw [TranslationUnit.outcome_summary, TranslationUnit.outcome_summary]

/-- A unit without functions on standard input, and no files. -/
def emptyUnit : World where
  logFilter := none
  file _ := .error .notFound
  input := .ok "\x7b\"kind\":\"TranslationUnitDecl\"\x7d".toUTF8

theorem run_emptyUnit :
    Request.ofArguments ["-vvv"] = .run ⟨none, "text", 3⟩ ∧
      Request.ofArguments ["-f", "text"] = .run ⟨none, "text", 0⟩ ∧
      emptyUnit.readFilter "[" = .error .refused ∧
      (run { emptyUnit with logFilter := none } ["-vvv"]).log =
        [" INFO decoded translation unit functions=0"] ∧
      (run { emptyUnit with logFilter := some "[" } ["-f", "text"]).log = [] ∧
      run { emptyUnit with logFilter := none } ["-vvv"] =
        { run { emptyUnit with logFilter := some "[" } ["-f", "text"] with
          log := (run { emptyUnit with logFilter := none } ["-vvv"]).log } := by
  have hloud : Request.ofArguments ["-vvv"] = .run ⟨none, "text", 3⟩ := by decide
  have hquiet : Request.ofArguments ["-f", "text"] = .run ⟨none, "text", 0⟩ := by decide
  have hrefused : emptyUnit.readFilter "[" = .error .refused := by decide +kernel
  have hunset : LogSetting.Returns ⟨none, emptyUnit.readFilter⟩ := by
    rintro text ⟨⟩
  have hreturns : LogSetting.Returns ⟨some "[", emptyUnit.readFilter⟩ := by
    rintro text ⟨⟩ hcrash
    rw [hrefused] at hcrash
    cases hcrash
  exact ⟨hloud, hquiet, hrefused, by decide +kernel, by decide +kernel,
    (run_eq_of_logging emptyUnit none (some "[") hloud hquiet hunset hreturns).1⟩

end ParamDoc.Cli
