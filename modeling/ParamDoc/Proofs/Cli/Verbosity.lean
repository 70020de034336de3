import ParamDoc.Proofs.Cli.CommandLine
import ParamDoc.Proofs.Cli.Sources
import ParamDoc.Proofs.Summary.Events

/-!
# Verbosity

The events of a run are the same for all settings of the log, which only shows more or fewer of
them. Beyond three, further flags count for nothing, and so do all flags when the environment asks
for a filter.
-/

namespace ParamDoc.Cli

/-- The list is accepted with so many verbosity flags in it. -/
def HasFlags (args : List String) (flags : Nat) : Prop :=
  ∃ l : CommandLine, l.words = args ∧ l.Valid ∧ l.given.flags = flags

theorem exists_hasFlags {args : List String} {o : Options} (h : Request.ofArguments args = .run o) :
    ∃ flags, HasFlags args flags := by
  obtain ⟨l, hwords, hvalid, -⟩ := ofArguments_eq_run_iff.mp h
  exact ⟨_, l, hwords, hvalid, rfl⟩

/-- The counter of flags stops, and does not start again. -/
theorem HasFlags.verbosity_eq {args : List String} {flags : Nat} {o : Options}
    (hflags : HasFlags args flags) (h : Request.ofArguments args = .run o) :
    o.verbosity = min flags 255 := by
  obtain ⟨l, hwords, hvalid, rfl⟩ := hflags
  have hrun := ofArguments_eq_run_iff.mpr ⟨l, hwords, hvalid, rfl⟩
  rw [h] at hrun
  cases hrun
  rfl

section Filters

theorem shows_ofLevel (l : Level) (t : Topic) :
    (Filter.ofLevel l).shows t = true ↔ t.level.rank ≤ l.rank := by
  simp [Filter.shows, Filter.ofLevel, Directive.applies, Directive.mostSpecific?, Threshold.shows]

/-- Each flag adds a level, up to the last one. -/
theorem exists_ofVerbosity_eq (verbosity : Nat) :
    ∃ l : Level, Filter.ofVerbosity verbosity = .ofLevel l ∧ l.rank = min (verbosity + 2) 5 := by
  match verbosity with
  | 0 => exact ⟨.warn, rfl, rfl⟩
  | 1 => exact ⟨.info, rfl, rfl⟩
  | 2 => exact ⟨.debug, rfl, rfl⟩
  | n + 3 => exact ⟨.trace, rfl, by simp [Level.rank]⟩

theorem shows_ofVerbosity_iff (verbosity : Nat) (t : Topic) :
    (Filter.ofVerbosity verbosity).shows t = true ↔ t.level.rank ≤ min (verbosity + 2) 5 := by
  obtain ⟨l, hlevel, hrank⟩ := exists_ofVerbosity_eq verbosity
  rw [hlevel, shows_ofLevel, hrank]

end Filters

section Events

theorem exists_tells_summarize (root : Node) :
    ∃ events result, (summarize root).Tells events result := by
  cases hunit : root.as .unit with
  | error flaw => exact ⟨[], _, Query.tells_lift_bind_error hunit _⟩
  | ok unit =>
    obtain ⟨_, _, _, -, -, -, _, _, -, -, hsummary⟩ := TranslationUnit.concludes_summary unit
    have hdecoded := Query.tells_report (.decoded (TranslationUnit.functions unit).length)
    exact ⟨_, _, Query.tells_lift_bind hunit (hdecoded.bind hsummary)⟩

theorem exists_events_perform (w : World) (o : Options) : ∃ events : List Event, ∀ shown,
    (perform w o shown).1 = events.filter (shown ·.topic) := by
  unfold perform
  cases load w o with
  | error failure => exact ⟨[], fun _ => rfl⟩
  | ok loaded =>
    obtain ⟨format, root⟩ := loaded
    obtain ⟨events, result, htells⟩ := exists_tells_summarize root
    refine ⟨events, fun shown => ?_⟩
    dsimp only
    rw [htells shown]
    cases result <;> rfl

theorem log_of_unset (w : World) (o : Options) :
    ((Request.run o).outcome { w with logFilter := none }).log =
      (perform w o (Filter.ofVerbosity o.verbosity).shows).1.map Event.line := by
  have hfilter : LogSetting.filter? { w with logFilter := none } o.verbosity =
      some (.ofVerbosity o.verbosity) := rfl
  rw [outcome_of_filter hfilter]
  cases (perform { w with logFilter := none } o (Filter.ofVerbosity o.verbosity).shows).2 <;> rfl

end Events

/-- Of two runs on the same file in the same format the one with more verbosity flags shows all the
lines of the other in the same order, whatever the numbers of flags are, which count up to the
255th. With a filter in the environment the runs are the same. -/
theorem run_of_more_flags (w : World) {args args' : List String} {file : Option String}
    {format : String} {verbosity verbosity' : Nat}
    (h : Request.ofArguments args = .run ⟨file, format, verbosity⟩)
    (h' : Request.ofArguments args' = .run ⟨file, format, verbosity'⟩) :
    ((∃ flags, HasFlags args flags) ∧ ∀ flags, HasFlags args flags → verbosity = min flags 255) ∧
    (∀ flags flags', HasFlags args flags → HasFlags args' flags' → flags ≤ flags' →
      (run { w with logFilter := none } args).log.Sublist
        (run { w with logFilter := none } args').log) ∧
    ∀ filter : String, run { w with logFilter := some filter } args' =
      run { w with logFilter := some filter } args := by
  refine ⟨⟨exists_hasFlags h, fun flags hflags => hflags.verbosity_eq h⟩, ?_, ?_⟩
  · intro flags flags' hflags hflags' hle
    have hverbosity : verbosity = min flags 255 := hflags.verbosity_eq h
    have hverbosity' : verbosity' = min flags' 255 := hflags'.verbosity_eq h'
    obtain ⟨events, hevents⟩ := exists_events_perform w ⟨file, format, verbosity⟩
    have hevents' (shown : Topic → Bool) :
        (perform w ⟨file, format, verbosity'⟩ shown).1 = events.filter (shown ·.topic) :=
      hevents shown
    rw [run, run, h, h', log_of_unset, log_of_unset, hevents, hevents']
    refine List.Sublist.map Event.line (List.monotone_filter_right events fun e hshown => ?_)
    rw [shows_ofVerbosity_iff] at hshown ⊢
    dsimp only at hshown ⊢
    omega
  · intro filter
    rw [run, run, h, h']
    rfl

/-- The counter does not start again after 255 flags: then the line would be hidden, as it is
without flags. -/
theorem run_of_256_flags :
    HasFlags [] 0 ∧ HasFlags ["-" ++ flagLetters 256] 256 ∧
      (run { emptyUnit with logFilter := none } []).log = [] ∧
      (run { emptyUnit with logFilter := none } ["-" ++ flagLetters 256]).log =
        [" INFO decoded translation unit functions=0"] ∧
      (run { emptyUnit with logFilter := none } []).log.Sublist
        (run { emptyUnit with logFilter := none } ["-" ++ flagLetters 256]).log := by
  have hvalid : CommandLine.Valid ⟨[.flags 255], none⟩ :=
    CommandLine.valid_of_items (by simp [Item.Fits]) ⟨Nat.zero_le 1, Nat.zero_le 1⟩
  have hempty : CommandLine.Valid ⟨[], none⟩ :=
    CommandLine.valid_of_items (by simp) ⟨Nat.zero_le 1, Nat.zero_le 1⟩
  have hnone : HasFlags [] 0 := ⟨_, rfl, hempty, rfl⟩
  have hmany : HasFlags ["-" ++ flagLetters 256] 256 := ⟨_, rfl, hvalid, rfl⟩
  have hargs : Request.ofArguments [] = .run ⟨none, "text", 0⟩ := rfl
  have hargs' : Request.ofArguments ["-" ++ flagLetters 256] = .run ⟨none, "text", 255⟩ :=
    ofArguments_eq_run_iff.mpr ⟨_, rfl, hvalid, rfl⟩
  refine ⟨hnone, hmany, by decide +kernel, ?_,
    (run_of_more_flags emptyUnit hargs hargs').2.1 0 256 hnone hmany (by decide)⟩
  rw [run, hargs']
  decide +kernel

end ParamDoc.Cli
