import ParamDoc.Proofs.Cli.Sources

/-!
# What reads standard input

A run reads one source, and what it leaves behind depends on that source alone. Standard input is
read if no file is named, or if the path is a dash, which may have slashes and dots after it. A
dash followed by a slash reads as the folder of that name elsewhere, so a path other than the dash
may stand for standard input.
-/

namespace ParamDoc.Cli

/-- A dash, and after it slashes with or without a dot. -/
def NamesInput (path : String) : Prop :=
  ∃ steps : List String, (∀ step ∈ steps, step = "/" ∨ step = "/.") ∧
    path = "-" ++ String.join steps

/-- No file is named, or the path names standard input. -/
def Options.ReadsInput (o : Options) : Prop :=
  ∀ path ∈ o.file, NamesInput path

section Paths

/-- Steps after a component are empty components and dots. -/
theorem componentsFrom_steps (piece : List Char) {steps : List String}
    (h : ∀ step ∈ steps, step = "/" ∨ step = "/.") :
    ∃ others, Source.componentsFrom piece (steps.flatMap String.toList) = piece.reverse :: others ∧
      ∀ other ∈ others, other = [] ∨ other = ['.'] := by
  induction steps generalizing piece with
  | nil => exact ⟨[], rfl, by simp⟩
  | cons step steps ih =>
    have hsteps : ∀ step ∈ steps, step = "/" ∨ step = "/." :=
      fun s hs => h s (List.mem_cons_of_mem step hs)
    rcases h step List.mem_cons_self with rfl | rfl
    · obtain ⟨others, hothers, hplain⟩ := ih [] hsteps
      refine ⟨[] :: others, ?_, by simpa using hplain⟩
      exact congrArg (piece.reverse :: ·) hothers
    · obtain ⟨others, hothers, hplain⟩ := ih ['.'] hsteps
      refine ⟨['.'] :: others, ?_, by simpa using hplain⟩
      exact congrArg (piece.reverse :: ·) hothers

theorem isDash_eq_true_iff {path : String} : Source.isDash path = true ↔ NamesInput path := by
  unfold Source.isDash Source.components
  constructor
  · intro h
    split at h
    · next others hcomponents =>
      have hplain : ∀ other ∈ others, other = [] ∨ other = ['.'] := by simpa using h
      refine ⟨others.map fun other => String.ofList ('/' :: other), ?_, ?_⟩
      · intro step hstep
        obtain ⟨other, hother, rfl⟩ := List.mem_map.mp hstep
        rcases hplain other hother with rfl | rfl
        · exact .inl rfl
        · exact .inr rfl
      · apply String.toList_injective
        have hpath := append_eq_of_componentsFrom hcomponents
        simpa [List.flatMap_map] using hpath
    · cases h
  · rintro ⟨steps, hsteps, rfl⟩
    obtain ⟨others, hothers, hplain⟩ := componentsFrom_steps ['-'] hsteps
    have hcomponents : Source.componentsFrom [] ("-" ++ String.join steps).toList =
        ['-'] :: others := by
      simpa [Source.componentsFrom] using hothers
    rw [hcomponents]
    simpa using hplain

theorem ofFile_of_readsInput {o : Options} (h : o.ReadsInput) :
    Source.ofFile o.file = .standardInput := by
  cases hfile : o.file with
  | none => rfl
  | some path => rw [Source.ofFile, if_pos (isDash_eq_true_iff.mpr (h path hfile))]

theorem ofFile_of_not_namesInput {path : String} (h : ¬NamesInput path) :
    Source.ofFile (some path) = .file path := by
  rw [Source.ofFile, if_neg (mt isDash_eq_true_iff.mp h)]

end Paths

section Dependence

variable {w w' : World} {o : Options}

theorem outcome_congr (hbytes : w'.bytes (.ofFile o.file) = w.bytes (.ofFile o.file))
    (hlog : w'.toLogSetting = w.toLogSetting) :
    (Request.run o).outcome w' = (Request.run o).outcome w := by
  have hload : load w' o = load w o := by
    unfold load
    dsimp only
    rw [World.read_congr hbytes]
  have hperform (shown : Topic → Bool) : perform w' o shown = perform w o shown := by
    unfold perform
    rw [hload]
  simp only [Request.outcome, hlog, hperform]

theorem errorOutput_of_content {f : Format} {text : String} {fault : Json.Fault}
    (hreads : o.ReadsInput) (hformat : f.Named o.format)
    (hdecode : Dump.decode text.toList = .error fault) (hreturns : w.Returns) :
    ((Request.run o).outcome { w with input := .ok text.toUTF8 }).errorOutput =
      (Failure.undecodable .standardInput fault).message := by
  have hread : Reads { w with input := .ok text.toUTF8 } o text := by
    rw [Reads, ofFile_of_readsInput hreads]
    rfl
  have hload : load { w with input := .ok text.toUTF8 } o =
      .error (.undecodable .standardInput fault) := by
    unfold load
    rw [Format.ofName?_eq_some_iff.mpr hformat]
    dsimp only
    rw [read_eq_ok_iff.mpr hread]
    dsimp only
    rw [hdecode, ofFile_of_readsInput hreads]
  obtain ⟨filter, hfilter⟩ := hreturns.exists_filter o.verbosity
  rw [outcome_of_filter (w := { w with input := .ok text.toUTF8 }) hfilter, perform, hload]
  exact String.empty_append

end Dependence

/-- A run reads standard input if no file is named, or if the path is a dash but for slashes and
dots after it; then no file counts, and what is read does count once the format is known. Otherwise
the named file is all that counts. -/
theorem run_of_source {args : List String} {o : Options} (h : Request.ofArguments args = .run o) :
    (o.ReadsInput → ∀ w w' : World, w'.input = w.input → w'.toLogSetting = w.toLogSetting →
      run w' args = run w args) ∧
    (o.ReadsInput → (∃ f : Format, f.Named o.format) → ∀ w : World, w.Returns →
      ∃ content content' : ByteArray, (run { w with input := .ok content } args).errorOutput ≠
        (run { w with input := .ok content' } args).errorOutput) ∧
    ∀ path, o.file = some path → ¬NamesInput path → ∀ w w' : World, w'.file path = w.file path →
      w'.toLogSetting = w.toLogSetting → run w' args = run w args := by
  simp only [run, h]
  refine ⟨fun hreads w w' hinput hlog => ?_, fun hreads hformat w hreturns => ?_,
    fun path hpath hnot w w' hfile hlog => ?_⟩
  · apply outcome_congr _ hlog
    rw [ofFile_of_readsInput hreads]
    exact hinput
  · obtain ⟨f, hf⟩ := hformat
    have hnothing : Dump.decode "".toList = .error ⟨.endInValue, 1, 0⟩ := by decide +kernel
    have hletter : Dump.decode "x".toList = .error ⟨.expectedValue, 1, 1⟩ := by decide +kernel
    refine ⟨"".toUTF8, "x".toUTF8, ?_⟩
    rw [errorOutput_of_content hreads hf hnothing hreturns,
      errorOutput_of_content hreads hf hletter hreturns]
    decide +kernel
  · apply outcome_congr _ hlog
    rw [hpath, ofFile_of_not_namesInput hnot]
    exact hfile

/-- Steps after a dash leave standard input the source, and steps before it do not. -/
theorem run_of_source_steps :
    Request.ofArguments ["--", "-/."] = .run ⟨some "-/.", "text", 0⟩ ∧ NamesInput "-/." ∧
      run { emptyUnit with file := fun _ => .error .denied } ["--", "-/."] =
        run emptyUnit ["--", "-/."] ∧
      Request.ofArguments ["./-"] = .run ⟨some "./-", "text", 0⟩ ∧ ¬NamesInput "./-" ∧
      run { emptyUnit with input := .error .denied } ["./-"] = run emptyUnit ["./-"] := by
  have hdash : Request.ofArguments ["--", "-/."] = .run ⟨some "-/.", "text", 0⟩ := by decide
  have hfile : Request.ofArguments ["./-"] = .run ⟨some "./-", "text", 0⟩ := by decide
  have hnames : NamesInput "-/." := isDash_eq_true_iff.mp (by decide)
  have hnot : ¬NamesInput "./-" := mt isDash_eq_true_iff.mpr (by decide)
  have hreads : Options.ReadsInput ⟨some "-/.", "text", 0⟩ := by
    rintro path ⟨⟩
    exact hnames
  exact ⟨hdash, hnames, (run_of_source hdash).1 hreads _ _ rfl rfl, hfile, hnot,
    (run_of_source hfile).2.2 "./-" rfl hnot _ _ rfl rfl⟩

/-- A path other than the dash may stand for standard input: a dash and a slash. -/
theorem not_forall_run_of_named :
    ¬∀ (args : List String) (o : Options) (path : String), Request.ofArguments args = .run o →
      o.file = some path → path ≠ "-" → ∀ (w : World) (input : Except ReadFault ByteArray),
        run { w with input := input } args = run w args := by
  intro h
  have hargs : Request.ofArguments ["--", "-/"] = .run ⟨some "-/", "text", 0⟩ := by decide
  have hrun := h _ _ "-/" hargs rfl (by decide) emptyUnit (.ok .empty)
  have herror : (run { emptyUnit with input := .ok .empty } ["--", "-/"]).error =
      (run emptyUnit ["--", "-/"]).error := congrArg Outcome.error hrun
  exact absurd herror (by decide +kernel)

end ParamDoc.Cli
