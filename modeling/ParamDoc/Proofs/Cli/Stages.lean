import ParamDoc.Proofs.Cli.Logging

/-!
# The stages of a run

A run goes through five stages: the format, reading, decoding, the kind of the root and the
summary. Each of them is a condition on the world and the options alone, so the complaint of the
first one that does not hold can be told without the stages after it.
-/

namespace ParamDoc

def Format.Named : Format → String → Prop
  | .text, name => name = "text" ∨ name = "txt"
  | .json, name => name = "json"

theorem Format.ofName?_eq_some_iff {name : String} {f : Format} :
    ofName? name = some f ↔ f.Named name := by
  unfold ofName?
  cases f with
  | text => split_ifs with h h' <;> simp_all [Named]
  | json =>
    by_cases hjson : name = "json"
    · subst hjson
      simp [Named]
    · split_ifs <;> simp [Named, hjson]

namespace Cli

section Meaning

/-- The bytes of the source are the encoding of a text. -/
def Reads (w : World) (o : Options) (text : String) : Prop :=
  w.bytes (.ofFile o.file) = .ok text.toUTF8

/-- The source gives no bytes, or they are the encoding of no text. -/
def Unreadable (w : World) (o : Options) (fault : ReadFault) : Prop :=
  w.bytes (.ofFile o.file) = .error fault ∨
    fault = .notUnicode ∧ ∃ bytes, w.bytes (.ofFile o.file) = .ok bytes ∧
      ∀ text : String, bytes ≠ text.toUTF8

def Decodes (w : World) (o : Options) (root : Node) : Prop :=
  ∃ text, Reads w o text ∧ Node.decode text = .ok root

/-- The dump is that of a unit, which has a summary. -/
def Summarizes (w : World) (o : Options) (s : Summary) : Prop :=
  ∃ u : TranslationUnit, Decodes w o u.node ∧ ∀ shown, u.summary.outcome shown = .ok s

inductive Stage where
  | format
  | reading
  | decoding
  | kind
  | summary
deriving DecidableEq

namespace Stage

def inOrder : List Stage :=
  [.format, .reading, .decoding, .kind, .summary]

def Passes (w : World) (o : Options) : Stage → Prop
  | .format => ∃ f : Format, f.Named o.format
  | .reading => ∃ text, Reads w o text
  | .decoding => ∃ root, Decodes w o root
  | .kind => ∃ root, Decodes w o root ∧ root.kind = "TranslationUnitDecl"
  | .summary => ∃ s, Summarizes w o s

/-- What is printed about a stage that is the first one not to pass. Below the name of the source
come the causes, with numbers if there are two. -/
def Complains (w : World) (o : Options) : Stage → String → Prop
  | .format, text =>
    text = lines ["Error: " ++ ("unknown format: " ++ o.format ++ ". Use text or json")]
  | .reading, text => ∃ fault, Unreadable w o fault ∧
      text = lines ["Error: " ++ ("failed to read " ++ (Source.ofFile o.file).name), "",
        "Caused by:", "    " ++ fault.message]
  | .decoding, text => ∃ content fault, Reads w o content ∧
      Node.decode content = .error (.undecodable fault) ∧
      text = lines ["Error: " ++ ("failed to parse " ++ (Source.ofFile o.file).name), "",
        "Caused by:", "    0: " ++ ("failed to decode AST JSON: " ++ fault.message),
        "    1: " ++ fault.message]
  | .kind, text => ∃ root, Decodes w o root ∧
      text = lines
        ["Error: " ++ ("expected a `TranslationUnitDecl` node, found `" ++ root.kind ++ "`")]
  | .summary, text => ∃ (u : TranslationUnit) (flaw : Flaw), Decodes w o u.node ∧
      (∀ shown, u.summary.outcome shown = .error flaw) ∧ text = lines ["Error: " ++ flaw.message]

end Stage

end Meaning

section Sources

variable {w : World} {o : Options} {text : String} {root : Node}

theorem read_eq_ok_iff : w.read (.ofFile o.file) = .ok text ↔ Reads w o text := by
  unfold World.read Reads
  cases w.bytes (.ofFile o.file) with
  | error fault => simp
  | ok bytes =>
    by_cases h : bytes.IsValidUTF8
    · simp only [String.fromUTF8?, dif_pos h]
      constructor
      · intro heq
        cases heq
        rfl
      · intro heq
        cases heq
        rfl
    · simp only [String.fromUTF8?, dif_neg h]
      constructor
      · intro heq
        cases heq
      · intro heq
        cases heq
        exact absurd text.isValidUTF8 h

theorem unreadable_of_read {fault : ReadFault} (h : w.read (.ofFile o.file) = .error fault) :
    Unreadable w o fault := by
  unfold World.read at h
  cases hbytes : w.bytes (.ofFile o.file) with
  | error other =>
    rw [hbytes] at h
    cases h
    exact .inl hbytes
  | ok bytes =>
    rw [hbytes] at h
    dsimp only at h
    split at h
    · cases h
    · next hnone =>
      cases h
      refine .inr ⟨rfl, bytes, hbytes, ?_⟩
      rintro text rfl
      have hvalid : text.toUTF8.IsValidUTF8 := text.isValidUTF8
      rw [String.fromUTF8?, dif_pos hvalid] at hnone
      cases hnone

theorem Reads.unique {text' : String} (h : Reads w o text) (h' : Reads w o text') :
    text' = text := by
  rw [← read_eq_ok_iff] at h h'
  exact Except.ok.inj (h'.symm.trans h)

theorem Decodes.unique {root' : Node} (h : Decodes w o root) (h' : Decodes w o root') :
    root' = root := by
  obtain ⟨text, htext, hroot⟩ := h
  obtain ⟨text', htext', hroot'⟩ := h'
  obtain rfl := htext.unique htext'
  exact Except.ok.inj (hroot'.symm.trans hroot)

end Sources

section Messages

theorem lines_append (texts others : List String) :
    lines (texts ++ others) = lines texts ++ lines others := by
  simp only [lines, List.map_append, String.join_append]

theorem causes_one (cause : String) :
    Failure.causes [cause] = lines ["", "Caused by:", "    " ++ cause] := by
  have hbelow : "\nCaused by:\n    " = lines ["", "Caused by:"] ++ "    " := by decide
  calc
    Failure.causes [cause] = "\nCaused by:\n    " ++ cause ++ "\n" := rfl
    _ = lines ["", "Caused by:"] ++ "    " ++ cause ++ "\n" := congrArg (· ++ cause ++ "\n") hbelow
    _ = lines ["", "Caused by:"] ++ ("    " ++ cause ++ "\n") := by simp only [String.append_assoc]
    _ = lines ["", "Caused by:", "    " ++ cause] := rfl

theorem causes_two (first second : String) :
    Failure.causes [first, second] =
      lines ["", "Caused by:", "    0: " ++ first, "    1: " ++ second] := by
  have hbelow : "\nCaused by:\n" = lines ["", "Caused by:"] := by decide
  calc
    Failure.causes [first, second] =
        "\nCaused by:\n" ++ lines ["    0: " ++ first, "    1: " ++ second] := rfl
    _ = lines ["", "Caused by:"] ++ lines ["    0: " ++ first, "    1: " ++ second] :=
      congrArg (· ++ _) hbelow
    _ = lines (["", "Caused by:"] ++ ["    0: " ++ first, "    1: " ++ second]) :=
      (lines_append _ _).symm

theorem message_eq {f : Failure} {top : String} {rest : List String} (h : f.chain = top :: rest) :
    f.message = lines ["Error: " ++ top] ++ Failure.causes rest := by
  simp only [Failure.message, h]
  rfl

theorem message_unknownFormat (name : String) :
    (Failure.unknownFormat name).message =
      lines ["Error: " ++ ("unknown format: " ++ name ++ ". Use text or json")] :=
  (message_eq rfl).trans String.append_empty

theorem message_unreadable (source : Source) (fault : ReadFault) :
    (Failure.unreadable source fault).message =
      lines ["Error: " ++ ("failed to read " ++ source.name), "", "Caused by:",
        "    " ++ fault.message] :=
  (message_eq rfl).trans <| (congrArg _ (causes_one _)).trans (lines_append _ _).symm

theorem message_undecodable (source : Source) (fault : Json.Fault) :
    (Failure.undecodable source fault).message =
      lines ["Error: " ++ ("failed to parse " ++ source.name), "", "Caused by:",
        "    0: " ++ ("failed to decode AST JSON: " ++ fault.message),
        "    1: " ++ fault.message] :=
  (message_eq rfl).trans <| (congrArg _ (causes_two _ _)).trans (lines_append _ _).symm

theorem message_flawed (flaw : Flaw) :
    (Failure.flawed flaw).message = lines ["Error: " ++ flaw.message] :=
  (message_eq rfl).trans String.append_empty

theorem message_unexpectedKind (kind : String) :
    (Flaw.unexpectedKind .unit kind).message =
      "expected a `TranslationUnitDecl` node, found `" ++ kind ++ "`" := by
  have hexpected : "expected a `" ++ Kind.unit.name ++ "` node, found `" =
      "expected a `TranslationUnitDecl` node, found `" := by decide
  exact congrArg (· ++ kind ++ "`") hexpected

end Messages

section Runs

variable (w : World) (o : Options)

theorem load_cases :
    (∃ f root, f.Named o.format ∧ Decodes w o root ∧ load w o = .ok (f, root)) ∨
      ∃ stage failure, FirstFails (Stage.Passes w o) Stage.inOrder stage ∧
        stage.Complains w o failure.message ∧ load w o = .error failure := by
  unfold load
  cases hformat : Format.ofName? o.format with
  | none =>
    refine .inr ⟨.format, .unknownFormat o.format, ⟨[], _, rfl, by simp, ?_⟩,
      message_unknownFormat _, rfl⟩
    rintro ⟨f, hf⟩
    rw [Format.ofName?_eq_some_iff.mpr hf] at hformat
    cases hformat
  | some f =>
    have hf := Format.ofName?_eq_some_iff.mp hformat
    have h1 : Stage.format.Passes w o := ⟨f, hf⟩
    dsimp only
    cases hread : w.read (.ofFile o.file) with
    | error fault =>
      refine .inr ⟨.reading, .unreadable (.ofFile o.file) fault, ⟨[.format], _, rfl, ?_, ?_⟩,
        ⟨fault, unreadable_of_read hread, message_unreadable _ _⟩, rfl⟩
      · simpa using h1
      · rintro ⟨text, htext⟩
        rw [read_eq_ok_iff.mpr htext] at hread
        cases hread
    | ok text =>
      have htext := read_eq_ok_iff.mp hread
      have h2 : Stage.reading.Passes w o := ⟨text, htext⟩
      dsimp only
      cases hdecode : Dump.decode text.toList with
      | error fault =>
        have hfault : Node.decode text = .error (.undecodable fault) :=
          Node.decode_eq_error_iff.mpr ⟨fault, rfl, hdecode⟩
        refine .inr ⟨.decoding, .undecodable (.ofFile o.file) fault,
          ⟨[.format, .reading], _, rfl, ?_, ?_⟩,
          ⟨text, fault, htext, hfault, message_undecodable _ _⟩, rfl⟩
        · simpa using ⟨h1, h2⟩
        · rintro ⟨root, text', htext', hroot⟩
          rw [htext.unique htext', hfault] at hroot
          cases hroot
      | ok root =>
        exact .inl ⟨f, root, hf, ⟨text, htext, Node.decode_eq_ok_iff.mpr hdecode⟩, rfl⟩

variable {w o}

/-- Once there is a tree it has a summary and all stages pass, or one of the last two does not. -/
theorem summarize_cases {f : Format} {root : Node} (hf : f.Named o.format)
    (hroot : Decodes w o root) :
    (∃ s, Summarizes w o s ∧ (∀ stage : Stage, stage.Passes w o) ∧
      (root.as .unit >>= TranslationUnit.foundSummary) = .ok s) ∨
    ∃ stage flaw, FirstFails (Stage.Passes w o) Stage.inOrder stage ∧
      stage.Complains w o (Failure.flawed flaw).message ∧
      (root.as .unit >>= TranslationUnit.foundSummary) = .error flaw := by
  have h1 : Stage.format.Passes w o := ⟨f, hf⟩
  have h2 : Stage.reading.Passes w o := hroot.imp fun _ h => h.1
  have h3 : Stage.decoding.Passes w o := ⟨root, hroot⟩
  by_cases hkind : root.kind = Kind.unit.name
  · have h4 : Stage.kind.Passes w o := ⟨root, hroot, hkind⟩
    have hsummary := TranslationUnit.outcome_summary ⟨root, hkind⟩
    rw [Node.as, dif_pos hkind, ok_bind]
    cases hfound : TranslationUnit.foundSummary ⟨root, hkind⟩ with
    | ok s =>
      simp only [hfound] at hsummary
      have hs : Summarizes w o s := ⟨⟨root, hkind⟩, hroot, hsummary⟩
      refine .inl ⟨s, hs, ?_, rfl⟩
      intro stage
      cases stage with
      | format => exact h1
      | reading => exact h2
      | decoding => exact h3
      | kind => exact h4
      | summary => exact ⟨s, hs⟩
    | error flaw =>
      simp only [hfound] at hsummary
      refine .inr ⟨.summary, flaw, ⟨[.format, .reading, .decoding, .kind], _, rfl, ?_, ?_⟩,
        ⟨⟨root, hkind⟩, flaw, hroot, hsummary, message_flawed _⟩, rfl⟩
      · simpa using ⟨h1, h2, h3, h4⟩
      · rintro ⟨s, ⟨node, _⟩, hnode, hs⟩
        obtain rfl : node = root := hroot.unique hnode
        cases (hs fun _ => true).symm.trans (hsummary fun _ => true)
  · rw [Node.as, dif_neg hkind]
    refine .inr ⟨.kind, .unexpectedKind .unit root.kind,
      ⟨[.format, .reading, .decoding], _, rfl, ?_, ?_⟩, ⟨root, hroot, ?_⟩, rfl⟩
    · simpa using ⟨h1, h2, h3⟩
    · rintro ⟨root', hroot', hkind'⟩
      rw [hroot.unique hroot'] at hkind'
      exact hkind hkind'
    · rw [message_flawed, message_unexpectedKind]

variable (w o)

/-- A run prints a summary if all stages pass, and otherwise fails as the first one that does not
complains. -/
theorem result_cases :
    (∃ f s, f.Named o.format ∧ Summarizes w o s ∧ (∀ stage : Stage, stage.Passes w o) ∧
      result w o = .ok (s.print f)) ∨
    ∃ stage failure, FirstFails (Stage.Passes w o) Stage.inOrder stage ∧
      stage.Complains w o failure.message ∧ result w o = .error failure := by
  rcases load_cases w o with ⟨f, root, hf, hroot, hload⟩ | ⟨stage, failure, hfirst, htext, hload⟩
  · rcases summarize_cases hf hroot with ⟨s, hs, hall, hsummary⟩ |
      ⟨stage, flaw, hfirst, htext, hflaw⟩
    · exact .inl ⟨f, s, hf, hs, hall, by simp only [result, hload, hsummary]⟩
    · exact .inr ⟨stage, .flawed flaw, hfirst, htext, by simp only [result, hload, hflaw]⟩
  · exact .inr ⟨stage, failure, hfirst, htext, by simp only [result, hload]⟩

end Runs

section Main

/-- Once the log is set up a run prints the summary whole and nothing else if all stages pass. If
not, it prints nothing but the complaint of the first stage that does not. All runs with the same
unknown format have the same outcome, whatever their sources hold. No stage counts if the log
library crashes. -/
theorem run_by_stages {w : World} {args : List String} {o : Options}
    (h : Request.ofArguments args = .run o) :
    (w.Returns → (∀ stage : Stage, stage.Passes w o) →
      ∃ f s, f.Named o.format ∧ Summarizes w o s ∧ (run w args).code = 0 ∧
        (run w args).output = s.print f ∧ (run w args).errorOutput = lines (run w args).log) ∧
    (w.Returns → (¬∀ stage : Stage, stage.Passes w o) →
      ∃ stage text, FirstFails (Stage.Passes w o) Stage.inOrder stage ∧ stage.Complains w o text ∧
        (run w args).code = 1 ∧ (run w args).output = "" ∧
        (run w args).errorOutput = lines (run w args).log ++ text) ∧
    (w.Returns → ¬Stage.format.Passes w o →
      ∀ (w' : World) (args' : List String) (o' : Options), Request.ofArguments args' = .run o' →
        w'.Returns → o'.format = o.format → run w' args' = run w args) ∧
    (¬w.Returns → run w args = ⟨101, "", [], crashText⟩) := by
  have hrun (hreturns : w.Returns) : run w args = .ofResult (run w args).log (result w o) := by
    rw [run, h]
    exact outcome_run w o hreturns
  refine ⟨fun hreturns hall => ?_, fun hreturns hnot => ?_,
    fun hreturns hformat w' args' o' h' hreturns' heq => ?_, run_of_crash h⟩
  · rcases result_cases w o with ⟨f, s, hf, hs, -, hresult⟩ | ⟨stage, _, hfirst, -, -⟩
    · have hrun := hrun hreturns
      rw [hresult] at hrun
      refine ⟨f, s, hf, hs, ?_⟩
      rw [hrun]
      exact ⟨rfl, rfl, String.append_empty⟩
    · obtain ⟨_, _, -, -, hfails⟩ := hfirst
      exact absurd (hall stage) hfails
  · rcases result_cases w o with ⟨_, _, -, -, hall, -⟩ | ⟨stage, failure, hfirst, htext, hresult⟩
    · exact absurd hall hnot
    · have hrun := hrun hreturns
      rw [hresult] at hrun
      refine ⟨stage, failure.message, hfirst, htext, ?_⟩
      rw [hrun]
      exact ⟨rfl, rfl, rfl⟩
  · have hnone : Format.ofName? o.format = none := by
      rw [Option.eq_none_iff_forall_ne_some]
      intro f hf
      exact hformat ⟨f, Format.ofName?_eq_some_iff.mp hf⟩
    obtain ⟨filter, hfilter⟩ := hreturns.exists_filter o.verbosity
    obtain ⟨filter', hfilter'⟩ := hreturns'.exists_filter o'.verbosity
    rw [run, run, h, h', outcome_of_filter hfilter, outcome_of_filter hfilter']
    simp only [perform, load, heq, hnone]

/-- The format is refused although the file is missing too, and as if standard input were read. -/
theorem run_unknownFormat_of_missing :
    Request.ofArguments ["-f", "html", "missing.json"] =
        .run ⟨some "missing.json", "html", 0⟩ ∧
      ¬Stage.format.Passes emptyUnit ⟨some "missing.json", "html", 0⟩ ∧
      ¬Stage.reading.Passes emptyUnit ⟨some "missing.json", "html", 0⟩ ∧
      (run emptyUnit ["-f", "html", "missing.json"]).errorOutput =
        "Error: unknown format: html. Use text or json\n" ∧
      (run emptyUnit ["missing.json"]).errorOutput =
        lines ["Error: failed to read missing.json", "", "Caused by:",
          "    No such file or directory (os error 2)"] ∧
      run emptyUnit ["-vf", "html"] = run emptyUnit ["-f", "html", "missing.json"] := by
  have hargs : Request.ofArguments ["-f", "html", "missing.json"] =
      .run ⟨some "missing.json", "html", 0⟩ := by decide
  have hformat : ¬Stage.format.Passes emptyUnit ⟨some "missing.json", "html", 0⟩ := by
    rintro ⟨f, hf⟩
    cases f <;> simp [Format.Named] at hf
  have hreturns : emptyUnit.Returns := by
    rintro text ⟨⟩
  refine ⟨hargs, hformat, ?_, by decide +kernel, by decide +kernel, ?_⟩
  · rintro ⟨text, htext⟩
    cases htext
  · exact (run_by_stages hargs).2.2.1 hreturns hformat _ _ ⟨none, "html", 1⟩ (by decide)
      hreturns rfl

end Main

end Cli

end ParamDoc
