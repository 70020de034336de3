import Mathlib.Tactic.SplitIfs
import ParamDoc.Proofs.Cli.Items

/-!
# Command lines

A command line is a list of items, after which two dashes may set the name of a file apart. What it
asks for is told from what its items give, without reading its words, and every argument list that
is accepted is such a command line.
-/

namespace ParamDoc.Cli

/-- Items in any order, and perhaps two dashes and the names of files after them. -/
structure CommandLine where
  items : List Item
  divided : Option (List String)

namespace CommandLine

def words (l : CommandLine) : List String :=
  l.items.flatMap Item.words ++ match l.divided with
    | none => []
    | some paths => "--" :: paths

def given (l : CommandLine) : Given :=
  (givenBy l.items).add ⟨0, [], l.divided.getD []⟩

/-- All items fit, files have names, and there is at most one format and one file besides what is
given already. -/
structure ValidAfter (g : Given) (l : CommandLine) : Prop where
  fits : ∀ i ∈ l.items, i.Fits
  named : ∀ path ∈ l.divided.getD [], path ≠ ""
  once : (g.add l.given).Once

def Valid (l : CommandLine) : Prop :=
  l.ValidAfter .nothing

def cons (i : Item) (l : CommandLine) : CommandLine :=
  { l with items := i :: l.items }

variable {g : Given} {l : CommandLine} {i : Item}

theorem words_cons : (cons i l).words = i.words ++ l.words := by
  simp only [words, cons, List.flatMap_cons, List.append_assoc]

theorem given_cons : (cons i l).given = i.given.add l.given :=
  Given.add_assoc _ _ _

theorem ValidAfter.cons (hfits : i.Fits) (h : l.ValidAfter (g.add i.given)) :
    (cons i l).ValidAfter g := by
  refine ⟨List.forall_mem_cons.mpr ⟨hfits, h.fits⟩, h.named, ?_⟩
  rw [given_cons, ← Given.add_assoc]
  exact h.once

theorem valid_of_items {items : List Item} (hfits : ∀ i ∈ items, i.Fits)
    (honce : (givenBy items).Once) : Valid ⟨items, none⟩ := by
  refine ⟨hfits, by simp, ?_⟩
  have hgiven : given ⟨items, none⟩ = givenBy items := Given.add_nothing _
  rw [Given.nothing_add, hgiven]
  exact honce

end CommandLine

section Reading

variable {g : Given}

theorem Given.Once.add_flags {n : Nat} (hg : g.Once) : (g.add ⟨n, [], []⟩).Once :=
  ⟨by simpa [Given.add] using hg.formats_le, by simpa [Given.add] using hg.files_le⟩

theorem Given.Once.add_format {n : Nat} {value : String} (hg : g.Once) (hnew : g.formats = []) :
    (g.add ⟨n, [value], []⟩).Once :=
  ⟨by simp [Given.add, hnew], by simpa [Given.add] using hg.files_le⟩

theorem Given.Once.add_file {path : String} (hg : g.Once) (hnew : g.files = []) :
    (g.add ⟨0, [], [path]⟩).Once :=
  ⟨by simpa [Given.add] using hg.formats_le, by simp [Given.add, hnew]⟩

theorem readArguments_paths {paths : List String} (hnamed : ∀ path ∈ paths, path ≠ "")
    (hg : (g.add ⟨0, [], paths⟩).Once) :
    readArguments .file g.draft paths = .run (g.add ⟨0, [], paths⟩).options := by
  cases paths with
  | nil =>
    rw [Given.add_nothing]
    rfl
  | cons path others =>
    have hfiles : g.files = [] :=
      eq_nil_of_length_append_le hg.files_le (List.mem_cons_self (a := path))
    have hlength := hg.files_le
    simp only [Given.add, List.length_append, List.length_cons] at hlength
    obtain rfl : others = [] := List.eq_nil_of_length_eq_zero (by omega)
    rw [readArguments, readArgument, Given.withFile?_draft, if_pos ⟨hfiles, hnamed path (by simp)⟩]
    rfl

theorem CommandLine.ValidAfter.readArguments {l : CommandLine} (h : l.ValidAfter g) :
    readArguments .anything g.draft l.words = .run (g.add l.given).options := by
  obtain ⟨items, divided⟩ := l
  have honce := h.once
  rw [given, ← Given.add_assoc] at honce ⊢
  rw [words, readArguments_items h.fits honce.left]
  cases divided with
  | none =>
    rw [Option.getD_none, Given.add_nothing]
    rfl
  | some paths => exact readArguments_paths h.named honce

end Reading

section Shapes

theorem shape_cases (arg : String) :
    (Shape.of arg = .plain ∧ Plain arg) ∨ (Shape.of arg = .divider ∧ arg = "--") ∨
      (∃ name, Shape.of arg = .long name none ∧ arg = "--" ++ name) ∨
      (∃ name value, Shape.of arg = .long name (some value) ∧
        arg = "--" ++ name ++ "=" ++ value) ∨
      ∃ letters, Shape.of arg = .letters letters ∧ letters ≠ [] ∧
        arg = "-" ++ String.ofList letters := by
  unfold Shape.of
  split
  · next h => exact .inr (.inl ⟨rfl, String.toList_injective h⟩)
  · next rest _ h =>
    have hrest := List.takeWhile_append_dropWhile (p := fun c => decide (c ≠ '=')) (l := rest)
    refine .inr (.inr ?_)
    split
    · next hdrop => exact .inl ⟨_, rfl, String.toList_injective (by simp [h])⟩
    · next c value hdrop =>
      have hc : c = '=' := by
        have hhead := List.head?_dropWhile_not (fun c => decide (c ≠ '=')) rest
        rw [hdrop] at hhead
        simpa using hhead
      rw [hdrop, hc] at hrest
      exact .inr (.inl ⟨_, _, rfl, String.toList_injective (by simpa [h] using hrest.symm)⟩)
  · next c rest _ h =>
    exact .inr (.inr (.inr (.inr ⟨_, rfl, by simp, String.toList_injective (by simp [h])⟩)))
  · next hdivider hlong hletters =>
    refine .inl ⟨rfl, ?_⟩
    rcases hlist : arg.toList with _ | ⟨c, _ | ⟨c', rest⟩⟩
    · exact .inr (by simp [hlist])
    · by_cases hc : c = '-'
      · exact .inl (String.toList_injective (by simp [hlist, hc]))
      · exact .inr (by simp [hlist, hc])
    · refine .inr ?_
      rw [hlist]
      intro h
      obtain rfl : c = '-' := by simpa using h
      exact hletters _ _ hlist

end Shapes

section Understanding

variable {g : Given} {arg : String} {args : List String} {expecting : Expecting} {d : Draft}
  {o : Options}

theorem ofDraft?_ne_run (d? : Option Draft) (o : Options) :
    Progress.ofDraft? d? ≠ .stop (.run o) := by
  cases d? <;> simp [Progress.ofDraft?]

theorem readLetters_ne_run (d : Draft) (letters : List Char) (o : Options) :
    readLetters d letters ≠ .stop (.run o) := by
  fun_induction readLetters d letters with
  | case2 d rest ih => exact ih
  | case6 d value => exact ofDraft?_ne_run _ o
  | case7 d value => exact ofDraft?_ne_run _ o
  | _ => simp

/-- No single argument starts a run. -/
theorem readArgument_ne_run (expecting : Expecting) (d : Draft) (arg : String) (o : Options) :
    readArgument expecting d arg ≠ .stop (.run o) := by
  unfold readArgument
  split
  · split <;> simp
  · exact ofDraft?_ne_run _ o
  · simp
  · exact ofDraft?_ne_run _ o
  · simp
  · unfold readLong
    split
    · exact ofDraft?_ne_run _ o
    all_goals simp
  · exact readLetters_ne_run d _ o

theorem next_of_readArguments {rest : List String}
    (h : readArguments expecting d (arg :: rest) = .run o) : ∃ expecting' d',
      readArgument expecting d arg = .next expecting' d' ∧
        readArguments expecting' d' rest = .run o := by
  rw [readArguments] at h
  split at h
  · next expecting' d' hnext => exact ⟨expecting', d', hnext, h⟩
  · next request hstop =>
    subst h
    exact absurd hstop (readArgument_ne_run expecting d arg o)

theorem of_withFormat? {value : String}
    (h : Progress.ofDraft? (g.draft.withFormat? value) = .next expecting d) :
    g.formats = [] ∧ expecting = .anything ∧ d = (g.add ⟨0, [value], []⟩).draft := by
  rw [Given.withFormat?_draft] at h
  split_ifs at h with hnew
  · cases h
    exact ⟨hnew, rfl, rfl⟩
  · cases h

theorem of_withFile? {path : String}
    (h : Progress.ofDraft? (g.draft.withFile? path) = .next expecting d) :
    (g.files = [] ∧ path ≠ "") ∧ expecting = .anything ∧ d = (g.add ⟨0, [], [path]⟩).draft := by
  rw [Given.withFile?_draft] at h
  split_ifs at h with hnew
  · cases h
    exact ⟨hnew, rfl, rfl⟩
  · cases h

/-- After two dashes there is nothing but names of files. -/
theorem paths_of_readArguments (hg : g.Once) (h : readArguments .file g.draft args = .run o) :
    (∀ path ∈ args, path ≠ "") ∧ (g.add ⟨0, [], args⟩).Once ∧
      (g.add ⟨0, [], args⟩).options = o := by
  induction args generalizing g with
  | nil =>
    cases h
    rw [Given.add_nothing]
    exact ⟨by simp, hg, rfl⟩
  | cons path args ih =>
    rw [readArguments, readArgument, Given.withFile?_draft] at h
    by_cases hnew : g.files = [] ∧ path ≠ ""
    · rw [if_pos hnew] at h
      have hadd : (g.add ⟨0, [], [path]⟩).add ⟨0, [], args⟩ = g.add ⟨0, [], path :: args⟩ :=
        Given.add_assoc _ _ _
      obtain ⟨hnamed, honce, heq⟩ := ih (hg.add_file hnew.1) h
      rw [hadd] at honce heq
      exact ⟨List.forall_mem_cons.mpr ⟨hnew.2, hnamed⟩, honce, heq⟩
    · rw [if_neg hnew] at h
      cases h

/-- A format option is followed by its value, and is the only one. -/
theorem value_of_readArguments (h : readArguments .format g.draft args = .run o) :
    ∃ value rest, args = value :: rest ∧ Plain value ∧ g.formats = [] ∧
      readArguments .anything (g.add ⟨0, [value], []⟩).draft rest = .run o := by
  cases args with
  | nil => cases h
  | cons value rest =>
    obtain ⟨expecting, d, hnext, hrest⟩ := next_of_readArguments h
    refine ⟨value, rest, rfl, ?_⟩
    unfold readArgument at hnext
    rcases shape_cases value with ⟨hshape, hplain⟩ | ⟨hshape, -⟩ | ⟨_, hshape, -⟩ |
      ⟨_, _, hshape, -⟩ | ⟨_, hshape, -⟩
    · rw [hshape] at hnext
      obtain ⟨hnew, rfl, rfl⟩ := of_withFormat? hnext
      exact ⟨hplain, hnew, hrest⟩
    all_goals
      rw [hshape] at hnext
      cases hnext

/-- What an argument can be read as, and what it leads to: an item, the first word of a format
option, or two dashes. -/
inductive ReadAs (g : Given) (arg : String) : Expecting → Draft → Prop
  | item (i : Item) : i.Fits → i.words = [arg] → (g.add i.given).Once →
      ReadAs g arg .anything (g.add i.given).draft
  | option (spelling : Spelling) : (∀ value, spelling.words value = [arg, value]) →
      (∀ value, Plain value → spelling.Fits value) →
      ReadAs g arg .format (g.add ⟨spelling.flags, [], []⟩).draft
  | divider : arg = "--" → ReadAs g arg .file g.draft

theorem flagLetters_append_cons (n : Nat) (letters : List Char) :
    flagLetters n ++ String.ofList ('v' :: letters) =
      flagLetters (n + 1) ++ String.ofList letters := by
  apply String.toList_injective
  simp [flagLetters, List.replicate_succ']

theorem readAs_of_spelling (hg : g.Once) {arg value : String} {spelling : Spelling}
    (hfits : spelling.Fits value) (hwords : spelling.words value = [arg])
    (h : Progress.ofDraft? ((g.add ⟨spelling.flags, [], []⟩).draft.withFormat? value) =
      .next expecting d) : ReadAs g arg expecting d := by
  obtain ⟨hnew, rfl, rfl⟩ := of_withFormat? h
  have hformats : g.formats = [] := (List.append_eq_nil_iff.mp hnew).1
  have hadd : (g.add ⟨spelling.flags, [], []⟩).add ⟨0, [value], []⟩ =
      g.add ⟨spelling.flags, [value], []⟩ := Given.add_assoc _ _ _
  rw [hadd]
  exact .item (.format spelling value) hfits hwords (hg.add_format hformats)

/-- Letters that are read come after those of the flags before them, and are those of more flags or
of a format option. -/
theorem readAs_of_readLetters (hg : g.Once) {n : Nat} {letters : List Char}
    (hne : n ≠ 0 ∨ letters ≠ [])
    (h : readLetters (g.add ⟨n, [], []⟩).draft letters = .next expecting d) :
    ReadAs g ("-" ++ flagLetters n ++ String.ofList letters) expecting d := by
  have hadd (n : Nat) : (g.add ⟨n, [], []⟩).add ⟨1, [], []⟩ = g.add ⟨n + 1, [], []⟩ :=
    Given.add_assoc _ _ _
  induction letters generalizing n with
  | nil =>
    cases h
    obtain ⟨others, rfl⟩ := Nat.exists_eq_succ_of_ne_zero (hne.resolve_right (not_not_intro rfl))
    exact .item (.flags others) trivial (by simp [Item.words]) hg.add_flags
  | cons c letters ih =>
    unfold readLetters at h
    split at h
    · next heq => cases heq
    · next rest heq =>
      obtain ⟨rfl, rfl⟩ := List.cons.inj heq
      rw [Given.louder_draft, hadd] at h
      rw [String.append_assoc, flagLetters_append_cons, ← String.append_assoc]
      exact ih (.inl (Nat.succ_ne_zero n)) h
    · cases h
    · cases h
    · next heq =>
      cases h
      rw [heq]
      exact .option (.short n) (fun _ => rfl) (fun _ hplain => hplain)
    · next value heq =>
      rw [heq]
      have hfits : Spelling.Fits (String.ofList value) (.shortEquals n) := trivial
      refine readAs_of_spelling hg hfits ?_ h
      rw [Spelling.words, List.singleton_inj]
      exact String.toList_injective (by simp)
    · next value hnil hequals heq =>
      have hfits : Spelling.Fits (String.ofList value) (.joined n) := by
        refine ⟨mt String.ofList_eq_empty_iff.mp hnil, ?_⟩
        rw [String.toList_ofList]
        intro hhead
        obtain ⟨rest, rfl⟩ := List.head?_eq_some_iff.mp hhead
        exact hequals rest rfl
      rw [heq]
      refine readAs_of_spelling hg hfits ?_ h
      rw [Spelling.words, List.singleton_inj]
      exact String.toList_injective (by simp)
    · cases h

theorem readAs_of_readLong (hg : g.Once) {name : String} {value : Option String}
    (h : readLong g.draft name value = .next expecting d) :
    ReadAs g (value.elim ("--" ++ name) ("--" ++ name ++ "=" ++ ·)) expecting d := by
  unfold readLong at h
  split at h
  · next value =>
    obtain ⟨hnew, rfl, rfl⟩ := of_withFormat? h
    exact .item (.format .longEquals value) trivial rfl (hg.add_format hnew)
  · cases h
    have hoption : ReadAs g "--format" .format (g.add .nothing).draft :=
      .option .long (fun _ => rfl) (fun _ hplain => hplain)
    rwa [Given.add_nothing] at hoption
  · cases h
    rw [Given.louder_draft]
    exact .item .verbose trivial rfl hg.add_flags
  all_goals cases h

theorem readAs_of_readArgument (hg : g.Once)
    (h : readArgument .anything g.draft arg = .next expecting d) : ReadAs g arg expecting d := by
  unfold readArgument at h
  rcases shape_cases arg with ⟨hshape, hplain⟩ | ⟨hshape, rfl⟩ | ⟨name, hshape, rfl⟩ |
    ⟨name, value, hshape, rfl⟩ | ⟨letters, hshape, hne, rfl⟩
  · rw [hshape] at h
    obtain ⟨⟨hnew, hne⟩, rfl, rfl⟩ := of_withFile? h
    exact .item (.file arg) ⟨hne, hplain⟩ rfl (hg.add_file hnew)
  · rw [hshape] at h
    cases h
    exact .divider rfl
  · rw [hshape] at h
    exact readAs_of_readLong hg h
  · rw [hshape] at h
    exact readAs_of_readLong hg h
  · rw [hshape] at h
    rw [← Given.add_nothing g] at h
    exact readAs_of_readLetters hg (.inr hne) h

end Understanding

section Acceptance

variable {g : Given} {args : List String} {o : Options}

theorem exists_line_of_readArguments (hg : g.Once)
    (h : readArguments .anything g.draft args = .run o) :
    ∃ l : CommandLine, l.words = args ∧ l.ValidAfter g ∧ (g.add l.given).options = o := by
  -- the induction is on the number of arguments, as an item may take two of them
  induction hlength : args.length using Nat.strongRecOn generalizing g args with
  | _ length ih =>
  subst hlength
  cases args with
  | nil =>
    cases h
    have hadd : g.add (CommandLine.given ⟨[], none⟩) = g := Given.add_nothing g
    exact ⟨⟨[], none⟩, rfl, ⟨by simp, by simp, by rwa [hadd]⟩, by rw [hadd]; rfl⟩
  | cons arg rest =>
    obtain ⟨expecting, d, hnext, hrest⟩ := next_of_readArguments h
    cases readAs_of_readArgument hg hnext with
    | item i hfits hwords honce =>
      obtain ⟨l, rfl, hvalid, rfl⟩ := ih _ (by simp) honce hrest rfl
      refine ⟨l.cons i, ?_, hvalid.cons hfits, ?_⟩
      · rw [CommandLine.words_cons, hwords]
        rfl
      · rw [CommandLine.given_cons, Given.add_assoc]
    | option spelling hwords hfits =>
      obtain ⟨value, others, rfl, hplain, hnew, hothers⟩ := value_of_readArguments hrest
      have hadd : (g.add ⟨spelling.flags, [], []⟩).add ⟨0, [value], []⟩ =
          g.add (Item.given (.format spelling value)) := Given.add_assoc _ _ _
      have hformats : g.formats = [] := (List.append_eq_nil_iff.mp hnew).1
      rw [hadd] at hothers
      obtain ⟨l, rfl, hvalid, rfl⟩ :=
        ih _ (by simp only [List.length_cons]; omega) (hg.add_format hformats) hothers rfl
      refine ⟨l.cons (.format spelling value), ?_, hvalid.cons (hfits value hplain), ?_⟩
      · rw [CommandLine.words_cons, Item.words, hwords]
        rfl
      · rw [CommandLine.given_cons, Given.add_assoc]
        rfl
    | divider hdivider =>
      subst hdivider
      obtain ⟨hnamed, honce, rfl⟩ := paths_of_readArguments hg hrest
      exact ⟨⟨[], some rest⟩, rfl, ⟨by simp, hnamed, honce⟩, rfl⟩

/-- The argument lists that are accepted are the valid command lines. -/
theorem ofArguments_eq_run_iff : Request.ofArguments args = .run o ↔
    ∃ l : CommandLine, l.words = args ∧ l.Valid ∧ l.given.options = o := by
  have hnothing : Given.nothing.Once := ⟨Nat.zero_le 1, Nat.zero_le 1⟩
  constructor
  · intro h
    obtain ⟨l, hwords, hvalid, hoptions⟩ := exists_line_of_readArguments hnothing h
    rw [Given.nothing_add] at hoptions
    exact ⟨l, hwords, hvalid, hoptions⟩
  · rintro ⟨l, rfl, hvalid, rfl⟩
    have hread := hvalid.readArguments
    rwa [Given.nothing_add] at hread

end Acceptance

end ParamDoc.Cli
