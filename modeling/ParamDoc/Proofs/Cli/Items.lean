import ParamDoc.Cli.Run

/-!
# Items of a command line

Verbosity flags, a format option and the name of a file are each spelled in one of several ways.
They are described here by their words and by what they give, apart from the reading of words: what
a list of them asks for depends neither on their order nor on their spelling.
-/

namespace ParamDoc.Cli

/-- Before the only element of a list there is none. -/
theorem eq_nil_of_length_append_le {α : Type} {before after : List α} {a : α}
    (h : (before ++ after).length ≤ 1) (ha : a ∈ after) : before = [] := by
  have hpos := List.length_pos_of_mem ha
  rw [List.length_append] at h
  exact List.eq_nil_of_length_eq_zero (by omega)

/-- What arguments give: a number of flags, and formats and files in order. -/
structure Given where
  flags : Nat
  formats : List String
  files : List String

namespace Given

abbrev nothing : Given := ⟨0, [], []⟩

def add (g h : Given) : Given :=
  ⟨g.flags + h.flags, g.formats ++ h.formats, g.files ++ h.files⟩

structure Once (g : Given) : Prop where
  formats_le : g.formats.length ≤ 1
  files_le : g.files.length ≤ 1

/-- What is asked for. Flags past the 255th do not count. -/
def options (g : Given) : Options :=
  ⟨g.files.head?, g.formats.head?.getD "text", min g.flags 255⟩

def draft (g : Given) : Draft :=
  ⟨g.files.head?, g.formats.head?, min g.flags maxVerbosity⟩

variable {g h : Given}

@[simp] theorem add_nothing (g : Given) : g.add nothing = g := by
  simp [add]

@[simp] theorem nothing_add (g : Given) : nothing.add g = g := by
  simp [add]

theorem add_assoc (g h k : Given) : (g.add h).add k = g.add (h.add k) := by
  simp [add, Nat.add_assoc]

theorem Once.left (hgh : (g.add h).Once) : g.Once :=
  ⟨Nat.le_trans (List.sublist_append_left _ _).length_le hgh.formats_le,
    Nat.le_trans (List.sublist_append_left _ _).length_le hgh.files_le⟩

theorem louder_draft (g : Given) : g.draft.louder = (g.add ⟨1, [], []⟩).draft := by
  simp only [Draft.louder, draft, add, maxVerbosity, List.append_nil, Draft.mk.injEq, true_and]
  omega

theorem withFormat?_draft (g : Given) (value : String) : g.draft.withFormat? value =
    if g.formats = [] then some (g.add ⟨0, [value], []⟩).draft else none := by
  obtain ⟨flags, formats, files⟩ := g
  cases formats <;> simp [Draft.withFormat?, draft, add]

theorem withFile?_draft (g : Given) (path : String) : g.draft.withFile? path =
    if g.files = [] ∧ path ≠ "" then some (g.add ⟨0, [], [path]⟩).draft else none := by
  obtain ⟨flags, formats, files⟩ := g
  cases files with
  | nil => by_cases h : path = "" <;> simp [Draft.withFile?, draft, add, h]
  | cons first others => simp [Draft.withFile?, draft]

end Given

section Words

/-- No option: a lone dash, or what does not begin with one. -/
def Plain (arg : String) : Prop :=
  arg = "-" ∨ arg.toList.head? ≠ some '-'

def flagLetters (flags : Nat) : String :=
  String.ofList (List.replicate flags 'v')

/-- How a format is given. The letter of the option may come after those of flags. -/
inductive Spelling where
  | long
  | longEquals
  | short (flags : Nat)
  | shortEquals (flags : Nat)
  | joined (flags : Nat)

namespace Spelling

def flags : Spelling → Nat
  | long | longEquals => 0
  | short flags | shortEquals flags | joined flags => flags

def words (value : String) : Spelling → List String
  | long => ["--format", value]
  | longEquals => ["--format=" ++ value]
  | short flags => ["-" ++ flagLetters flags ++ "f", value]
  | shortEquals flags => ["-" ++ flagLetters flags ++ "f=" ++ value]
  | joined flags => ["-" ++ flagLetters flags ++ "f" ++ value]

def Fits (value : String) : Spelling → Prop
  | long | short _ => Plain value
  | longEquals | shortEquals _ => True
  | joined _ => value ≠ "" ∧ value.toList.head? ≠ some '='

end Spelling

inductive Item where
  /-- Flags behind one dash, one more than the number. -/
  | flags (others : Nat)
  | verbose
  | format (spelling : Spelling) (value : String)
  | file (path : String)

namespace Item

def words : Item → List String
  | flags others => ["-" ++ flagLetters (others + 1)]
  | verbose => ["--verbose"]
  | format spelling value => spelling.words value
  | file path => [path]

def given : Item → Given
  | flags others => ⟨others + 1, [], []⟩
  | verbose => ⟨1, [], []⟩
  | format spelling value => ⟨spelling.flags, [value], []⟩
  | file path => ⟨0, [], [path]⟩

def Fits : Item → Prop
  | flags _ | verbose => True
  | format spelling value => spelling.Fits value
  | file path => path ≠ "" ∧ Plain path

end Item

/-- What items give together. -/
def givenBy (items : List Item) : Given :=
  items.foldr (fun i g => i.given.add g) .nothing

end Words

section Shapes

variable {arg : String}

theorem shape_of_plain (h : Plain arg) : Shape.of arg = .plain := by
  rcases h with rfl | h
  · rfl
  · unfold Shape.of
    split <;> simp_all

theorem shape_of_letters {letters : List Char} (h : arg.toList = '-' :: letters)
    (hne : letters ≠ []) (hdash : letters.head? ≠ some '-') : Shape.of arg = .letters letters := by
  obtain ⟨c, rest, rfl⟩ := List.exists_cons_of_ne_nil hne
  unfold Shape.of
  rw [h]
  split <;> simp_all

theorem shape_format (value : String) :
    Shape.of ("--format=" ++ value) = .long "format" (some value) := by
  have h : ("--format=" ++ value).toList =
      '-' :: '-' :: ("format".toList ++ '=' :: value.toList) := by simp
  unfold Shape.of
  rw [h]
  simp

end Shapes

section Reading

variable {g : Given} {arg value : String}

theorem readArguments_cons {expecting expecting' : Expecting} {d d' : Draft}
    (h : readArgument expecting d arg = .next expecting' d') (rest : List String) :
    readArguments expecting d (arg :: rest) = readArguments expecting' d' rest := by
  rw [readArguments, h]

theorem readLetters_flags (g : Given) (n : Nat) (letters : List Char) :
    readLetters g.draft (List.replicate n 'v' ++ letters) =
      readLetters (g.add ⟨n, [], []⟩).draft letters := by
  induction n generalizing g with
  | zero =>
    rw [Given.add_nothing]
    rfl
  | succ n ih =>
    have hadd : (g.add ⟨1, [], []⟩).add ⟨n, [], []⟩ = g.add ⟨n + 1, [], []⟩ := by
      simp [Given.add, Nat.add_assoc, Nat.add_comm 1]
    rw [List.replicate_succ, List.cons_append, readLetters, Given.louder_draft, ih, hadd]

theorem readArgument_letters (n : Nat) (letters : List Char)
    (h : arg.toList = '-' :: (List.replicate n 'v' ++ letters))
    (hne : List.replicate n 'v' ++ letters ≠ []) (hdash : letters.head? ≠ some '-') :
    readArgument .anything g.draft arg = readLetters (g.add ⟨n, [], []⟩).draft letters := by
  have hhead : (List.replicate n 'v' ++ letters).head? ≠ some '-' := by
    cases n with
    | zero => exact hdash
    | succ n => simp [List.replicate_succ]
  unfold readArgument
  rw [shape_of_letters h hne hhead]
  exact readLetters_flags g n letters

theorem readLetters_joined {d : Draft} (hne : value ≠ "")
    (hequals : value.toList.head? ≠ some '=') :
    readLetters d ('f' :: value.toList) = .ofDraft? (d.withFormat? value) := by
  obtain ⟨c, rest, hvalue⟩ := List.exists_cons_of_ne_nil (mt String.toList_eq_nil_iff.mp hne)
  have hc : c ≠ '=' := by
    rintro rfl
    simp [hvalue] at hequals
  have hback : String.ofList (c :: rest) = value := by rw [← hvalue, String.ofList_toList]
  rw [hvalue, readLetters, hback]
  all_goals simp [hc]

theorem ofDraft?_withFormat? (hg : g.formats = []) :
    Progress.ofDraft? (g.draft.withFormat? value) =
      .next .anything (g.add ⟨0, [value], []⟩).draft := by
  rw [Given.withFormat?_draft, if_pos hg, Progress.ofDraft?]

theorem readArguments_value (hg : g.formats = []) (hplain : Plain value) (rest : List String) :
    readArguments .format g.draft (value :: rest) =
      readArguments .anything (g.add ⟨0, [value], []⟩).draft rest := by
  refine readArguments_cons ?_ rest
  unfold readArgument
  rw [shape_of_plain hplain]
  exact ofDraft?_withFormat? hg

theorem readArguments_format {spelling : Spelling} (hg : g.formats = [])
    (h : spelling.Fits value) (rest : List String) :
    readArguments .anything g.draft (spelling.words value ++ rest) =
      readArguments .anything (g.add ⟨spelling.flags, [value], []⟩).draft rest := by
  -- with flags in front the value comes after them
  have hafter (n : Nat) : (g.add ⟨n, [], []⟩).add ⟨0, [value], []⟩ = g.add ⟨n, [value], []⟩ :=
    Given.add_assoc g _ _
  have hformats (n : Nat) : (g.add ⟨n, [], []⟩).formats = [] := by simp [Given.add, hg]
  cases spelling with
  | long =>
    have hword : readArgument .anything g.draft "--format" = .next .format g.draft := rfl
    exact (readArguments_cons hword _).trans (readArguments_value hg h rest)
  | longEquals =>
    refine readArguments_cons ?_ rest
    unfold readArgument
    rw [shape_format]
    exact ofDraft?_withFormat? hg
  | short n =>
    have hword : readArgument .anything g.draft ("-" ++ flagLetters n ++ "f") =
        .next .format (g.add ⟨n, [], []⟩).draft :=
      readArgument_letters n ['f'] (by simp [flagLetters]) (by simp) (by simp)
    have hvalue := readArguments_value (hformats n) h rest
    rw [hafter] at hvalue
    exact (readArguments_cons hword _).trans hvalue
  | shortEquals n =>
    refine readArguments_cons ?_ rest
    rw [readArgument_letters n ('f' :: '=' :: value.toList) (by simp [flagLetters]) (by simp)
      (by simp), readLetters, String.ofList_toList, ofDraft?_withFormat? (hformats n), hafter]
    rfl
  | joined n =>
    refine readArguments_cons ?_ rest
    rw [readArgument_letters n ('f' :: value.toList) (by simp [flagLetters]) (by simp) (by simp),
      readLetters_joined h.1 h.2, ofDraft?_withFormat? (hformats n), hafter]
    rfl

theorem readArguments_item {i : Item} (hfits : i.Fits) (hg : (g.add i.given).Once)
    (rest : List String) :
    readArguments .anything g.draft (i.words ++ rest) =
      readArguments .anything (g.add i.given).draft rest := by
  cases i with
  | flags others =>
    refine readArguments_cons ?_ rest
    exact readArgument_letters (others + 1) [] (by simp [flagLetters]) (by simp) (by simp)
  | verbose =>
    refine readArguments_cons ?_ rest
    rw [Item.given, ← Given.louder_draft]
    rfl
  | format spelling value =>
    have hformats : g.formats = [] :=
      eq_nil_of_length_append_le hg.formats_le (List.mem_singleton_self value)
    exact readArguments_format hformats hfits rest
  | file path =>
    have hfiles : g.files = [] :=
      eq_nil_of_length_append_le hg.files_le (List.mem_singleton_self path)
    refine readArguments_cons ?_ rest
    unfold readArgument
    rw [shape_of_plain hfits.2]
    dsimp only
    rw [Given.withFile?_draft, if_pos ⟨hfiles, hfits.1⟩]
    rfl

theorem readArguments_items {items : List Item} (hfits : ∀ i ∈ items, i.Fits)
    (hg : (g.add (givenBy items)).Once) (rest : List String) :
    readArguments .anything g.draft (items.flatMap Item.words ++ rest) =
      readArguments .anything (g.add (givenBy items)).draft rest := by
  induction items generalizing g with
  | nil => rw [givenBy, List.foldr_nil, Given.add_nothing, List.flatMap_nil, List.nil_append]
  | cons i items ih =>
    have hgiven : g.add (givenBy (i :: items)) = (g.add i.given).add (givenBy items) :=
      (Given.add_assoc _ _ _).symm
    rw [hgiven] at hg ⊢
    rw [List.flatMap_cons, List.append_assoc,
      readArguments_item (hfits i List.mem_cons_self) hg.left]
    exact ih (fun j hj => hfits j (List.mem_cons_of_mem i hj)) hg

end Reading

section Main

variable {items items' : List Item} {flags : Nat} {format file : Option String}

theorem given_subset_givenBy {i : Item} (hi : i ∈ items) :
    i.given.formats ⊆ (givenBy items).formats ∧ i.given.files ⊆ (givenBy items).files := by
  induction items with
  | nil => cases hi
  | cons first others ih =>
    rcases List.mem_cons.mp hi with rfl | hmem
    · exact ⟨List.subset_append_left _ _, List.subset_append_left _ _⟩
    · obtain ⟨hformats, hfiles⟩ := ih hmem
      exact ⟨List.subset_append_of_subset_right _ hformats,
        List.subset_append_of_subset_right _ hfiles⟩

/-- If the format begins like no option and like no value after an equals sign, and the file like
no option, then all spellings fit. -/
theorem fits_of_givenBy (h : givenBy items = ⟨flags, format.toList, file.toList⟩)
    (hformat : ∀ name ∈ format,
      name ≠ "" ∧ name.toList.head? ≠ some '-' ∧ name.toList.head? ≠ some '=')
    (hfile : ∀ path ∈ file, path = "-" ∨ path ≠ "" ∧ path.toList.head? ≠ some '-') :
    ∀ i ∈ items, i.Fits := by
  intro i hi
  cases i with
  | flags others => trivial
  | verbose => trivial
  | format spelling value =>
    have hvalue := (given_subset_givenBy hi).1 (List.mem_singleton_self value)
    rw [h, Option.mem_toList] at hvalue
    obtain ⟨hne, hdash, hequals⟩ := hformat value hvalue
    cases spelling with
    | long => exact .inr hdash
    | longEquals => trivial
    | short n => exact .inr hdash
    | shortEquals n => trivial
    | joined n => exact ⟨hne, hequals⟩
  | file path =>
    have hpath := (given_subset_givenBy hi).2 (List.mem_singleton_self path)
    rw [h, Option.mem_toList] at hpath
    rcases hfile path hpath with rfl | ⟨hne, hdash⟩
    · exact ⟨by decide, .inl rfl⟩
    · exact ⟨hne, .inr hdash⟩

theorem ofArguments_of_givenBy (hfits : ∀ i ∈ items, i.Fits)
    (h : givenBy items = ⟨flags, format.toList, file.toList⟩) :
    Request.ofArguments (items.flatMap Item.words) =
      .run ⟨file, format.getD "text", min flags 255⟩ := by
  have honce : (Given.nothing.add (givenBy items)).Once := by
    rw [Given.nothing_add, h]
    exact ⟨Option.length_toList_le, Option.length_toList_le⟩
  have hread := readArguments_items hfits honce []
  rw [List.append_nil, Given.nothing_add, h] at hread
  refine hread.trans ?_
  cases format <;> cases file <;> rfl

/-- A list of items is accepted in any order and in any spelling, and asks for the file and the
format that it gives and for as many flags as it has, up to the 255th. So the runs are the same for
all lists that give the same. -/
theorem run_of_items
    (hformat : ∀ name ∈ format,
      name ≠ "" ∧ name.toList.head? ≠ some '-' ∧ name.toList.head? ≠ some '=')
    (hfile : ∀ path ∈ file, path = "-" ∨ path ≠ "" ∧ path.toList.head? ≠ some '-')
    (h : givenBy items = ⟨flags, format.toList, file.toList⟩)
    (h' : givenBy items' = ⟨flags, format.toList, file.toList⟩) :
    Request.ofArguments (items.flatMap Item.words) =
        .run ⟨file, format.getD "text", min flags 255⟩ ∧
      ∀ w, run w (items'.flatMap Item.words) = run w (items.flatMap Item.words) := by
  have hitems := ofArguments_of_givenBy (fits_of_givenBy h hformat hfile) h
  have hitems' := ofArguments_of_givenBy (fits_of_givenBy h' hformat hfile) h'
  refine ⟨hitems, fun w => ?_⟩
  rw [run, run, hitems, hitems']

/-- A dash, five flags and a format, spelled and ordered in two ways. -/
theorem run_of_items_grouped :
    givenBy [.file "-", .flags 1, .format (.joined 2) "json", .verbose] =
        ⟨5, (some "json").toList, (some "-").toList⟩ ∧
      givenBy [.format .longEquals "json", .flags 3, .file "-", .flags 0] =
        ⟨5, (some "json").toList, (some "-").toList⟩ ∧
      Request.ofArguments ["-", "-vv", "-vvfjson", "--verbose"] = .run ⟨some "-", "json", 5⟩ ∧
      ∀ w, run w ["--format=json", "-vvvv", "-", "-v"] =
        run w ["-", "-vv", "-vvfjson", "--verbose"] := by
  have hgrouped : givenBy [.file "-", .flags 1, .format (.joined 2) "json", .verbose] =
      ⟨5, (some "json").toList, (some "-").toList⟩ := rfl
  have hapart : givenBy [.format .longEquals "json", .flags 3, .file "-", .flags 0] =
      ⟨5, (some "json").toList, (some "-").toList⟩ := rfl
  exact ⟨hgrouped, hapart, run_of_items (by simp) (by simp) hgrouped hapart⟩

end Main

end ParamDoc.Cli
