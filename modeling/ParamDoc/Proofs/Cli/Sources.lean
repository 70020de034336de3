import ParamDoc.Cli.FileTree
import ParamDoc.Proofs.Cli.Stages

/-!
# Files and standard input

A dump may come from a file or from standard input. A source has a part in a run by the bytes it
holds and by its name in two messages, and by nothing else.
-/

namespace ParamDoc.Cli

/-- The failure, told of another source. -/
def Failure.ofSource (source : Source) : Failure → Failure
  | .unknownFormat name => .unknownFormat name
  | .unreadable _ fault => .unreadable source fault
  | .undecodable _ fault => .undecodable source fault
  | .flawed flaw => .flawed flaw

/-- The failures that name their source. -/
def Failure.Names (source : Source) : Failure → Prop
  | .unreadable s _ => s = source
  | .undecodable s _ => s = source
  | _ => True

section Runs

variable {w w' : World} (o o' : Options)

theorem World.read_congr {s s' : Source} (h : w'.bytes s' = w.bytes s) : w'.read s' = w.read s := by
  unfold World.read
  rw [h]

theorem load_of_bytes (hbytes : w'.bytes (.ofFile o'.file) = w.bytes (.ofFile o.file))
    (hformat : o'.format = o.format) :
    load w' o' = (load w o).mapError (Failure.ofSource (.ofFile o'.file)) := by
  unfold load
  rw [hformat]
  cases Format.ofName? o.format with
  | none => rfl
  | some format =>
    dsimp only
    rw [World.read_congr hbytes]
    cases w.read (.ofFile o.file) with
    | error fault => rfl
    | ok text =>
      dsimp only
      cases Dump.decode text.toList <;> rfl

theorem load_names {failure : Failure} (h : load w o = .error failure) :
    failure.Names (.ofFile o.file) := by
  unfold load at h
  dsimp only at h
  split at h
  · cases h
    trivial
  · split at h
    · cases h
      rfl
    · split at h
      · cases h
        rfl
      · cases h

/-- What follows the reading of a source does not depend on where it was read from. -/
theorem perform_of_bytes (hbytes : w'.bytes (.ofFile o'.file) = w.bytes (.ofFile o.file))
    (hformat : o'.format = o.format) (shown : Topic → Bool) :
    perform w' o' shown = ((perform w o shown).1,
      (perform w o shown).2.mapError (Failure.ofSource (.ofFile o'.file))) := by
  unfold perform
  rw [load_of_bytes o o' hbytes hformat]
  cases load w o with
  | error failure => rfl
  | ok loaded =>
    obtain ⟨format, root⟩ := loaded
    dsimp only [Except.mapError]
    rcases (summarize root).run shown with ⟨events, flaw | summary⟩
    · rfl
    · rfl

theorem perform_names {shown : Topic → Bool} {failure : Failure}
    (h : (perform w o shown).2 = .error failure) : failure.Names (.ofFile o.file) := by
  unfold perform at h
  cases hload : load w o with
  | error other =>
    rw [hload] at h
    cases h
    exact load_names o hload
  | ok loaded =>
    obtain ⟨format, root⟩ := loaded
    rw [hload] at h
    dsimp only at h
    split at h
    · cases h
    · cases h
      trivial

end Runs

section Messages

/-- Two texts are the same, or they differ in one line, the first one of a complaint about reading
or parsing, and there only in the name of the source. -/
def SameBut (name name' : String) (text text' : String) : Prop :=
  text' = text ∨ ∃ what below, (what = "failed to read " ∨ what = "failed to parse ") ∧
    text = lines (("Error: " ++ (what ++ name)) :: below) ∧
    text' = lines (("Error: " ++ (what ++ name')) :: below)

theorem sameBut_message {source source' : Source} {failure : Failure}
    (h : failure.Names source) :
    SameBut source.name source'.name failure.message (failure.ofSource source').message := by
  cases failure with
  | unknownFormat name => exact .inl rfl
  | unreadable s fault =>
    obtain rfl : s = source := h
    exact .inr ⟨"failed to read ", _, .inl rfl, message_unreadable _ _, message_unreadable _ _⟩
  | undecodable s fault =>
    obtain rfl : s = source := h
    exact .inr ⟨"failed to parse ", _, .inr rfl, message_undecodable _ _, message_undecodable _ _⟩
  | flawed flaw => exact .inl rfl

end Messages

section Paths

theorem componentsFrom_ne_nil (piece s : List Char) : Source.componentsFrom piece s ≠ [] := by
  induction s generalizing piece with
  | nil => exact List.cons_ne_nil _ _
  | cons c s ih =>
    unfold Source.componentsFrom
    split_ifs
    · exact List.cons_ne_nil _ _
    · exact ih (c :: piece)

/-- The components of a path with slashes between them are the path. -/
theorem append_eq_of_componentsFrom {piece s first : List Char} {others : List (List Char)}
    (h : Source.componentsFrom piece s = first :: others) :
    piece.reverse ++ s = first ++ others.flatMap ('/' :: ·) := by
  induction s generalizing piece first others with
  | nil =>
    cases h
    rfl
  | cons c s ih =>
    unfold Source.componentsFrom at h
    split_ifs at h with hslash
    · obtain ⟨rfl, hothers⟩ := List.cons.inj h
      obtain ⟨second, rest, rfl⟩ :=
        List.exists_cons_of_ne_nil (hothers ▸ componentsFrom_ne_nil [] s)
      rw [hslash, List.flatMap_cons, List.cons_append, ← ih hothers]
      rfl
    · simpa using ih h

namespace FileTree

theorem find_folder {entries : List (List Char × FileTree)} {up : List FileTree}
    {pieces : List (List Char)} (h : ∀ piece ∈ pieces, piece = [] ∨ piece = ['.']) :
    find (.folder entries) up pieces = .error .isFolder := by
  induction pieces with
  | nil => rfl
  | cons piece pieces ih =>
    have hpiece := h piece List.mem_cons_self
    have hrest := ih fun p hp => h p (List.mem_cons_of_mem piece hp)
    unfold find
    simp only [hpiece, ↓reduceIte, hrest]

/-- No file is found at a path that goes on after its name. -/
theorem eq_nil_of_find_eq_ok {tree : FileTree} {up : List FileTree} {pieces : List (List Char)}
    {b : ByteArray} (hpieces : ∀ piece ∈ pieces, piece = [] ∨ piece = ['.'])
    (h : find tree up pieces = .ok b) : pieces = [] := by
  cases tree with
  | folder entries =>
    rw [find_folder hpieces] at h
    cases h
  | file content =>
    cases pieces with
    | nil => rfl
    | cons piece pieces =>
      unfold find at h
      cases h

/-- Past the first component a path is looked up from another place. -/
theorem exists_find_of_cons {tree : FileTree} {up : List FileTree} {piece : List Char}
    {pieces : List (List Char)} {b : ByteArray} (h : find tree up (piece :: pieces) = .ok b) :
    ∃ (next : FileTree) (above : List FileTree), find next above pieces = .ok b := by
  unfold find at h
  cases tree with
  | file content => cases h
  | folder entries =>
    dsimp only at h
    split_ifs at h
    · exact ⟨_, _, h⟩
    · exact ⟨_, _, h⟩
    · split at h
      · cases h
      · exact ⟨_, _, h⟩

/-- Of the paths that stand for standard input only the dash itself may lead to a file. -/
theorem isDash_eq_false_of_read {tree : FileTree} {path : String} {b : ByteArray}
    (h : tree.read path = .ok b) (hne : path ≠ "-") : Source.isDash path = false := by
  rw [← Bool.not_eq_true]
  intro hdash
  unfold Source.isDash at hdash
  split at hdash
  · next rest hcomponents =>
    have hrest : ∀ piece ∈ rest, piece = [] ∨ piece = ['.'] := by simpa using hdash
    have hfind : find tree [] (['-'] :: rest) = .ok b := by
      unfold read at h
      rw [hcomponents] at h
      split_ifs at h
      exact h
    obtain ⟨_, _, hafter⟩ := exists_find_of_cons hfind
    obtain rfl := eq_nil_of_find_eq_ok hrest hafter
    have honly : [].reverse ++ path.toList = ['-'] := append_eq_of_componentsFrom hcomponents
    exact hne (String.toList_injective honly)
  · cases hdash

end FileTree

end Paths

/-- A run on a file and one on standard input with the same bytes, in the same format and with the
same log settings, have the same code, output and log, and complain in the same words but for the
name of the source. A name that is no dash is the path of a file and nothing else. -/
theorem run_of_same_bytes {w w' : World} {args args' : List String} {path : String}
    {file' : Option String} {format : String} {verbosity : Nat} {b : ByteArray}
    (hargs : Request.ofArguments args = .run ⟨some path, format, verbosity⟩)
    (hargs' : Request.ofArguments args' = .run ⟨file', format, verbosity⟩)
    (hpath : Source.isDash path = false) (hfile' : file' = none ∨ file' = some "-")
    (hb : w.file path = .ok b) (hb' : w'.input = .ok b) (hlog : w'.toLogSetting = w.toLogSetting) :
    (run w' args').code = (run w args).code ∧ (run w' args').output = (run w args).output ∧
      (run w' args').log = (run w args).log ∧
      SameBut path "stdin" (run w args).error (run w' args').error ∧
      ∀ (tree : FileTree) (p : String) (content : ByteArray), tree.read p = .ok content →
        p ≠ "-" → Source.isDash p = false := by
  have hsource : Source.ofFile (some path) = .file path := by
    simp [Source.ofFile, hpath]
  have hsource' : Source.ofFile file' = .standardInput := by
    rcases hfile' with rfl | rfl <;> rfl
  have hbytes : w'.bytes (.ofFile file') = w.bytes (.ofFile (some path)) := by
    rw [hsource, hsource']
    exact hb'.trans hb.symm
  have hperform (shown : Topic → Bool) := perform_of_bytes ⟨some path, format, verbosity⟩
    ⟨file', format, verbosity⟩ hbytes rfl shown
  rw [hsource'] at hperform
  have htrees : ∀ (tree : FileTree) (p : String) (content : ByteArray),
      tree.read p = .ok content → p ≠ "-" → Source.isDash p = false :=
    fun _ _ _ => FileTree.isDash_eq_false_of_read
  by_cases hreturns : w.Returns
  · obtain ⟨filter, hfilter⟩ := hreturns.exists_filter verbosity
    have hfilter' : w'.filter? verbosity = some filter := hlog ▸ hfilter
    unfold run
    rw [hargs, hargs', outcome_of_filter hfilter', outcome_of_filter hfilter, hperform]
    cases hresult : (perform w ⟨some path, format, verbosity⟩ filter.shows).2 with
    | ok output => exact ⟨rfl, rfl, rfl, .inl rfl, htrees⟩
    | error failure =>
      have hnames := perform_names ⟨some path, format, verbosity⟩ hresult
      rw [hsource] at hnames
      have hsame : SameBut (Source.name (.file path)) (Source.name .standardInput) failure.message
          (failure.ofSource .standardInput).message := sameBut_message hnames
      exact ⟨rfl, rfl, rfl, hsame, htrees⟩
  · rw [run_of_crash hargs hreturns, run_of_crash hargs' (hlog ▸ hreturns)]
    exact ⟨rfl, rfl, rfl, .inl rfl, htrees⟩

/-- A folder with a file that is cut off. -/
def cutOff : FileTree :=
  .folder [(['a'], .file "\x7b".toUTF8)]

def cutOffAnd (input : ByteArray) : World where
  logFilter := none
  file := cutOff.read
  input := .ok input

theorem run_cutOff :
    cutOff.read "a" = .ok "\x7b".toUTF8 ∧
      (run (cutOffAnd .empty) ["-v", "a"]).error =
        lines ["Error: failed to parse a", "", "Caused by:",
          "    0: failed to decode AST JSON: EOF while parsing an object at line 1 column 1",
          "    1: EOF while parsing an object at line 1 column 1"] ∧
      (run (cutOffAnd "\x7b".toUTF8) ["-v", "-"]).error =
        lines ["Error: failed to parse stdin", "", "Caused by:",
          "    0: failed to decode AST JSON: EOF while parsing an object at line 1 column 1",
          "    1: EOF while parsing an object at line 1 column 1"] ∧
      SameBut "a" "stdin" (run (cutOffAnd .empty) ["-v", "a"]).error
        (run (cutOffAnd "\x7b".toUTF8) ["-v", "-"]).error := by
  have hread : cutOff.read "a" = .ok "\x7b".toUTF8 := by rfl
  have hargs : Request.ofArguments ["-v", "a"] = .run ⟨some "a", "text", 1⟩ := by decide
  have hargs' : Request.ofArguments ["-v", "-"] = .run ⟨some "-", "text", 1⟩ := by decide
  have hpath : Source.isDash "a" = false := by decide
  have hrun := run_of_same_bytes (w := cutOffAnd .empty) hargs hargs' hpath (.inr rfl) hread
    (show (cutOffAnd "\x7b".toUTF8).input = _ from rfl) rfl
  exact ⟨hread, by decide +kernel, by decide +kernel, hrun.2.2.2.1⟩

end ParamDoc.Cli
