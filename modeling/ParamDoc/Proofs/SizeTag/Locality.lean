import ParamDoc.Proofs.SizeTag
import ParamDoc.Proofs.Summary.Stages
import ParamDoc.Proofs.Text.Trimming

/-!
# Size tags on two sides of a character

No size tag holds a character that is neither part of a word nor a colon, and a word can begin right
after it. So the tags of a text are those before such a character and then those after it. White
space is of this kind, so the search finds the same in a text with and without white space at its
ends.
-/

namespace ParamDoc.SizeTag

open Text (isWord isBlank trimmed)

section Separators

variable {c : Char}

theorem mem_keyword {d : Char} (h : d ∈ keyword) : isWord d = true ∨ d = ':' := by
  have hall : (keyword.all fun d => isWord d || d = ':') = true := by decide +kernel
  simpa using List.all_eq_true.mp hall d h

theorem notMem_keyword_append (hword : isWord c = false) (hcolon : c ≠ ':') {name : List Char}
    (hname : ∀ d ∈ name, isWord d = true) : c ∉ keyword ++ name := by
  intro hc
  rcases List.mem_append.mp hc with hc | hc
  · rcases mem_keyword hc with hc | hc
    · rw [hword] at hc
      cases hc
    · exact hcolon hc
  · rw [hname c hc] at hword
    cases hword

theorem exists_append_of_notMem {s rest t u : List Char} (hc : c ∉ t)
    (h : s ++ c :: rest = t ++ u) : ∃ mid, s = t ++ mid ∧ u = mid ++ c :: rest := by
  rcases List.append_eq_append_iff.mp h with ⟨mid, ht, hrest⟩ | ⟨mid, hs, hu⟩
  · cases mid with
    | nil => exact ⟨[], by simpa using ht.symm, by simpa using hrest.symm⟩
    | cons d mid =>
      obtain ⟨rfl, -⟩ := List.cons.inj hrest
      exact absurd (by simp [ht]) hc
  · exact ⟨mid, hs, hu⟩

/-- A tag at the start of a text ends before the first character that it cannot hold. -/
theorem here?_append_cons (hword : isWord c = false) (hcolon : c ≠ ':') (s rest : List Char) :
    here? (s ++ c :: rest) = (here? s).map fun tag => (tag.1, tag.2 ++ c :: rest) := by
  cases h : here? s with
  | some tag =>
    obtain ⟨hsplit, -, hne, hname, hends⟩ := here?_eq_some_iff.mp h
    refine here?_eq_some_iff.mpr ⟨by simp [hsplit], rfl, hne, hname, ?_⟩
    cases hafter : tag.2 with
    | nil => simpa using hword
    | cons d after => simpa [hafter] using hends
  | none =>
    rw [Option.map_none, Option.eq_none_iff_forall_not_mem]
    rintro ⟨name, after⟩ hmem
    obtain ⟨hsplit, -, hne, hname, hends⟩ := here?_eq_some_iff.mp hmem
    -- the tag would end before the character, and so be there without what follows
    obtain ⟨mid, rfl, rfl⟩ :=
      exists_append_of_notMem (notMem_keyword_append hword hcolon hname) hsplit
    have hsome : here? (keyword ++ name ++ mid) = some (name, mid) := by
      refine here?_eq_some_iff.mpr ⟨rfl, rfl, hne, hname, fun d hd => ?_⟩
      exact hends d (by simp [Option.mem_def.mp hd])
    rw [h] at hsome
    cases hsome

/-- The scan goes over such a character as if the text began after it. -/
theorem scan_append_cons (hword : isWord c = false) (hcolon : c ≠ ':') (afterWord : Bool)
    (s rest : List Char) :
    scan afterWord (s ++ c :: rest) = scan afterWord s ++ scan false rest := by
  induction afterWord, s using scan.induct with
  | case1 afterWord =>
    have hhere := here?_append_cons hword hcolon [] rest
    cases afterWord with
    | true => rw [List.nil_append, scan_cons_true, hword, scan_nil, List.nil_append]
    | false => rw [List.nil_append, scan_cons_false hhere, hword, scan_nil, List.nil_append]
  | case2 d s ih =>
    rw [List.cons_append, scan_cons_true, scan_cons_true, ih]
  | case3 afterWord d s hfalse name after hhere ih =>
    obtain rfl := eq_false_of_ne_true hfalse
    have hlong : here? (d :: s ++ c :: rest) = some (name, after ++ c :: rest) := by
      rw [here?_append_cons hword hcolon, hhere]
      rfl
    rw [scan_of_here? hlong, scan_of_here? hhere, ih, List.cons_append]
  | case4 afterWord d s hfalse hhere ih =>
    obtain rfl := eq_false_of_ne_true hfalse
    have hlong : here? (d :: (s ++ c :: rest)) = none := by
      rw [← List.cons_append, here?_append_cons hword hcolon, hhere]
      rfl
    rw [List.cons_append, scan_cons_false hlong, scan_cons_false hhere, ih]

theorem all_append_cons (hword : isWord c = false) (hcolon : c ≠ ':') (s rest : List Char) :
    all (s ++ c :: rest) = all s ++ all rest :=
  scan_append_cons hword hcolon false s rest

end Separators

section Trimming

variable {s : List Char}

theorem ne_colon_of_isBlank {c : Char} (h : isBlank c = true) : c ≠ ':' := by
  rintro rfl
  have hcolon : isBlank ':' = false := by decide
  rw [hcolon] at h
  cases h

theorem all_append_blank_cons {c : Char} (h : isBlank c = true) (s rest : List Char) :
    all (s ++ c :: rest) = all s ++ all rest :=
  all_append_cons (Text.isWord_of_isBlank h) (ne_colon_of_isBlank h) s rest

theorem all_nil : all [] = [] := scan_nil false

theorem all_blank_append {before : List Char} (h : ∀ c ∈ before, isBlank c = true) :
    all (before ++ s) = all s := by
  induction before with
  | nil => rfl
  | cons c before ih =>
    have hskip := all_append_blank_cons (h c (by simp)) [] (before ++ s)
    rw [List.nil_append, all_nil, List.nil_append] at hskip
    rw [List.cons_append, hskip, ih fun d hd => h d (List.mem_cons_of_mem c hd)]

theorem all_append_blank {after : List Char} (h : ∀ c ∈ after, isBlank c = true) :
    all (s ++ after) = all s := by
  cases after with
  | nil => rw [List.append_nil]
  | cons c after =>
    have hrest : all (after ++ []) = all [] :=
      all_blank_append fun d hd => h d (List.mem_cons_of_mem c hd)
    rw [List.append_nil, all_nil] at hrest
    rw [all_append_blank_cons (h c (by simp)), hrest, List.append_nil]

theorem all_trim (s : List Char) : all (Text.trim s) = all s := by
  obtain ⟨before, after, hsplit, hbefore, hafter⟩ := Text.exists_trim_append s
  calc
    all (Text.trim s) = all (before ++ Text.trim s) := (all_blank_append hbefore).symm
    _ = all (before ++ Text.trim s ++ after) := (all_append_blank hafter).symm
    _ = all s := congrArg all hsplit.symm

theorem find_congr {text text' : String} (h : all text.toList = all text'.toList) :
    find text = find text' := by
  unfold find
  rw [h]

theorem find_trimmed (text : String) : find (trimmed text) = find text := by
  apply find_congr
  rw [trimmed, String.toList_ofList, all_trim]

end Trimming

/-- What the size of a parameter is, by the text of its block before that is trimmed. -/
theorem size_of_says {p : Parameter} {t : String} (h : p.block.node.Says t) :
    p.size = (do
      match ← find t with
      | some size => return size
      | none => Query.fail (.sizeNotFound (p.node.node.name.getD "<anonymous>"))) := by
  rcases Block.text_cases p.block with ⟨t', ht', hok⟩ | ⟨hnot, -⟩
  · obtain rfl := h.unique ht'
    unfold Parameter.size
    rw [hok, ← find_trimmed t']
    rfl
  · exact absurd h (hnot t)

/-- A character that is no part of a word and no colon parts the tags of a text: those before it are
found as if the text ended there, and those after it as if the text began there. So white space at
the ends of a text does not matter to the search, and a parameter has the size that the search finds
in the text of its block as it stands in the tree. -/
theorem find_local :
    (∀ (a b : String) (c : Char), isWord c = false → c ≠ ':' →
      all (a ++ String.singleton c ++ b).toList = all a.toList ++ all b.toList ∧
      ∀ shown, (find (a ++ String.singleton c ++ b)).outcome shown = (do
        match ← (find a).outcome shown with
        | some name => return some name
        | none => (find b).outcome shown)) ∧
    (∀ text, find (trimmed text) = find text) ∧
    ∀ (p : Parameter) (t : String), p.block.node.Says t → p.size = (do
      match ← find t with
      | some size => return size
      | none => Query.fail (.sizeNotFound (p.node.node.name.getD "<anonymous>"))) := by
  refine ⟨fun a b c hword hcolon => ?_, find_trimmed, fun p t => size_of_says⟩
  have hall : all (a ++ String.singleton c ++ b).toList = all a.toList ++ all b.toList := by
    have hlist : (a ++ String.singleton c ++ b).toList = a.toList ++ c :: b.toList := by simp
    rw [hlist, all_append_cons hword hcolon]
  refine ⟨hall, fun shown => ?_⟩
  simp only [outcome_find, hall, ok_bind]
  cases all a.toList with
  | nil => rfl
  | cons name others => rfl

/-- A parameter whose block has white space of several kinds around its only tag. -/
def paddedParameter : Parameter where
  node := ⟨⟨"ParmVarDecl", some "dst", none, none, none, none, none⟩, rfl⟩
  block := ⟨⟨"ParamCommandComment", none, none, none, some "dst", none, some [
    ⟨"ParagraphComment", none, none, none, none, none, some [
      ⟨"TextComment", none, none, some "\t\u3000size:n\u2028", none, none, none⟩]⟩]⟩, rfl⟩

theorem find_local_comma :
    isWord ',' = false ∧ ',' ≠ ':' ∧
      all ("(size:n" ++ String.singleton ',' ++ "size:m)").toList = [['n'], ['m']] ∧
      (find ("(size:n" ++ String.singleton ',' ++ "size:m)")).outcome (fun _ => true) =
        .ok (some "n") ∧
      find (trimmed "\t\u3000size:n\u2028") = find "\t\u3000size:n\u2028" ∧
      paddedParameter.block.node.Says "\t\u3000size:n\u2028" ∧
      paddedParameter.size.outcome (fun _ => true) = .ok "n" := by
  have hword : isWord ',' = false := by decide +kernel
  have hsays : paddedParameter.block.node.Says "\t\u3000size:n\u2028" :=
    ⟨_, rfl, _, rfl, rfl⟩
  obtain ⟨hseparated, htrimmed, hsize⟩ := find_local
  obtain ⟨hall, hfind⟩ := hseparated "(size:n" "size:m)" ',' hword (by decide)
  refine ⟨hword, by decide, ?_, ?_, htrimmed _, hsays, ?_⟩
  · rw [hall]
    decide +kernel
  · rw [hfind]
    decide +kernel
  · rw [hsize _ _ hsays]
    decide +kernel

/-- A colon does not part a text so: it may be in the middle of a tag. -/
example : all ("size" ++ String.singleton ':' ++ "n").toList = [['n']] ∧
    all "size".toList ++ all "n".toList = [] := by
  decide +kernel

end ParamDoc.SizeTag
