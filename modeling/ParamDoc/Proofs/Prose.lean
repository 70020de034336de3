import ParamDoc.Proofs.Summary.Stages
import ParamDoc.Proofs.Text.Trimming

/-!
# The prose of a comment

The inner nodes of a comment add to its prose one after another, so the prose of nodes in a row is
that of the first ones, an empty line, and that of the others; the empty line is left out if one
side says nothing. White space at the ends is removed from every paragraph before it is added, and
then none is left at the ends of the whole.
-/

namespace ParamDoc

open Text (isBlank trimmed Blank)

namespace Comment

/-- One text after another, with an empty line between them if both say something. -/
def followed (t u : String) : String :=
  if t = "" ∨ u = "" then t ++ u else t ++ "\n\n" ++ u

section Joining

variable {t u : String} {texts others : List String}

@[simp] theorem followed_empty (t : String) : followed t "" = t := by
  simp [followed]

@[simp] theorem empty_followed (u : String) : followed "" u = u := by
  simp [followed]

theorem followed_of_ne (ht : t ≠ "") (hu : u ≠ "") : followed t u = t ++ "\n\n" ++ u := by
  simp [followed, ht, hu]

theorem joinParagraphs_eq_intercalate (texts : List String) :
    joinParagraphs texts = "\n\n".intercalate texts := by
  apply String.toList_injective
  rw [String.toList_intercalate, joinParagraphs, String.toList_ofList]
  rfl

@[simp] theorem joinParagraphs_nil : joinParagraphs [] = "" := rfl

@[simp] theorem joinParagraphs_singleton (t : String) : joinParagraphs [t] = t := by
  simp [joinParagraphs_eq_intercalate]

theorem joinParagraphs_eq_empty_iff (h : ∀ t ∈ texts, t ≠ "") :
    joinParagraphs texts = "" ↔ texts = [] := by
  rw [joinParagraphs_eq_intercalate]
  cases texts with
  | nil => simp
  | cons t rest =>
    have ht : t ≠ "" := h t (by simp)
    cases rest <;> simp [ht]

theorem joinParagraphs_append (h : ∀ t ∈ texts, t ≠ "") (h' : ∀ t ∈ others, t ≠ "") :
    joinParagraphs (texts ++ others) =
      followed (joinParagraphs texts) (joinParagraphs others) := by
  by_cases htexts : texts = []
  · simp [htexts]
  by_cases hothers : others = []
  · simp [hothers]
  have hne : joinParagraphs texts ≠ "" := mt (joinParagraphs_eq_empty_iff h).mp htexts
  have hne' : joinParagraphs others ≠ "" := mt (joinParagraphs_eq_empty_iff h').mp hothers
  rw [followed_of_ne hne hne']
  simp only [joinParagraphs_eq_intercalate]
  exact String.intercalate_append_of_ne_nil htexts hothers

theorem trimmed_followed (ht : trimmed t = t) (hu : trimmed u = u) :
    trimmed (followed t u) = followed t u := by
  by_cases h : t = ""
  · simp [h, hu]
  by_cases h' : u = ""
  · simp [h', ht]
  -- the first character is that of `t`, and the last one that of `u`
  rw [followed_of_ne h h', Text.trimmed_eq_self_iff]
  rw [Text.trimmed_eq_self_iff] at ht hu
  have hhead : (t ++ "\n\n" ++ u).toList.head? = t.toList.head? := by
    rw [String.toList_append, String.toList_append, List.append_assoc]
    exact List.head?_append_of_ne_nil _ (mt String.toList_eq_nil_iff.mp h)
  have hlast : (t ++ "\n\n" ++ u).toList.getLast? = u.toList.getLast? := by
    rw [String.toList_append]
    exact List.getLast?_append_of_ne_nil _ (mt String.toList_eq_nil_iff.mp h')
  rw [hhead, hlast]
  exact ⟨ht.1, hu.2⟩

/-- No white space is left at the ends if there is none at the ends of the texts. -/
theorem trimmed_joinParagraphs (hne : ∀ t ∈ texts, t ≠ "") (h : ∀ t ∈ texts, trimmed t = t) :
    trimmed (joinParagraphs texts) = joinParagraphs texts := by
  induction texts with
  | nil => decide
  | cons t texts ih =>
    have hjoin : joinParagraphs ([t] ++ texts) = _ :=
      joinParagraphs_append (by simpa using hne t (by simp))
        fun u hu => hne u (List.mem_cons_of_mem t hu)
    rw [joinParagraphs_singleton, List.singleton_append] at hjoin
    rw [hjoin]
    exact trimmed_followed (h t (by simp)) (ih (fun u hu => hne u (List.mem_cons_of_mem t hu))
      fun u hu => h u (List.mem_cons_of_mem t hu))

end Joining

section Nodes

def prose (nodes : List Node) : Except Flaw String := do
  let texts ← (nodes.filterMap (·.as? .paragraph)).mapM paragraphText
  return joinParagraphs (texts.filter (· ≠ ""))

theorem text_eq_prose (c : Comment) : text c = prose c.node.children := rfl

theorem prose_append (xs ys : List Node) : prose (xs ++ ys) = (do
    let t ← prose xs
    let u ← prose ys
    return followed t u) := by
  unfold prose
  rw [List.filterMap_append, List.mapM_append]
  cases (xs.filterMap (·.as? .paragraph)).mapM paragraphText with
  | error flaw => rfl
  | ok texts =>
    cases (ys.filterMap (·.as? .paragraph)).mapM paragraphText with
    | error flaw => rfl
    | ok others =>
      have hjoin : joinParagraphs (texts.filter (· ≠ "") ++ others.filter (· ≠ "")) = _ :=
        joinParagraphs_append (by simp) (by simp)
      rw [← List.filter_append] at hjoin
      exact congrArg Except.ok hjoin

theorem paragraphText_of_reads {p : Node.Of .paragraph} {t : String} (h : p.node.Reads t) :
    paragraphText p = .ok (trimmed t) := by
  rcases paragraphText_cases p with ⟨t', ht', hok⟩ | ⟨hnot, -⟩
  · rw [hok, h.unique ht']
  · exact absurd h (hnot t)

end Nodes

end Comment

/-- The node adds nothing to the prose of a comment: if it is a paragraph then it is a blank one. -/
def Node.Silent (n : Node) : Prop :=
  n.kind = Kind.paragraph.name → ∃ t, n.Reads t ∧ Blank t

namespace Comment

section Silence

theorem prose_singleton_of_silent {n : Node} (h : n.Silent) : prose [n] = .ok "" := by
  by_cases hkind : n.kind = Kind.paragraph.name
  · obtain ⟨t, ht, hblank⟩ := h hkind
    have hparagraph : n.as? .paragraph = some ⟨n, hkind⟩ := Node.as?_eq_some_iff.mpr rfl
    have htext : paragraphText ⟨n, hkind⟩ = .ok "" := by
      rw [paragraphText_of_reads ht, Text.trimmed_eq_empty_iff.mpr hblank]
    simp [prose, hparagraph, htext]
  · have hother : n.as? .paragraph = none := by simp [Node.as?, hkind]
    simp [prose, hother]
    rfl

theorem prose_of_silent {nodes : List Node} (h : ∀ n ∈ nodes, n.Silent) :
    prose nodes = .ok "" := by
  induction nodes with
  | nil => rfl
  | cons n nodes ih =>
    have hrest := ih fun m hm => h m (List.mem_cons_of_mem n hm)
    rw [← List.singleton_append, prose_append, prose_singleton_of_silent (h n (by simp)), hrest]
    rfl

/-- Nodes that add nothing may stand anywhere. -/
theorem prose_insert {nodes : List Node} (h : ∀ n ∈ nodes, n.Silent) (xs ys : List Node) :
    prose (xs ++ nodes ++ ys) = prose (xs ++ ys) := by
  simp only [prose_append, prose_of_silent h]
  cases prose xs with
  | error flaw => rfl
  | ok t => simp

end Silence

section Ends

variable {c : Comment} {t : String}

theorem exists_reads_of_text (h : text c = .ok t) : ∃ texts,
    List.Forall₂ Node.Reads (c.node.ofKind .paragraph) texts ∧
      t = joinParagraphs ((texts.map trimmed).filter (· ≠ "")) := by
  rcases text_cases c with ⟨texts, htexts, hok⟩ | ⟨_, _, _, _, _, _, _, _, herror⟩
  · rw [h] at hok
    exact ⟨texts, htexts, Except.ok.inj hok⟩
  · rw [h] at herror
    cases herror

theorem trimmed_of_text (h : text c = .ok t) : trimmed t = t := by
  obtain ⟨texts, -, rfl⟩ := exists_reads_of_text h
  apply trimmed_joinParagraphs
  · simp
  · intro u hu
    obtain ⟨s, -, rfl⟩ := List.mem_map.mp (List.mem_of_mem_filter hu)
    exact Text.trimmed_trimmed s

theorem ends_ne_feed_of_text (h : text c = .ok t) :
    t.toList.head? ≠ some '\n' ∧ t.toList.getLast? ≠ some '\n' := by
  have hfeed : isBlank '\n' = true := by decide
  obtain ⟨hhead, hlast⟩ := Text.trimmed_eq_self_iff.mp (trimmed_of_text h)
  constructor
  · intro hc
    rw [hhead '\n' hc] at hfeed
    cases hfeed
  · intro hc
    rw [hlast '\n' hc] at hfeed
    cases hfeed

theorem forall_blank_iff {paragraphs : List Node} {texts : List String}
    (h : List.Forall₂ Node.Reads paragraphs texts) :
    (∀ s ∈ texts, Blank s) ↔ ∀ p ∈ paragraphs, ∃ s, p.Reads s ∧ Blank s := by
  induction h with
  | nil => simp
  | @cons p s paragraphs texts hp _ ih =>
    have hfirst : Blank s ↔ ∃ u, p.Reads u ∧ Blank u := by
      constructor
      · intro hs
        exact ⟨s, hp, hs⟩
      · rintro ⟨u, hu, hblank⟩
        rwa [← hp.unique hu]
    simp only [List.forall_mem_cons, hfirst, ih]

end Ends

/-- The prose of a comment is that of its first inner nodes, followed by that of the others, or the
first flaw in them. Blank paragraphs and nodes of other kinds may be put in or left out anywhere. As
no prose begins or ends with a line feed, the line feeds where two parts meet are those of one empty
line. -/
theorem text_of_children_append {c c₁ c₂ : Comment}
    (h : c.node.children = c₁.node.children ++ c₂.node.children) :
    text c = (do
      let t₁ ← text c₁
      let t₂ ← text c₂
      return followed t₁ t₂) ∧
    (∀ (d : Comment) (nodes : List Node),
      d.node.children = c₁.node.children ++ nodes ++ c₂.node.children →
      (∀ n ∈ nodes, n.Silent) → text d = text c) ∧
    ∀ (d : Comment) (t : String), text d = .ok t →
      t.toList.head? ≠ some '\n' ∧ t.toList.getLast? ≠ some '\n' := by
  simp only [text_eq_prose, h]
  refine ⟨prose_append _ _, fun d nodes hd hsilent => ?_, fun d t => ends_ne_feed_of_text⟩
  rw [hd, prose_insert hsilent]

def opening : List Node :=
  [paragraphOf "\n  ", paragraphOf " Copies. "]

def closing : List Node :=
  [⟨"ParamCommandComment", none, none, none, some "dst", none, none⟩, paragraphOf "Twice.\n"]

theorem text_of_opening_closing :
    (commentOf (opening ++ closing)).node.children =
        (commentOf opening).node.children ++ (commentOf closing).node.children ∧
      text (commentOf (opening ++ closing)) = .ok "Copies.\n\nTwice." ∧
      (∀ n ∈ [paragraphOf " \t"], n.Silent) ∧
      text (commentOf (opening ++ [paragraphOf " \t"] ++ closing)) = .ok "Copies.\n\nTwice." := by
  have hchildren : (commentOf (opening ++ closing)).node.children =
      (commentOf opening).node.children ++ (commentOf closing).node.children := rfl
  have hsilent : ∀ n ∈ [paragraphOf " \t"], n.Silent := by
    intro n hn _
    rw [List.mem_singleton.mp hn]
    exact ⟨" \t", ⟨_, rfl, rfl⟩, by decide⟩
  obtain ⟨happend, hinsert, -⟩ := text_of_children_append hchildren
  have htext : text (commentOf (opening ++ closing)) = .ok "Copies.\n\nTwice." := by
    rw [happend]
    decide +kernel
  exact ⟨hchildren, htext, hsilent, (hinsert _ _ rfl hsilent).trans htext⟩

/-- Only a paragraph that can be read may be left out. -/
example : ¬Node.Silent ⟨"ParagraphComment", none, none, none, none, none, some []⟩ := by
  intro h
  obtain ⟨t, ⟨leaf, hleaf, -⟩, -⟩ := h rfl
  cases hleaf

/-- No white space is left at the ends of the prose of a comment. It is empty exactly if the first
leaves of all paragraphs are blank. -/
theorem text_trimmed {c : Comment} {t : String} (h : text c = .ok t) : trimmed t = t ∧
    (t = "" ↔ ∀ p ∈ c.node.ofKind .paragraph, ∃ s, p.Reads s ∧ Blank s) := by
  refine ⟨trimmed_of_text h, ?_⟩
  obtain ⟨texts, htexts, rfl⟩ := exists_reads_of_text h
  rw [joinParagraphs_eq_empty_iff (by simp), ← forall_blank_iff htexts]
  simp [Text.trimmed_eq_empty_iff]

theorem text_trimmed_opening :
    text (commentOf (opening ++ closing)) = .ok "Copies.\n\nTwice." ∧
      trimmed "Copies.\n\nTwice." = "Copies.\n\nTwice." ∧
      ¬∀ p ∈ (commentOf (opening ++ closing)).node.ofKind .paragraph, ∃ s, p.Reads s ∧ Blank s := by
  have htext : text (commentOf (opening ++ closing)) = .ok "Copies.\n\nTwice." := by
    decide +kernel
  obtain ⟨htrimmed, hempty⟩ := text_trimmed htext
  exact ⟨htext, htrimmed, mt hempty.mpr (by decide)⟩

end Comment

end ParamDoc
