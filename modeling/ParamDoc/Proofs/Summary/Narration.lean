import ParamDoc.Proofs.SizeTag.Counting
import ParamDoc.Proofs.Summary.Stages

/-!
# What a tree narrates

The tree of a unit decides which events are reported on the way to its summary: a warning about
further comments, the parameters that are paired before the first that is not, the start of the
summary, and the number of further size tags. These are described here without queries, and there
is at most one list of them.
-/

namespace ParamDoc

open Text (trimmed)

namespace Condition

/-- What a summary needs before its texts. -/
def basics : List Condition :=
  [.pairing, .parameter, .functionName]

def allButSize : List Condition :=
  basics ++ [.prose, .firstBlock]

end Condition

namespace Node

/-- The first function has several comments. -/
inductive Warns (root : Node) : List Event → Prop
  | several {f : Node} : (root.ofKind .function).head? = some f →
      2 ≤ (f.ofKind .comment).length →
      Warns root [.extraComments f.displayName (f.ofKind .comment).length]
  | absent : (∀ f, (root.ofKind .function).head? = some f → (f.ofKind .comment).length < 2) →
      Warns root []

/-- These are the names of the parameters before the first one that is not paired. -/
def PairedNames (function comment : Node) (names : List String) : Prop :=
  ∃ before after, function.ofKind .parameter = before ++ after ∧
    (∀ p ∈ before, comment.Paired p) ∧ (∀ p ∈ after.head?, ¬comment.Paired p) ∧
    List.Forall₂ (fun p name => p.name = some name) before names

/-- The parameters that are paired, if there is a comment to pair them with. -/
inductive Matches (root : Node) : List Event → Prop
  | pairs {f c : Node} {names : List String} : Subject root f c → f.PairedNames c names →
      Matches root (names.map .paired)
  | absent : (∀ f c, ¬Subject root f c) → Matches root []

/-- The start of a summary, once both names are known. -/
inductive Starts (root : Node) : List Event → Prop
  | named {f c p : Node} {function name : String} :
      (∀ d ∈ Condition.basics, d.Holds root) → Subject root f c →
      (f.ofKind .parameter).head? = some p → f.name = some function → p.name = some name →
      Starts root [.summarizing function name]
  | absent {d : Condition} : d ∈ Condition.basics → ¬d.Holds root → Starts root []

def DocumentsFirst (root block : Node) : Prop :=
  ∃ f c p name, Subject root f c ∧ (f.ofKind .parameter).head? = some p ∧ p.name = some name ∧
    c.FirstNaming name block

/-- The size is looked for in this text. -/
def SizeText (root : Node) (text : String) : Prop :=
  ∃ b t, root.DocumentsFirst b ∧ b.Says t ∧ text = trimmed t

/-- The number of further size tags, once all other texts are read. Tags are counted without
overlaps: as many as can be chosen so that each begins after the one before. -/
inductive Counts (root : Node) : List Event → Prop
  | several {text size : String} {k : Nat} :
      (∀ d ∈ Condition.allButSize, d.Holds root) → root.SizeText text →
      SizeTag.Leftmost text size → SizeTag.MostTags text (k + 2) →
      Counts root [.extraSizes size (k + 1)]
  | absent : (∀ text k, (∀ d ∈ Condition.allButSize, d.Holds root) → root.SizeText text →
      SizeTag.MostTags text k → k < 2) → Counts root []

/-- The events of a summary of the tree. -/
def Narrates (root : Node) (events : List Event) : Prop :=
  ∃ warning matched start sizes, root.Warns warning ∧ root.Matches matched ∧ root.Starts start ∧
    root.Counts sizes ∧ events = warning ++ matched ++ start ++ sizes

end Node

section Uniqueness

variable {root : Node} {events events' : List Event}

theorem Node.Warns.unique (h : root.Warns events) (h' : root.Warns events') :
    events' = events := by
  cases h with
  | several hf hlength =>
    cases h' with
    | several hf' _ =>
      rw [hf] at hf'
      cases hf'
      rfl
    | absent hnone => exact absurd (hnone _ hf) (by omega)
  | absent hnone =>
    cases h' with
    | several hf hlength => exact absurd (hnone _ hf) (by omega)
    | absent _ => rfl

/-- Two ways to split a list before the first element without a property. -/
theorem before_eq_before {α : Type} {P : α → Prop} {before after before' after' : List α}
    (h : before ++ after = before' ++ after') (hbefore : ∀ x ∈ before, P x)
    (hafter : ∀ x ∈ after.head?, ¬P x) (hbefore' : ∀ x ∈ before', P x)
    (hafter' : ∀ x ∈ after'.head?, ¬P x) : before = before' := by
  have hnil {xs ys mid rest : List α} (hys : ∀ x ∈ ys, P x) (hrest : ∀ x ∈ rest.head?, ¬P x)
      (hsplit : ys = xs ++ mid) {tail : List α} (hmid : rest = mid ++ tail) : xs = ys := by
    cases mid with
    | nil => simpa using hsplit.symm
    | cons x mid => exact absurd (hys x (by simp [hsplit])) (hrest x (by simp [hmid]))
  rcases List.append_eq_append_iff.mp h with ⟨mid, hmid, hrest⟩ | ⟨mid, hmid, hrest⟩
  · exact hnil hbefore' hafter hmid hrest
  · exact (hnil hbefore hafter' hmid hrest).symm

theorem Node.PairedNames.unique {f c : Node} {names names' : List String}
    (h : f.PairedNames c names) (h' : f.PairedNames c names') : names' = names := by
  obtain ⟨before, after, hsplit, hpaired, hnot, hnames⟩ := h
  obtain ⟨before', after', hsplit', hpaired', hnot', hnames'⟩ := h'
  obtain rfl := before_eq_before (hsplit.symm.trans hsplit') hpaired hnot hpaired' hnot'
  have hright : Relator.RightUnique fun (p : Node) name => p.name = some name := by
    intro p name name' hname hname'
    exact Option.some.inj (hname.symm.trans hname')
  exact hright.forall₂ hnames' hnames

theorem Node.Matches.unique (h : root.Matches events) (h' : root.Matches events') :
    events' = events := by
  cases h with
  | pairs hs hnames =>
    cases h' with
    | pairs hs' hnames' =>
      obtain ⟨rfl, rfl⟩ := hs.unique hs'
      rw [hnames.unique hnames']
    | absent hnone => exact absurd hs (hnone _ _)
  | absent hnone =>
    cases h' with
    | pairs hs _ => exact absurd hs (hnone _ _)
    | absent _ => rfl

theorem Node.Starts.unique (h : root.Starts events) (h' : root.Starts events') :
    events' = events := by
  cases h with
  | named hall hs hp hf hname =>
    cases h' with
    | named _ hs' hp' hf' hname' =>
      obtain ⟨rfl, rfl⟩ := hs.unique hs'
      rw [hp] at hp'
      cases hp'
      rw [hf] at hf'
      cases hf'
      rw [hname] at hname'
      cases hname'
      rfl
    | absent hd hnot => exact absurd (hall _ hd) hnot
  | absent hd hnot =>
    cases h' with
    | named hall _ _ _ _ => exact absurd (hall _ hd) hnot
    | absent _ _ => rfl

theorem Node.DocumentsFirst.unique {b b' : Node} (h : root.DocumentsFirst b)
    (h' : root.DocumentsFirst b') : b' = b := by
  obtain ⟨f, c, p, name, hs, hp, hname, hb⟩ := h
  obtain ⟨f', c', p', name', hs', hp', hname', hb'⟩ := h'
  obtain ⟨rfl, rfl⟩ := hs.unique hs'
  rw [hp] at hp'
  cases hp'
  rw [hname] at hname'
  cases hname'
  exact hb.unique hb'

theorem Node.DocumentsFirst.sizeText_iff {b : Node} {text : String} (h : root.DocumentsFirst b) :
    root.SizeText text ↔ ∃ t, b.Says t ∧ text = trimmed t := by
  constructor
  · rintro ⟨b', t, h', ht, rfl⟩
    obtain rfl := h.unique h'
    exact ⟨t, ht, rfl⟩
  · rintro ⟨t, ht, rfl⟩
    exact ⟨b, t, h, ht, rfl⟩

theorem Node.SizeText.unique {text text' : String} (h : root.SizeText text)
    (h' : root.SizeText text') : text' = text := by
  obtain ⟨b, t, hb, ht, rfl⟩ := h
  obtain ⟨t', ht', rfl⟩ := hb.sizeText_iff.mp h'
  rw [ht.unique ht']

theorem Node.Counts.unique (h : root.Counts events) (h' : root.Counts events') :
    events' = events := by
  cases h with
  | several hall htext hsize hmost =>
    cases h' with
    | several _ htext' hsize' hmost' =>
      obtain rfl := htext.unique htext'
      rw [hsize.unique hsize']
      have hcount := (SizeTag.mostTags_iff.mp hmost').trans (SizeTag.mostTags_iff.mp hmost).symm
      rw [Nat.add_right_cancel hcount]
    | absent hnone => exact absurd (hnone _ _ hall htext hmost) (by omega)
  | absent hnone =>
    cases h' with
    | several hall htext _ hmost => exact absurd (hnone _ _ hall htext hmost) (by omega)
    | absent _ => rfl

theorem Node.Narrates.unique (h : root.Narrates events) (h' : root.Narrates events') :
    events' = events := by
  obtain ⟨warning, matched, start, sizes, hwarning, hmatched, hstart, hsizes, rfl⟩ := h
  obtain ⟨warning', matched', start', sizes', hwarning', hmatched', hstart', hsizes', rfl⟩ := h'
  rw [hwarning.unique hwarning', hmatched.unique hmatched', hstart.unique hstart',
    hsizes.unique hsizes']

end Uniqueness

section Topics

variable {root : Node} {events : List Event}

theorem Node.Warns.topic_eq (h : root.Warns events) : ∀ e ∈ events, e.topic = .extraComments := by
  cases h <;> simp [Event.topic]

theorem Node.Matches.topic_eq (h : root.Matches events) : ∀ e ∈ events, e.topic = .paired := by
  cases h <;> simp [Event.topic]

theorem Node.Starts.topic_eq (h : root.Starts events) : ∀ e ∈ events, e.topic = .summarizing := by
  cases h <;> simp [Event.topic]

theorem Node.Counts.topic_eq (h : root.Counts events) : ∀ e ∈ events, e.topic = .extraSizes := by
  cases h <;> simp [Event.topic]

end Topics

end ParamDoc
