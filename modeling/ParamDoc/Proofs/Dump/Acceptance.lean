import ParamDoc.Dump
import ParamDoc.Proofs.Dump.Grammar
import ParamDoc.Proofs.Json.Skipping

/-!
# Every spelling is decoded

A text that spells a node is read to its end, and the reader ends with that node. Each part of the
text is read wherever it may stand: the parents of the node are those that account for the open
brackets.
-/

namespace ParamDoc.Dump

open Json (Step Literal Skip isSpace Spaces StringLiteral WellFormed IsSeparator)

namespace State

theorem run?_cons (s : State) (c : Char) (t : List Char) :
    s.run? (c :: t) = (s.step? c).bind fun next => next.run? t := rfl

/-- Between tokens, where spaces change nothing. -/
def IsPause : State → Prop
  | .root | .child _ _ _ | .key _ _ _ | .colon _ _ _ | .value _ _ _ | .skip ⟨.value, []⟩ _ _ |
    .afterValue _ _ | .afterChild _ _ | .done _ => True
  | _ => False

theorem IsPause.step? {s : State} {c : Char} (h : s.IsPause) (hc : isSpace c = true) :
    s.step? c = some s := by
  cases s with
  | root | child | key | colon | value | afterChild | done =>
    simp only [State.step?, hc, ↓reduceIte]
  | afterValue draft up => simp only [State.step?, afterValue?, hc, ↓reduceIte]
  | skip v members up =>
    unfold IsPause at h
    split at h <;> try contradiction
    next hv =>
      cases hv
      simp [State.step?, Skip.endsBefore, Skip.step, hc]
  | _ => exact False.elim h

theorem IsPause.run?_spaces {s : State} {w : List Char} (h : s.IsPause) (hw : Spaces w) :
    s.run? w = some s := by
  induction w with
  | nil => rfl
  | cons c w ih =>
    have hc := hw.isSpace c List.mem_cons_self
    have hrest := ih fun d hd => hw d (List.mem_cons_of_mem c hd)
    rw [run?_cons, h.step? hc, Option.bind_some, hrest]

/-- A reader inside this one reads on as it would alone. -/
theorem run?_of_run? {σ α : Type} {step : σ → Char → Step σ α} (embed : σ → State)
    (hstep : ∀ s c next, step s c = .more next → (embed s).step? c = some (embed next)) {s last : σ}
    {t : List Char} (h : Step.run? step s t = some last) :
    (embed s).run? t = some (embed last) := by
  induction t generalizing s with
  | nil =>
    cases h
    rfl
  | cons c t ih =>
    rw [Step.run?_cons] at h
    obtain ⟨next, hnext, hrest⟩ := Option.bind_eq_some_iff.mp h
    have hfirst := hstep s c next (Json.Step.next?_eq_some_iff.mp hnext)
    rw [run?_cons, hfirst, Option.bind_some, ih hrest]

section Literals

variable {s : String} {t : List Char} (up : List Parent)

theorem exists_literal (h : StringLiteral s t) : ∃ body last, t = '"' :: body ++ ['"'] ∧
    Step.run? Literal.step Literal.start body = some last ∧ last.step '"' = .done s.toList := by
  obtain ⟨body, hbody, ht⟩ := h
  refine ⟨body, ⟨s.toList.reverse, .none⟩, ht, Literal.run?_spelledText hbody, ?_⟩
  simp [Literal.step]

theorem run?_key (h : StringLiteral s t) (first : Bool) (members : List Member) :
    (State.key first members up).run? t = afterKey? s members up := by
  obtain ⟨body, last, rfl, hrun, hlast⟩ := exists_literal h
  have hbody : (State.keyText .start members up).run? body = some (.keyText last members up) := by
    apply run?_of_run? (fun l => State.keyText l members up) _ hrun
    intro l c next hnext
    simp only [step?, hnext]
  have hopen : (State.key first members up).step? '"' = some (.keyText .start members up) := rfl
  have hclose : (State.keyText last members up).step? '"' = afterKey? s members up := by
    simp only [step?, hlast, String.ofList_toList]
  rw [List.cons_append, run?_cons, hopen, Option.bind_some, run?_append, hbody, Option.bind_some,
    run?_cons, hclose]
  cases afterKey? s members up <;> rfl

theorem run?_text (h : StringLiteral s t) (field : Field) (draft : Draft)
    (hfield : field ≠ .inner) : (State.value field draft up).run? t =
      (Member.ofText field s).map (addMember draft · up) := by
  obtain ⟨body, last, rfl, hrun, hlast⟩ := exists_literal h
  have hbody : (State.text .start field draft up).run? body = some (.text last field draft up) := by
    apply run?_of_run? (fun l => State.text l field draft up) _ hrun
    intro l c next hnext
    simp only [step?, hnext]
  have hopen : (State.value field draft up).step? '"' = some (.text .start field draft up) := by
    cases field with
    | kind => rfl
    | label l => rfl
    | inner => exact absurd rfl hfield
  have hclose : (State.text last field draft up).step? '"' =
      (Member.ofText field s).map (addMember draft · up) := by
    simp only [step?, hlast, String.ofList_toList]
  rw [List.cons_append, run?_cons, hopen, Option.bind_some, run?_append, hbody, Option.bind_some,
    run?_cons, hclose]
  cases (Member.ofText field s).map (addMember draft · up) <;> rfl

end Literals

section Skipping

variable {members : List Member} {up : List Parent}

/-- A member of an object has been read, up to a number that may go on. -/
inductive Rested (members : List Member) (up : List Parent) : State → Prop
  | after : Rested members up (.afterValue ⟨.object, members⟩ up)
  | number {p : Json.NumberPart} :
      p.isLast = true → Rested members up (.skip ⟨.number p, []⟩ members up)

theorem Rested.step? {s : State} {c : Char} (h : Rested members up s) (hc : IsSeparator c) :
    s.step? c = afterValue? ⟨.object, members⟩ up c := by
  cases h with
  | after => rfl
  | @number p hp =>
    have hends : Skip.endsBefore ⟨.number p, []⟩ c = true :=
      (Json.NumberPart.endsBefore_of_isSeparator hp hc).2
    simp only [State.step?, hends, ↓reduceIte]

theorem Rested.spaces {s : State} {w : List Char} (h : Rested members up s) (hw : Spaces w) :
    ∃ last, s.run? w = some last ∧ Rested members up last := by
  cases w with
  | nil => exact ⟨s, rfl, h⟩
  | cons c w =>
    have hc := hw.isSpace c List.mem_cons_self
    have hpause : (State.afterValue ⟨.object, members⟩ up).IsPause := trivial
    have hfirst : s.step? c = some (.afterValue ⟨.object, members⟩ up) :=
      (h.step? (.inl hc)).trans (hpause.step? hc)
    have hrest := hpause.run?_spaces fun d hd => hw d (List.mem_cons_of_mem c hd)
    refine ⟨_, ?_, .after⟩
    rw [run?_cons, hfirst, Option.bind_some, hrest]

theorem exists_run?_skip {t : List Char} (h : WellFormed .value t) (members : List Member)
    (up : List Parent) :
    ∃ last, (State.skip .start members up).run? t = some last ∧ Rested members up last := by
  have hlift {v last : Skip} {u : List Char} (hrun : Step.run? Skip.step v u = some last) :
      (State.skip v members up).run? u = some (.skip last members up) := by
    apply run?_of_run? (fun v => State.skip v members up) _ hrun
    intro v c next hnext
    have hends := Skip.endsBefore_eq_false (v := v) (c := c) (by simp [hnext])
    simp only [State.step?, hends, hnext, Bool.false_eq_true, ↓reduceIte]
  rcases Skip.passes_of_wellFormed h [] .value (.inl rfl) with
    ⟨p, hp, hrun⟩ | ⟨u, c, last, rfl, hrun, hlast⟩
  · exact ⟨_, hlift hrun, .number hp⟩
  · have hstart : (State.skip .start members up).run? u = some (.skip last members up) :=
      hlift hrun
    have hends := Skip.endsBefore_eq_false (v := last) (c := c) (by simp [hlast, Skip.close])
    refine ⟨_, ?_, .after⟩
    rw [run?_append, hstart, Option.bind_some, run?_cons]
    simp only [State.step?, hends, hlast, Skip.close, Bool.false_eq_true, ↓reduceIte]
    rfl

end Skipping

end State

open State

/-- How the reader reads a text with the given meaning. Members are kept with the latest first. -/
def Accepts (d : Nat) : Meaning → List Char → Prop
  | .node n, t => ∀ up, d = 2 * up.length →
    ∃ c u s, t = c :: u ∧ beginNode? up c = some s ∧ s.run? u = some (ofNode n up)
  | .nodes ns, t => ∀ first p up, d = 2 * up.length + 2 → (State.child first p up).run? t =
    some (.afterChild { p with children := ns.reverse ++ p.children } up)
  | .value m, t => ∀ draft up, d = 2 * up.length + 1 →
    (State.value m.field draft up).run? t = some (addMember draft m up)
  | .values ms, t => ms ≠ [] ∧ ∀ field later rest members up, d = 2 * up.length + 1 →
    field :: later = ms.map Member.field ++ rest →
    (State.value field ⟨.row later, members⟩ up).run? t =
      some (.afterValue ⟨.row rest, ms.reverse ++ members⟩ up)
  | .members ms, t => ∀ first members up, d = 2 * up.length + 1 →
    ((ms.reverse ++ members).map Member.field).Nodup →
    ∃ last, (State.key first members up).run? t = some last ∧
      Rested (ms.reverse ++ members) up last

section Values

variable {d : Nat}

theorem accepts_kind {s : String} {t : List Char} (h : StringLiteral s t) :
    Accepts d (.value (.kind s)) t := by
  intro draft up _
  exact run?_text up h .kind draft (by decide)

theorem accepts_label {l : Label} {s : String} {t : List Char} (h : StringLiteral s t) :
    Accepts d (.value (.label l (some s))) t := by
  intro draft up _
  exact run?_text up h (.label l) draft (by simp)

theorem accepts_noLabel {l : Label} : Accepts d (.value (.label l none)) ['n', 'u', 'l', 'l'] := by
  intro draft up _
  rfl

theorem accepts_noInner : Accepts d (.value (.inner none)) ['n', 'u', 'l', 'l'] := by
  intro draft up _
  rfl

theorem step?_openInner {draft : Draft} {up : List Parent} (h : 2 * up.length + 1 + 1 < 128) :
    (State.value .inner draft up).step? '[' = some (.child true ⟨draft, []⟩ up) := by
  have hopen := mayOpen_eq_true_iff.mpr h
  simp [step?, isSpace, beginValue?, hopen]

theorem accepts_emptyInner {w : List Char} (hd : d + 1 < 128) (hw : Spaces w) :
    Accepts d (.value (.inner (some []))) ('[' :: w ++ [']']) := by
  intro draft up hdepth
  have hspaces : (State.child true ⟨draft, []⟩ up).run? w = some (.child true ⟨draft, []⟩ up) :=
    IsPause.run?_spaces trivial hw
  have hopen : (State.value .inner draft up).step? '[' = some (.child true ⟨draft, []⟩ up) :=
    step?_openInner (by omega)
  rw [List.cons_append, run?_cons]
  simp only [Member.field, hopen, Option.bind_some, run?_append, hspaces]
  rfl

theorem accepts_inner {ns : List Node} {t : List Char} (hd : d + 1 < 128)
    (h : Accepts (d + 1) (.nodes ns) t) :
    Accepts d (.value (.inner (some ns))) ('[' :: t ++ [']']) := by
  intro draft up hdepth
  have hnodes := h true ⟨draft, []⟩ up (by omega)
  have hopen : (State.value .inner draft up).step? '[' = some (.child true ⟨draft, []⟩ up) :=
    step?_openInner (by omega)
  have hclose : (State.afterChild ⟨draft, ns.reverse⟩ up).step? ']' =
      some (addMember draft (.inner (some ns)) up) := by
    simp [step?, isSpace, endList]
  rw [List.append_nil] at hnodes
  rw [List.cons_append, run?_cons]
  simp only [Member.field, hopen, Option.bind_some, run?_append, hnodes, run?_cons, hclose]
  rfl

end Values

section Lists

variable {d : Nat}

theorem of_beginNode?_eq_some {up : List Parent} {c : Char} {s : State}
    (h : beginNode? up c = some s) : c = '\x7b' ∨ c = '[' := by
  unfold beginNode? at h
  split_ifs at h with _ hbrace hbracket
  · exact .inl hbrace
  · exact .inr hbracket

theorem child_begin {first : Bool} {p : Parent} {up : List Parent} {c : Char} {s : State}
    (h : beginNode? (p :: up) c = some s) : (State.child first p up).step? c = some s := by
  rw [← h]
  rcases of_beginNode?_eq_some h with rfl | rfl <;> simp [step?, isSpace]

theorem root_begin {c : Char} {s : State} (h : beginNode? [] c = some s) :
    State.root.step? c = some s := by
  rw [← h]
  rcases of_beginNode?_eq_some h with rfl | rfl <;> rfl

theorem accepts_child {n : Node} {a t b : List Char} (ha : Spaces a) (h : Accepts d (.node n) t)
    (hb : Spaces b) : Accepts d (.nodes [n]) (a ++ t ++ b) := by
  intro first p up hdepth
  obtain ⟨c, u, s, rfl, hbegin, hrun⟩ := h (p :: up) (by rw [List.length_cons]; omega)
  have hspaces : (State.child first p up).run? a = some (.child first p up) :=
    IsPause.run?_spaces trivial ha
  rw [run?_append, run?_append, hspaces, Option.bind_some, run?_cons, child_begin hbegin,
    Option.bind_some, hrun, Option.bind_some]
  exact IsPause.run?_spaces trivial hb

theorem accepts_children {ms ns : List Node} {s t : List Char} (hs : Accepts d (.nodes ms) s)
    (ht : Accepts d (.nodes ns) t) : Accepts d (.nodes (ms ++ ns)) (s ++ ',' :: t) := by
  intro first p up hdepth
  have hcomma (p : Parent) : (State.afterChild p up).step? ',' = some (.child false p up) := rfl
  rw [run?_append, hs first p up hdepth, Option.bind_some, run?_cons, hcomma, Option.bind_some,
    ht false _ up hdepth, List.reverse_append, List.append_assoc]

theorem accepts_item {m : Member} {a t b : List Char} (ha : Spaces a)
    (h : Accepts d (.value m) t) (hb : Spaces b) : Accepts d (.values [m]) (a ++ t ++ b) := by
  refine ⟨List.cons_ne_nil _ _, ?_⟩
  intro field later rest members up hdepth hfields
  obtain ⟨rfl, rfl⟩ : field = m.field ∧ later = rest := List.cons.inj hfields
  have hspaces : (State.value m.field ⟨.row later, members⟩ up).run? a =
      some (.value m.field ⟨.row later, members⟩ up) := IsPause.run?_spaces trivial ha
  rw [run?_append, run?_append, hspaces, Option.bind_some, h _ up hdepth, Option.bind_some]
  exact IsPause.run?_spaces trivial hb

theorem accepts_items {ms ns : List Member} {s t : List Char} (hs : Accepts d (.values ms) s)
    (ht : Accepts d (.values ns) t) : Accepts d (.values (ms ++ ns)) (s ++ ',' :: t) := by
  obtain ⟨hne, hs⟩ := hs
  obtain ⟨hne', ht⟩ := ht
  refine ⟨List.append_ne_nil_of_left_ne_nil hne ns, ?_⟩
  intro field later rest members up hdepth hfields
  rw [List.map_append, List.append_assoc] at hfields
  have hfirst := hs field later _ members up hdepth hfields
  -- after the comma there is a field left, the first of those that follow
  cases ns with
  | nil => exact absurd rfl hne'
  | cons n ns =>
    have hsecond := ht n.field (ns.map Member.field ++ rest) rest (ms.reverse ++ members) up hdepth
      rfl
    rw [run?_append, hfirst, Option.bind_some, List.reverse_append, List.append_assoc, ← hsecond]
    rfl

theorem accepts_member {m : Member} {key : String} {a k b c t e : List Char} (ha : Spaces a)
    (hfield : (m.field, key) ∈ keys) (hk : StringLiteral key k) (hb : Spaces b) (hc : Spaces c)
    (h : Accepts d (.value m) t) (he : Spaces e) :
    Accepts d (.members [m]) (a ++ k ++ b ++ ':' :: c ++ t ++ e) := by
  intro first members up hdepth hnodup
  have hnew : members.any (·.field = m.field) = false := by
    rw [List.any_eq_false]
    intro m' hm'
    have hne := ne_field_of_mem hnodup hm'
    simp [hne.symm]
  have hkey : (State.key first members up).run? k = some (.colon (some m.field) members up) := by
    rw [run?_key up hk, afterKey?, ofKey?_eq_some_iff.mpr hfield]
    simp only [hnew, Bool.false_eq_true, ↓reduceIte]
  have hcolon : (State.colon (some m.field) members up).step? ':' =
      some (.value m.field ⟨.object, members⟩ up) := rfl
  have hvalue := h ⟨.object, members⟩ up hdepth
  have hend : Rested (m :: members) up (.afterValue ⟨.object, m :: members⟩ up) := .after
  obtain ⟨last, hlast, hrested⟩ := hend.spaces he
  have hbefore : (State.key first members up).run? a = some (.key first members up) :=
    IsPause.run?_spaces trivial ha
  have hmiddle : (State.colon (some m.field) members up).run? b =
      some (.colon (some m.field) members up) := IsPause.run?_spaces trivial hb
  have hafter : (State.value m.field ⟨.object, members⟩ up).run? c =
      some (.value m.field ⟨.object, members⟩ up) := IsPause.run?_spaces trivial hc
  refine ⟨last, ?_, hrested⟩
  simp only [run?_append, run?_cons, hbefore, hkey, hmiddle, hcolon, hafter, hvalue,
    Option.bind_some]
  exact hlast

theorem accepts_other {key : String} {a k b c t e : List Char} (ha : Spaces a)
    (hkey : ∀ f, (f, key) ∉ keys) (hk : StringLiteral key k) (hb : Spaces b) (hc : Spaces c)
    (h : WellFormed .value t) (he : Spaces e) :
    Accepts d (.members []) (a ++ k ++ b ++ ':' :: c ++ t ++ e) := by
  intro first members up hdepth hnodup
  have hkey : (State.key first members up).run? k = some (.colon none members up) := by
    rw [run?_key up hk, afterKey?, ofKey?_eq_none_iff.mpr hkey]
  have hcolon : (State.colon none members up).step? ':' = some (.skip .start members up) := rfl
  have hbefore : (State.key first members up).run? a = some (.key first members up) :=
    IsPause.run?_spaces trivial ha
  have hmiddle : (State.colon none members up).run? b = some (.colon none members up) :=
    IsPause.run?_spaces trivial hb
  have hafter : (State.skip .start members up).run? c = some (.skip .start members up) :=
    IsPause.run?_spaces trivial hc
  obtain ⟨mid, hmid, hrested⟩ := exists_run?_skip h members up
  obtain ⟨last, hlast, hend⟩ := hrested.spaces he
  refine ⟨last, ?_, hend⟩
  simp only [run?_append, run?_cons, hbefore, hkey, hmiddle, hcolon, hafter, hmid,
    Option.bind_some]
  exact hlast

theorem accepts_members {ms ns : List Member} {s t : List Char} (hs : Accepts d (.members ms) s)
    (ht : Accepts d (.members ns) t) : Accepts d (.members (ms ++ ns)) (s ++ ',' :: t) := by
  intro first members up hdepth hnodup
  rw [List.reverse_append, List.append_assoc] at hnodup ⊢
  have hnodup' : ((ms.reverse ++ members).map Member.field).Nodup := by
    rw [List.map_append] at hnodup
    exact hnodup.of_append_right
  obtain ⟨mid, hmid, hrested⟩ := hs first members up hdepth hnodup'
  obtain ⟨last, hlast, hend⟩ := ht false _ up hdepth hnodup
  have hcomma : mid.step? ',' = some (.key false (ms.reverse ++ members) up) :=
    hrested.step? (.inr (.inl rfl))
  refine ⟨last, ?_, hend⟩
  rw [run?_append, hmid, Option.bind_some, run?_cons, hcomma, Option.bind_some, hlast]

end Lists

section Nodes

variable {d : Nat} {n : Node} {ms : List Member} {t : List Char}

theorem endNode?_eq_some {shape : Shape} (hnodup : (ms.map Member.field).Nodup)
    (hn : Describes ms n) (up : List Parent) :
    endNode? ⟨shape, ms.reverse⟩ up = some (ofNode n up) := by
  unfold endNode?
  rw [(ofMembers?_reverse hnodup).mpr hn]
  rfl

theorem accepts_object (hd : d + 1 < 128) (h : Accepts (d + 1) (.members ms) t)
    (hnodup : (ms.map Member.field).Nodup) (hn : Describes ms n) :
    Accepts d (.node n) ('\x7b' :: t ++ ['\x7d']) := by
  intro up hdepth
  have hopen : mayOpen (2 * up.length) = true := mayOpen_eq_true_iff.mpr (by omega)
  have hbegin : beginNode? up '\x7b' = some (.key true [] up) := by
    simp [beginNode?, hopen]
  have hnodup' : ((ms.reverse ++ []).map Member.field).Nodup := by
    rw [List.append_nil]
    exact nodup_field_reverse_iff.mpr hnodup
  obtain ⟨last, hlast, hrested⟩ := h true [] up (by omega) hnodup'
  rw [List.append_nil] at hrested
  have hclose : last.step? '\x7d' = some (ofNode n up) :=
    (hrested.step? (.inr (.inr (.inr rfl)))).trans (endNode?_eq_some hnodup hn up)
  refine ⟨'\x7b', t ++ ['\x7d'], _, rfl, hbegin, ?_⟩
  rw [run?_append, hlast, Option.bind_some, run?_cons, hclose]
  rfl

theorem accepts_row (hd : d + 1 < 128) (h : Accepts (d + 1) (.values ms) t)
    (hfields : ms.map Member.field <+: keys.map Prod.fst) (hn : Describes ms n) :
    Accepts d (.node n) ('[' :: t ++ [']']) := by
  intro up hdepth
  obtain ⟨rest, hrest⟩ := hfields
  rw [map_fst_keys] at hrest
  have hopen : mayOpen (2 * up.length) = true := mayOpen_eq_true_iff.mpr (by omega)
  have hbegin : beginNode? up '[' = some (.value .kind ⟨.row (Field.all.drop 1), []⟩ up) := by
    simp [beginNode?, hopen]
  have hnodup : (ms.map Member.field).Nodup := by
    have hall : Field.all.Nodup := by decide
    rw [← hrest] at hall
    exact hall.of_append_left
  have hvalues := h.2 .kind (Field.all.drop 1) rest [] up (by omega) hrest.symm
  rw [List.append_nil] at hvalues
  have hclose : (State.afterValue ⟨.row rest, ms.reverse⟩ up).step? ']' = some (ofNode n up) :=
    endNode?_eq_some hnodup hn up
  refine ⟨'[', t ++ [']'], _, rfl, hbegin, ?_⟩
  rw [run?_append, hvalues, Option.bind_some, run?_cons, hclose]
  rfl

end Nodes

/-- Every part of a dump is read as what it stands for. -/
theorem accepts_of_spells {d : Nat} {m : Meaning} {t : List Char} (h : Spells d m t) :
    Accepts d m t := by
  induction h with
  | kind h => exact accepts_kind h
  | label h => exact accepts_label h
  | noLabel => exact accepts_noLabel
  | noInner => exact accepts_noInner
  | emptyInner hd hw => exact accepts_emptyInner hd hw
  | inner hd _ ih => exact accepts_inner hd ih
  | child ha _ hb ih => exact accepts_child ha ih hb
  | children _ _ ihs iht => exact accepts_children ihs iht
  | item ha _ hb ih => exact accepts_item ha ih hb
  | items _ _ ihs iht => exact accepts_items ihs iht
  | member ha hfield hk hb hc _ he ih => exact accepts_member ha hfield hk hb hc ih he
  | other ha hkey hk hb hc ht he => exact accepts_other ha hkey hk hb hc ht he
  | members _ _ ihs iht => exact accepts_members ihs iht
  | object hd _ hnodup hn ih => exact accepts_object hd ih hnodup hn
  | row hd _ hfields hn ih => exact accepts_row hd ih hfields hn

theorem run?_of_spellsDump {n : Node} {text : String} (h : SpellsDump n text) :
    State.root.run? text.toList = some (.done n) := by
  obtain ⟨a, t, b, ha, ht, hb, htext⟩ := h
  obtain ⟨c, u, s, rfl, hbegin, hrun⟩ := accepts_of_spells ht [] rfl
  have hspaces : State.root.run? a = some .root := IsPause.run?_spaces trivial ha
  rw [htext, run?_append, run?_append, hspaces, Option.bind_some, run?_cons, root_begin hbegin,
    Option.bind_some, hrun, Option.bind_some]
  exact IsPause.run?_spaces trivial hb

end ParamDoc.Dump

namespace ParamDoc

open Dump
open Json (HexNumber IsPlain SpelledText StringLiteral spaces_nil spelledText_plain
  stringLiteral_plain)

/-- Decoding undoes every spelling. -/
theorem Node.decode_spelling {n : Node} {text : String} (h : SpellsDump n text) :
    Node.decode text = .ok n := by
  have hdecode : Dump.decode text.toList = .ok n := by
    unfold Dump.decode
    rw [run?_of_spellsDump h]
  unfold Node.decode
  rw [hdecode]

/-- A member that means nothing, an escaped key, and a child that is a list. -/
theorem Node.decode_spelling_mixed :
    SpellsDump ⟨"A", none, none, none, none, none, some [⟨"B", none, none, none, none, none, none⟩]⟩
        "\x7b\"x\":[],\"\\u006bind\":\"A\",\"inner\":[[\"B\"]]\x7d" ∧
      Node.decode "\x7b\"x\":[],\"\\u006bind\":\"A\",\"inner\":[[\"B\"]]\x7d" =
        .ok ⟨"A", none, none, none, none, none,
          some [⟨"B", none, none, none, none, none, none⟩]⟩ := by
  have hother : Spells 1 (.members []) _ :=
    .other spaces_nil (ofKey?_eq_none_iff.mp rfl)
      (stringLiteral_plain (s := "x") (by simp [IsPlain])) spaces_nil spaces_nil
      (.emptyList spaces_nil) spaces_nil
  have hnumber : HexNumber ['0', '0', '6', 'b'] 0x6b :=
    .snoc (n := 6) (d := 11) (.snoc (n := 0) (d := 6) (.snoc (n := 0) (d := 0) (.snoc (n := 0)
      (d := 0) .nil (by decide)) (by decide)) (by decide)) (by decide)
  have hletter : SpelledText ['k'] ['\\', 'u', '0', '0', '6', 'b'] :=
    .snoc .nil (.number (c := 'k') rfl hnumber)
  have hkey : StringLiteral "kind" ['"', '\\', 'u', '0', '0', '6', 'b', 'i', 'n', 'd', '"'] :=
    ⟨_, hletter.append (spelledText_plain (t := ['i', 'n', 'd']) (by simp [IsPlain])), rfl⟩
  have hkind : Spells 1 (.members [.kind "A"]) _ :=
    .member spaces_nil (by decide) hkey spaces_nil spaces_nil
      (.kind (stringLiteral_plain (by simp [IsPlain]))) spaces_nil
  have hchild : Spells 2 (.node ⟨"B", none, none, none, none, none, none⟩) _ :=
    .row (by decide)
      (.item spaces_nil (.kind (stringLiteral_plain (s := "B") (by simp [IsPlain]))) spaces_nil)
      (by decide) (describes_of_ofMembers? (by decide) rfl)
  have hinner : Spells 1
      (.members [.inner (some [⟨"B", none, none, none, none, none, none⟩])]) _ :=
    .member spaces_nil (by decide) (stringLiteral_plain (s := "inner") (by simp [IsPlain]))
      spaces_nil spaces_nil (.inner (by decide) (.child spaces_nil hchild spaces_nil)) spaces_nil
  have hnode : Spells 0 (.node ⟨"A", none, none, none, none, none,
      some [⟨"B", none, none, none, none, none, none⟩]⟩) _ :=
    .object (by decide) (hother.members (hkind.members hinner)) (by decide)
      (describes_of_ofMembers? (by decide) rfl)
  have hspells : SpellsDump ⟨"A", none, none, none, none, none,
      some [⟨"B", none, none, none, none, none, none⟩]⟩
      "\x7b\"x\":[],\"\\u006bind\":\"A\",\"inner\":[[\"B\"]]\x7d" :=
    ⟨[], _, [], spaces_nil, hnode, spaces_nil, rfl⟩
  exact ⟨hspells, Node.decode_spelling hspells⟩

end ParamDoc
