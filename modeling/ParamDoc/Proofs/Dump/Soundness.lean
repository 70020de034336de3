import ParamDoc.Dump
import ParamDoc.Proofs.Dump.Levels
import ParamDoc.Proofs.Json.Skipped
import Mathlib.Tactic.SplitIfs

/-!
# Nothing else is decoded

When the reader ends with a node, the text spells that node. While it reads, the text so far is
described by what is due next: each parent contributes what stands before it, what has been said
about it, and the children that are complete.
-/

namespace ParamDoc.Dump

open Json (Literal Skip isSpace Spaces StringLiteral WellFormed spaces_nil)

/-- What the reader expects: a node, a key of an object, the value of a field, or what may follow
such a value. -/
inductive Stage where
  | node (up : List Parent)
  | key (members : List Member) (up : List Parent)
  | value (field : Field) (draft : Draft) (up : List Parent)
  | after (draft : Draft) (up : List Parent)

/-- What has been read when the reader expects this. -/
inductive Due : Stage → List Char → Prop
  | root {w : List Char} : Spaces w → Due (.node []) w
  | firstChild {draft : Draft} {up : List Parent} {t w : List Char} :
      Due (.value .inner draft up) t → 2 * up.length + 1 + 1 < 128 → Spaces w →
      Due (.node (⟨draft, []⟩ :: up)) (t ++ '[' :: w)
  | child {p : Parent} {up : List Parent} {t s w : List Char} : Due (.value .inner p.draft up) t →
      2 * up.length + 1 + 1 < 128 → Spells (2 * up.length + 1 + 1) (.nodes p.children.reverse) s →
      Spaces w → Due (.node (p :: up)) (t ++ '[' :: s ++ ',' :: w)
  | firstKey {up : List Parent} {t w : List Char} : Due (.node up) t → 2 * up.length + 1 < 128 →
      Spaces w → Due (.key [] up) (t ++ '\x7b' :: w)
  | key {members : List Member} {up : List Parent} {t w : List Char} :
      Due (.after ⟨.object, members⟩ up) t → Spaces w → Due (.key members up) (t ++ ',' :: w)
  | member {field : Field} {key : String} {members : List Member} {up : List Parent}
      {t k b c : List Char} : Due (.key members up) t → (field, key) ∈ keys →
      StringLiteral key k → field ∉ members.map Member.field → Spaces b → Spaces c →
      Due (.value field ⟨.object, members⟩ up) (t ++ k ++ b ++ ':' :: c)
  | firstItem {up : List Parent} {t w : List Char} : Due (.node up) t → 2 * up.length + 1 < 128 →
      Spaces w → Due (.value .kind ⟨.row (Field.all.drop 1), []⟩ up) (t ++ '[' :: w)
  | item {field : Field} {later : List Field} {members : List Member} {up : List Parent}
      {t w : List Char} : Due (.after ⟨.row (field :: later), members⟩ up) t → Spaces w →
      Due (.value field ⟨.row later, members⟩ up) (t ++ ',' :: w)
  | afterMember {members : List Member} {up : List Parent} {t s : List Char} : Due (.node up) t →
      2 * up.length + 1 < 128 → Spells (2 * up.length + 1) (.members members.reverse) s →
      (members.map Member.field).Nodup → Due (.after ⟨.object, members⟩ up) (t ++ '\x7b' :: s)
  | afterItem {later : List Field} {members : List Member} {up : List Parent} {t s : List Char} :
      Due (.node up) t → 2 * up.length + 1 < 128 →
      Spells (2 * up.length + 1) (.values members.reverse) s →
      members.reverse.map Member.field ++ later = Field.all →
      Due (.after ⟨.row later, members⟩ up) (t ++ '[' :: s)

/-- The meanings of texts that may end with spaces. -/
def Meaning.IsPadded : Meaning → Prop
  | .node _ | .value _ => False
  | .nodes _ | .values _ | .members _ => True

theorem Spells.space {d : Nat} {m : Meaning} {t : List Char} {c : Char} (h : Spells d m t)
    (hm : m.IsPadded) (hc : isSpace c = true) : Spells d m (t ++ [c]) := by
  induction h with
  | child ha ht hb =>
    rw [List.append_assoc]
    exact .child ha ht (hb.concat hc)
  | children hs _ _ iht =>
    rw [List.append_assoc]
    exact .children hs (iht trivial)
  | item ha ht hb =>
    rw [List.append_assoc]
    exact .item ha ht (hb.concat hc)
  | items hs _ _ iht =>
    rw [List.append_assoc]
    exact .items hs (iht trivial)
  | member ha hfield hk hb hd ht he =>
    rw [List.append_assoc]
    exact .member ha hfield hk hb hd ht (he.concat hc)
  | other ha hkey hk hb hd ht he =>
    rw [List.append_assoc]
    exact .other ha hkey hk hb hd ht (he.concat hc)
  | members hs _ _ iht =>
    rw [List.append_assoc]
    exact .members hs (iht trivial)
  | _ => exact absurd hm id

theorem Due.space {stage : Stage} {t : List Char} {c : Char} (h : Due stage t)
    (hc : isSpace c = true) : Due stage (t ++ [c]) := by
  cases h with
  | root hw => exact .root (hw.concat hc)
  | firstChild ht hd hw =>
    rw [List.append_assoc]
    exact .firstChild ht hd (hw.concat hc)
  | child ht hd hs hw =>
    rw [List.append_assoc]
    exact .child ht hd hs (hw.concat hc)
  | firstKey ht hd hw =>
    rw [List.append_assoc]
    exact .firstKey ht hd (hw.concat hc)
  | key ht hw =>
    rw [List.append_assoc]
    exact .key ht (hw.concat hc)
  | member ht hfield hk hnew hb hw =>
    rw [List.append_assoc]
    exact .member ht hfield hk hnew hb (hw.concat hc)
  | firstItem ht hd hw =>
    rw [List.append_assoc]
    exact .firstItem ht hd (hw.concat hc)
  | item ht hw =>
    rw [List.append_assoc]
    exact .item ht (hw.concat hc)
  | afterMember ht hd hs hnodup =>
    rw [List.append_assoc]
    exact .afterMember ht hd (hs.space trivial hc) hnodup
  | afterItem ht hd hs hfields =>
    rw [List.append_assoc]
    exact .afterItem ht hd (hs.space trivial hc) hfields

section Completion

variable {up : List Parent} {t s : List Char}

/-- Members complete an object up to here, after the spaces before them. -/
theorem Due.members {members ns : List Member} (h : Due (.key members up) t)
    (hs : ∀ a, Spaces a → Spells (2 * up.length + 1) (.members ns) (a ++ s))
    (hnodup : ((ns.reverse ++ members).map Member.field).Nodup) :
    Due (.after ⟨.object, ns.reverse ++ members⟩ up) (t ++ s) := by
  cases h with
  | @firstKey _ t w ht hd hw =>
    have htext : t ++ '\x7b' :: w ++ s = t ++ '\x7b' :: (w ++ s) := List.append_assoc _ _ _
    have hmembers := hs w hw
    rw [htext]
    apply Due.afterMember ht hd _ hnodup
    rwa [List.append_nil, List.reverse_reverse]
  | @key _ _ u w hu hw =>
    cases hu with
    | @afterMember _ _ t r ht hd hr _ =>
      have htext : t ++ '\x7b' :: r ++ ',' :: w ++ s = t ++ '\x7b' :: (r ++ ',' :: (w ++ s)) := by
        simp
      have hmembers := Spells.members hr (hs w hw)
      rw [htext]
      apply Due.afterMember ht hd _ hnodup
      rwa [List.reverse_append, List.reverse_reverse]

theorem Due.nodup {members : List Member} (h : Due (.key members up) t) :
    (members.map Member.field).Nodup := by
  cases h with
  | firstKey _ _ _ => exact List.nodup_nil
  | key hu _ =>
    cases hu with
    | afterMember _ _ _ hnodup => exact hnodup

theorem Due.complete {m : Member} {draft : Draft} (h : Due (.value m.field draft up) t)
    (hs : Spells (2 * up.length + 1) (.value m) s) :
    Due (.after ⟨draft.shape, m :: draft.members⟩ up) (t ++ s) := by
  have hitem {w : List Char} (hw : Spaces w) :
      Spells (2 * up.length + 1) (.values [m]) (w ++ s) := by
    have hitem := Spells.item hw hs spaces_nil
    rwa [List.append_nil] at hitem
  generalize hfield : m.field = field at h
  cases h with
  | @member _ key members _ t k b c ht hkey hk hnew hb hc =>
    subst hfield
    have htext : t ++ k ++ b ++ ':' :: c ++ s = t ++ (k ++ b ++ ':' :: c ++ s) := by simp
    rw [htext]
    have hmembers (a : List Char) (ha : Spaces a) :
        Spells (2 * up.length + 1) (.members [m]) (a ++ (k ++ b ++ ':' :: c ++ s)) := by
      have hmember := Spells.member ha hkey hk hb hc hs spaces_nil
      rw [List.append_nil] at hmember
      simpa using hmember
    have hnodup : (([m].reverse ++ members).map Member.field).Nodup :=
      List.nodup_cons.mpr ⟨hnew, ht.nodup⟩
    exact Due.members ht hmembers hnodup
  | @firstItem _ t w ht hd hw =>
    have htext : t ++ '[' :: w ++ s = t ++ '[' :: (w ++ s) := List.append_assoc _ _ _
    have hitems : Spells (2 * up.length + 1) (.values [m].reverse) (w ++ s) := hitem hw
    have hfields : [m].reverse.map Member.field ++ Field.all.drop 1 = Field.all := by
      simp [hfield, Field.all]
    rw [htext]
    exact .afterItem ht hd hitems hfields
  | @item _ later members _ u w hu hw =>
    cases hu with
    | @afterItem _ _ _ t r ht hd hr hfields =>
      have htext : t ++ '[' :: r ++ ',' :: w ++ s = t ++ '[' :: (r ++ ',' :: (w ++ s)) := by simp
      have hitems := Spells.items hr (hitem hw)
      have hfields' : (m :: members).reverse.map Member.field ++ later = Field.all := by
        rw [← hfields, ← hfield]
        simp
      rw [← List.reverse_cons] at hitems
      rw [htext]
      exact .afterItem ht hd hitems hfields'

end Completion

namespace State

/-- What has been read when the reader is in the given state. -/
inductive ReadFrom : State → List Char → Prop
  | root {w : List Char} : Spaces w → ReadFrom .root w
  | firstChild {draft : Draft} {up : List Parent} {t w : List Char} :
      Due (.value .inner draft up) t → 2 * up.length + 1 + 1 < 128 → Spaces w →
      ReadFrom (.child true ⟨draft, []⟩ up) (t ++ '[' :: w)
  | child {p : Parent} {up : List Parent} {t : List Char} : Due (.node (p :: up)) t →
      ReadFrom (.child false p up) t
  | firstKey {up : List Parent} {t : List Char} : Due (.key [] up) t → ReadFrom (.key true [] up) t
  | key {members : List Member} {up : List Parent} {t : List Char} : Due (.key members up) t →
      ReadFrom (.key false members up) t
  | keyText {l : Literal} {members : List Member} {up : List Parent} {t s : List Char} :
      Due (.key members up) t → l.ReadFrom s → ReadFrom (.keyText l members up) (t ++ '"' :: s)
  | colon {field : Option Field} {key : String} {members : List Member} {up : List Parent}
      {t k b : List Char} : Due (.key members up) t → StringLiteral key k →
      Field.ofKey? key = field → (∀ f, field = some f → f ∉ members.map Member.field) →
      Spaces b → ReadFrom (.colon field members up) (t ++ k ++ b)
  | value {field : Field} {draft : Draft} {up : List Parent} {t : List Char} :
      Due (.value field draft up) t → ReadFrom (.value field draft up) t
  | word {field : Field} {draft : Draft} {up : List Parent} {t s left : List Char} :
      Due (.value field draft up) t → s ++ left = ['n', 'u', 'l', 'l'] →
      ReadFrom (.word left field draft up) (t ++ s)
  | text {l : Literal} {field : Field} {draft : Draft} {up : List Parent} {t s : List Char} :
      Due (.value field draft up) t → l.ReadFrom s →
      ReadFrom (.text l field draft up) (t ++ '"' :: s)
  | skip {v : Skip} {key : String} {members : List Member} {up : List Parent}
      {t k b s : List Char} : Due (.key members up) t → StringLiteral key k →
      (∀ f, (f, key) ∉ keys) → Spaces b → v.ReadFrom s →
      ReadFrom (.skip v members up) (t ++ k ++ b ++ ':' :: s)
  | afterValue {draft : Draft} {up : List Parent} {t : List Char} : Due (.after draft up) t →
      ReadFrom (.afterValue draft up) t
  | afterChild {p : Parent} {up : List Parent} {t s : List Char} :
      Due (.value .inner p.draft up) t → 2 * up.length + 1 + 1 < 128 →
      Spells (2 * up.length + 1 + 1) (.nodes p.children.reverse) s →
      ReadFrom (.afterChild p up) (t ++ '[' :: s)
  | done {n : Node} {a t b : List Char} : Spaces a → Spells 0 (.node n) t → Spaces b →
      ReadFrom (.done n) (a ++ t ++ b)

section Steps

variable {up : List Parent} {draft : Draft} {next : State} {t s : List Char} {c : Char}

theorem readFrom_addMember {m : Member} (h : Due (.value m.field draft up) t)
    (hs : Spells (2 * up.length + 1) (.value m) s) : ReadFrom (addMember draft m up) (t ++ s) :=
  .afterValue (h.complete hs)

/-- A node is the next child of its parent, or all of the dump. -/
theorem readFrom_ofNode {n : Node} (h : Due (.node up) t)
    (hs : Spells (2 * up.length) (.node n) s) : ReadFrom (ofNode n up) (t ++ s) := by
  cases h with
  | root hw =>
    have hdone := ReadFrom.done hw hs spaces_nil
    rwa [List.append_nil] at hdone
  | @firstChild draft up t w ht hd hw =>
    have htext : t ++ '[' :: w ++ s = t ++ '[' :: (w ++ s) := List.append_assoc _ _ _
    have hchild := Spells.child hw hs spaces_nil
    rw [List.append_nil] at hchild
    rw [htext]
    exact .afterChild ht hd hchild
  | @child p up t r w ht hd hr hw =>
    have htext : t ++ '[' :: r ++ ',' :: w ++ s = t ++ '[' :: (r ++ ',' :: (w ++ s)) := by simp
    have hchild := Spells.child hw hs spaces_nil
    rw [List.append_nil] at hchild
    have hchildren := Spells.children hr hchild
    rw [← List.reverse_cons] at hchildren
    rw [htext]
    exact .afterChild (p := ⟨p.draft, n :: p.children⟩) ht hd hchildren

theorem readFrom_beginNode (h : Due (.node up) t) (hstep : beginNode? up c = some next) :
    ReadFrom next (t ++ [c]) := by
  unfold beginNode? at hstep
  split_ifs at hstep with hopen hbrace hbracket
  · rw [Bool.not_eq_true, Bool.not_eq_false', mayOpen_eq_true_iff] at hopen
    cases hstep
    rw [hbrace]
    exact .firstKey (.firstKey h hopen spaces_nil)
  · rw [Bool.not_eq_true, Bool.not_eq_false', mayOpen_eq_true_iff] at hopen
    cases hstep
    rw [hbracket]
    exact .value (.firstItem h hopen spaces_nil)

theorem readFrom_beginValue {field : Field} (h : Due (.value field draft up) t)
    (hstep : beginValue? field draft up c = some next) : ReadFrom next (t ++ [c]) := by
  cases field with
  | kind =>
    simp only [beginValue?] at hstep
    split_ifs at hstep with hquote
    cases hstep
    rw [hquote]
    exact .text h Literal.readFrom_start
  | label l =>
    simp only [beginValue?] at hstep
    split_ifs at hstep with hquote hn
    · cases hstep
      rw [hquote]
      exact .text h Literal.readFrom_start
    · cases hstep
      rw [hn]
      exact .word h rfl
  | inner =>
    simp only [beginValue?] at hstep
    split_ifs at hstep with hn hbracket
    · cases hstep
      rw [hn]
      exact .word h rfl
    · obtain ⟨hbracket, hopen⟩ := hbracket
      cases hstep
      rw [hbracket]
      exact .firstChild h (mayOpen_eq_true_iff.mp hopen) spaces_nil

def closing : Shape → Char
  | .object => '\x7d'
  | .row _ => ']'

theorem readFrom_endNode (h : Due (.after draft up) t) (hstep : endNode? draft up = some next) :
    ReadFrom next (t ++ [closing draft.shape]) := by
  unfold endNode? at hstep
  obtain ⟨n, hn, rfl⟩ := Option.map_eq_some_iff.mp hstep
  cases h with
  | @afterMember members up t s ht hd hs hnodup =>
    have htext : t ++ '\x7b' :: s ++ ['\x7d'] = t ++ ('\x7b' :: s ++ ['\x7d']) :=
      List.append_assoc _ _ _
    have hdescribes := describes_of_ofMembers? hnodup hn
    rw [closing, htext]
    exact readFrom_ofNode ht
      (.object hd hs (nodup_field_reverse_iff.mpr hnodup) (describes_reverse_iff.mpr hdescribes))
  | @afterItem later members up t s ht hd hs hfields =>
    have htext : t ++ '[' :: s ++ [']'] = t ++ ('[' :: s ++ [']']) := List.append_assoc _ _ _
    have hnodup : (members.map Member.field).Nodup := by
      have hall : Field.all.Nodup := by decide
      rw [← hfields] at hall
      exact nodup_field_reverse_iff.mp hall.of_append_left
    have hdescribes := describes_of_ofMembers? hnodup hn
    rw [closing, htext]
    exact readFrom_ofNode ht (.row hd hs ⟨later, hfields⟩ (describes_reverse_iff.mpr hdescribes))

theorem readFrom_afterValue (h : Due (.after draft up) t)
    (hstep : afterValue? draft up c = some next) : ReadFrom next (t ++ [c]) := by
  obtain ⟨shape, members⟩ := draft
  cases shape with
  | object =>
    simp only [afterValue?] at hstep
    split_ifs at hstep with hspace hcomma hclose
    · cases hstep
      exact .afterValue (h.space hspace)
    · cases hstep
      rw [hcomma]
      exact .key (.key h spaces_nil)
    · rw [hclose]
      exact readFrom_endNode h hstep
  | row later =>
    simp only [afterValue?] at hstep
    split_ifs at hstep with hspace hcomma hclose
    · cases hstep
      exact .afterValue (h.space hspace)
    · cases later with
      | nil => cases hstep
      | cons f later =>
        cases hstep
        rw [hcomma]
        exact .value (.item h spaces_nil)
    · rw [hclose]
      exact readFrom_endNode h hstep

theorem readFrom_afterKey {key : String} {members : List Member} {k : List Char}
    (h : Due (.key members up) t) (hk : StringLiteral key k)
    (hstep : afterKey? key members up = some next) : ReadFrom next (t ++ k) := by
  have hcolon {field : Option Field} (hfield : Field.ofKey? key = field)
      (hnew : ∀ f, field = some f → f ∉ members.map Member.field) :
      ReadFrom (.colon field members up) (t ++ k) := by
    have hcolon := ReadFrom.colon h hk hfield hnew spaces_nil
    rwa [List.append_nil] at hcolon
  unfold afterKey? at hstep
  split at hstep
  · next hfield =>
    cases hstep
    exact hcolon hfield (by simp)
  · next f hfield =>
    split_ifs at hstep with hold
    cases hstep
    apply hcolon hfield
    rintro f' hf'
    cases hf'
    intro hmem
    obtain ⟨m, hm, hmf⟩ := List.mem_map.mp hmem
    apply hold
    rw [List.any_eq_true]
    exact ⟨m, hm, by simpa using hmf⟩

theorem readFrom_endList {p : Parent} (h : Due (.value .inner p.draft up) t)
    (hs : Spells (2 * up.length + 1) (.value (.inner (some p.children.reverse))) s) :
    ReadFrom (endList p up) (t ++ s) :=
  readFrom_addMember h hs

theorem due_skipped {key : String} {members : List Member} {k b : List Char}
    (h : Due (.key members up) t) (hk : StringLiteral key k) (hkey : ∀ f, (f, key) ∉ keys)
    (hb : Spaces b) (hs : Skip.Passed s) :
    Due (.after ⟨.object, members⟩ up) (t ++ k ++ b ++ ':' :: s) := by
  obtain ⟨w, v, hw, hv, rfl⟩ := hs
  have htext : t ++ k ++ b ++ ':' :: (w ++ v) = t ++ (k ++ b ++ ':' :: w ++ v) := by simp
  have hmember (a : List Char) (ha : Spaces a) :
      Spells (2 * up.length + 1) (.members []) (a ++ (k ++ b ++ ':' :: w ++ v)) := by
    have hother := @Spells.other (2 * up.length + 1) _ _ _ _ _ _ _ ha hkey hk hb hw hv spaces_nil
    rw [List.append_nil] at hother
    simpa using hother
  rw [htext]
  exact Due.members h hmember h.nodup

theorem spells_ofNull {d : Nat} {field : Field} {m : Member} (h : Member.ofNull field = some m) :
    m.field = field ∧ Spells d (.value m) ['n', 'u', 'l', 'l'] := by
  cases field with
  | kind => cases h
  | label l =>
    cases h
    exact ⟨rfl, .noLabel⟩
  | inner =>
    cases h
    exact ⟨rfl, .noInner⟩

theorem spells_ofText {d : Nat} {field : Field} {m : Member} {text : String}
    (h : Member.ofText field text = some m) (ht : StringLiteral text t) :
    m.field = field ∧ Spells d (.value m) t := by
  cases field with
  | kind =>
    cases h
    exact ⟨rfl, .kind ht⟩
  | label l =>
    cases h
    exact ⟨rfl, .label ht⟩
  | inner => cases h

theorem stringLiteral_of_done {l : Literal} {text : List Char} (h : l.ReadFrom s)
    (hstep : l.step c = .done text) : StringLiteral (String.ofList text) ('"' :: s ++ [c]) := by
  obtain ⟨rfl, htext⟩ := h.done hstep
  refine ⟨s, ?_, rfl⟩
  rw [String.toList_ofList]
  exact htext

theorem readFrom_firstChild {w : List Char} (h : Due (.value .inner draft up) t)
    (hd : 2 * up.length + 1 + 1 < 128) (hw : Spaces w)
    (hstep : (State.child true ⟨draft, []⟩ up).step? c = some next) :
    ReadFrom next (t ++ '[' :: w ++ [c]) := by
  have htext : t ++ '[' :: w ++ [c] = t ++ ('[' :: w ++ [c]) := List.append_assoc _ _ _
  simp only [State.step?] at hstep
  split_ifs at hstep with hspace hclose
  · cases hstep
    rw [htext]
    exact .firstChild h hd (hw.concat hspace)
  · cases hstep
    rw [htext, hclose.2]
    exact readFrom_endList h (.emptyInner hd hw)
  · exact readFrom_beginNode (.firstChild h hd hw) hstep

theorem readFrom_keyText {l : Literal} {members : List Member} (h : Due (.key members up) t)
    (hs : l.ReadFrom s) (hstep : (State.keyText l members up).step? c = some next) :
    ReadFrom next (t ++ ('"' :: s ++ [c])) := by
  simp only [State.step?] at hstep
  split at hstep
  · next l' hl =>
    cases hstep
    exact .keyText h (hs.step hl)
  · next text hl => exact readFrom_afterKey h (stringLiteral_of_done hs hl) hstep
  · cases hstep

theorem readFrom_colon {field : Option Field} {key : String} {members : List Member}
    {k b : List Char} (h : Due (.key members up) t) (hk : StringLiteral key k)
    (hkey : Field.ofKey? key = field) (hnew : ∀ f, field = some f → f ∉ members.map Member.field)
    (hb : Spaces b) (hstep : (State.colon field members up).step? c = some next) :
    ReadFrom next (t ++ k ++ b ++ [c]) := by
  simp only [State.step?] at hstep
  split_ifs at hstep with hspace hcolon
  · cases hstep
    rw [List.append_assoc]
    exact .colon h hk hkey hnew (hb.concat hspace)
  · rw [hcolon]
    cases field with
    | some f =>
      cases hstep
      exact .value (.member h (ofKey?_eq_some_iff.mp hkey) hk (hnew f rfl) hb spaces_nil)
    | none =>
      cases hstep
      exact .skip h hk (ofKey?_eq_none_iff.mp hkey) hb (.value (.start spaces_nil))

theorem readFrom_word {field : Field} {left : List Char} (h : Due (.value field draft up) t)
    (hs : s ++ left = ['n', 'u', 'l', 'l'])
    (hstep : (State.word left field draft up).step? c = some next) :
    ReadFrom next (t ++ (s ++ [c])) := by
  cases left with
  | nil => cases hstep
  | cons d left =>
    have hword : s ++ [d] ++ left = ['n', 'u', 'l', 'l'] := by
      rw [List.append_assoc]
      exact hs
    simp only [State.step?] at hstep
    split_ifs at hstep with hne hend
    · rw [Decidable.not_not] at hne
      rw [List.isEmpty_iff] at hend
      rw [hend, List.append_nil] at hword
      obtain ⟨m, hm, rfl⟩ := Option.map_eq_some_iff.mp hstep
      obtain ⟨rfl, hspells⟩ := spells_ofNull hm
      rw [hne, hword]
      exact readFrom_addMember h hspells
    · rw [Decidable.not_not] at hne
      cases hstep
      rw [hne]
      exact .word h hword

theorem readFrom_text {l : Literal} {field : Field} (h : Due (.value field draft up) t)
    (hs : l.ReadFrom s) (hstep : (State.text l field draft up).step? c = some next) :
    ReadFrom next (t ++ ('"' :: s ++ [c])) := by
  simp only [State.step?] at hstep
  split at hstep
  · next l' hl =>
    cases hstep
    exact .text h (hs.step hl)
  · next text hl =>
    obtain ⟨m, hm, rfl⟩ := Option.map_eq_some_iff.mp hstep
    obtain ⟨rfl, hspells⟩ := spells_ofText hm (stringLiteral_of_done hs hl)
    exact readFrom_addMember h hspells
  · cases hstep

theorem readFrom_skip {v : Skip} {key : String} {members : List Member} {k b : List Char}
    (h : Due (.key members up) t) (hk : StringLiteral key k) (hkey : ∀ f, (f, key) ∉ keys)
    (hb : Spaces b) (hs : v.ReadFrom s)
    (hstep : (State.skip v members up).step? c = some next) :
    ReadFrom next (t ++ k ++ b ++ ':' :: s ++ [c]) := by
  have htext : t ++ k ++ b ++ ':' :: s ++ [c] = t ++ k ++ b ++ ':' :: (s ++ [c]) :=
    List.append_assoc _ _ _
  have hfollows := hs.step c
  simp only [State.step?] at hstep
  split_ifs at hstep with hends
  · -- a number is over, and the character follows the member
    exact readFrom_afterValue (due_skipped h hk hkey hb (hs.passed hends)) hstep
  · rw [htext]
    split at hstep
    · next v' hv =>
      rw [hv] at hfollows
      cases hstep
      exact .skip h hk hkey hb hfollows
    · next hv =>
      rw [hv] at hfollows
      cases hstep
      exact .afterValue (due_skipped h hk hkey hb hfollows)
    · cases hstep

theorem readFrom_afterChild {p : Parent} (h : Due (.value .inner p.draft up) t)
    (hd : 2 * up.length + 1 + 1 < 128)
    (hs : Spells (2 * up.length + 1 + 1) (.nodes p.children.reverse) s)
    (hstep : (State.afterChild p up).step? c = some next) :
    ReadFrom next (t ++ '[' :: s ++ [c]) := by
  have htext : t ++ '[' :: s ++ [c] = t ++ ('[' :: s ++ [c]) := List.append_assoc _ _ _
  simp only [State.step?] at hstep
  split_ifs at hstep with hspace hcomma hclose
  · cases hstep
    rw [htext]
    exact .afterChild h hd (hs.space trivial hspace)
  · cases hstep
    rw [hcomma]
    exact .child (.child h hd hs spaces_nil)
  · cases hstep
    rw [htext, hclose]
    exact readFrom_endList h (.inner hd hs)

theorem ReadFrom.step? {current : State} (h : ReadFrom current t)
    (hstep : current.step? c = some next) : ReadFrom next (t ++ [c]) := by
  cases h with
  | root hw =>
    simp only [State.step?] at hstep
    split_ifs at hstep with hspace
    · cases hstep
      exact .root (hw.concat hspace)
    · exact readFrom_beginNode (.root hw) hstep
  | firstChild ht hd hw => exact readFrom_firstChild ht hd hw hstep
  | child ht =>
    simp only [State.step?] at hstep
    split_ifs at hstep with hspace hfirst
    · cases hstep
      exact .child (ht.space hspace)
    · cases hfirst.1
    · exact readFrom_beginNode ht hstep
  | firstKey ht =>
    simp only [State.step?] at hstep
    split_ifs at hstep with hspace hquote hclose
    · cases hstep
      exact .firstKey (ht.space hspace)
    · cases hstep
      rw [hquote]
      exact .keyText ht Literal.readFrom_start
    · cases hstep
  | key ht =>
    simp only [State.step?] at hstep
    split_ifs at hstep with hspace hquote hfirst
    · cases hstep
      exact .key (ht.space hspace)
    · cases hstep
      rw [hquote]
      exact .keyText ht Literal.readFrom_start
    · cases hfirst.1
  | keyText ht hs =>
    rw [List.append_assoc]
    exact readFrom_keyText ht hs hstep
  | colon ht hk hkey hnew hb => exact readFrom_colon ht hk hkey hnew hb hstep
  | value ht =>
    simp only [State.step?] at hstep
    split_ifs at hstep with hspace
    · cases hstep
      exact .value (ht.space hspace)
    · exact readFrom_beginValue ht hstep
  | word ht hs =>
    rw [List.append_assoc]
    exact readFrom_word ht hs hstep
  | text ht hs =>
    rw [List.append_assoc]
    exact readFrom_text ht hs hstep
  | skip ht hk hkey hb hs => exact readFrom_skip ht hk hkey hb hs hstep
  | afterValue ht => exact readFrom_afterValue ht hstep
  | afterChild ht hd hs => exact readFrom_afterChild ht hd hs hstep
  | done ha ht hb =>
    simp only [State.step?] at hstep
    split_ifs at hstep with hspace
    cases hstep
    rw [List.append_assoc]
    exact .done ha ht (hb.concat hspace)

theorem ReadFrom.run? {current : State} (h : ReadFrom current t)
    (hrun : current.run? s = some next) : ReadFrom next (t ++ s) := by
  induction s generalizing current t with
  | nil =>
    cases hrun
    rwa [List.append_nil]
  | cons c s ih =>
    obtain ⟨mid, hstep, hrest⟩ := Option.bind_eq_some_iff.mp hrun
    have hnext := ih (h.step? hstep) hrest
    rwa [List.append_assoc] at hnext

end Steps

end State

/-- A text that the reader accepts spells the node it ends with. -/
theorem spellsDump_of_run? {n : Node} {text : String}
    (h : State.root.run? text.toList = some (.done n)) : SpellsDump n text := by
  have hread := (State.ReadFrom.root spaces_nil).run? h
  rw [List.nil_append] at hread
  -- the text is an index of the invariant, so it must be a variable before the cases
  generalize htext : text.toList = t at hread
  cases hread with
  | done ha ht hb => exact ⟨_, _, _, ha, ht, hb, htext⟩

theorem run?_of_decode {n : Node} {text : String} (h : Node.decode text = .ok n) :
    State.root.run? text.toList = some (.done n) := by
  unfold Node.decode at h
  split at h
  · next m hm =>
    cases h
    unfold Dump.decode at hm
    split at hm
    · next m hrun =>
      cases hm
      exact hrun
    · cases hm
  · cases h

end ParamDoc.Dump

namespace ParamDoc

open Dump
open Json (Spaces WellFormed)

/-- Decoding accepts nothing but spellings: apart from the spaces around it, the text is one JSON
value that spells the node. The node has at most 64 levels, the last of them without inner
lists. -/
theorem Node.spelling_of_decode {n : Node} {text : String} (h : Node.decode text = .ok n) :
    (∃ a t b, Spaces a ∧ Spaces b ∧ text.toList = a ++ t ++ b ∧ WellFormed .value t ∧
      Spells 0 (.node n) t) ∧
    ∀ path x, n.descendant? path = some x →
      path.length + 1 ≤ 64 ∧ (path.length + 1 = 64 → x.inner = none) := by
  obtain ⟨a, t, b, ha, ht, hb, htext⟩ := spellsDump_of_run? (run?_of_decode h)
  refine ⟨⟨a, t, b, ha, hb, htext, ht.wellFormed, ht⟩, ?_⟩
  intro path x hx
  exact levels_of_spells ht hx

theorem Node.spelling_of_decode_row :
    Node.decode "\x7b\"x\":[-1],\"kind\":\"A\",\"inner\":[[\"B\"]]\x7d " =
        .ok ⟨"A", none, none, none, none, none, some [⟨"B", none, none, none, none, none, none⟩]⟩ ∧
      ∃ a t b, Spaces a ∧ Spaces b ∧
        "\x7b\"x\":[-1],\"kind\":\"A\",\"inner\":[[\"B\"]]\x7d ".toList = a ++ t ++ b ∧
        WellFormed .value t ∧ Spells 0 (.node ⟨"A", none, none, none, none, none,
          some [⟨"B", none, none, none, none, none, none⟩]⟩) t := by
  have hdecode : Node.decode "\x7b\"x\":[-1],\"kind\":\"A\",\"inner\":[[\"B\"]]\x7d " =
      .ok ⟨"A", none, none, none, none, none,
        some [⟨"B", none, none, none, none, none, none⟩]⟩ := by rfl
  exact ⟨hdecode, (Node.spelling_of_decode hdecode).1⟩

end ParamDoc
