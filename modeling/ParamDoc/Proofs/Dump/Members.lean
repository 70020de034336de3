import ParamDoc.Node
import Mathlib.Data.List.Nodup

/-!
# What is said about a node

A dump makes statements about the fields of a node. Statements about different fields make the
node that they describe, in whatever order they come.
-/

namespace ParamDoc.Dump

/-- The fields of a node and their keys, in the order in which a list has their values. -/
def keys : List (Field × String) :=
  [(.kind, "kind"), (.label .name, "name"), (.label .mangledName, "mangledName"),
    (.label .text, "text"), (.label .param, "param"), (.label .direction, "direction"),
    (.inner, "inner")]

def Has (n : Node) : Member → Prop
  | .kind s => n.kind = s
  | .label .name v => n.name = v
  | .label .mangledName v => n.mangledName = v
  | .label .text v => n.text = v
  | .label .param v => n.param = v
  | .label .direction v => n.direction = v
  | .inner ns => n.inner = ns

def IsNull : Member → Prop
  | .kind _ => False
  | .label _ v => v = none
  | .inner ns => ns = none

/-- The statements are true of the node, and leave out only what is absent. -/
structure Describes (ms : List Member) (n : Node) : Prop where
  sound : ∀ m ∈ ms, Has n m
  complete : ∀ m, Has n m → m ∈ ms ∨ IsNull m

theorem has_label_iff {n : Node} {l : Label} {v : Option String} :
    Has n (.label l v) ↔ n.label? l = v := by
  cases l <;> rfl

section Fields

theorem map_fst_keys : keys.map Prod.fst = Field.all := rfl

theorem mem_keys_iff {f : Field} {key : String} : (f, key) ∈ keys ↔ key = f.key := by
  have hkeys : ∀ entry ∈ keys, entry.2 = entry.1.key := by decide
  constructor
  · intro h
    exact hkeys _ h
  · rintro rfl
    rcases f with _ | l | _
    · decide
    · cases l <;> decide
    · decide

theorem ofKey?_eq_some_iff {key : String} {f : Field} :
    Field.ofKey? key = some f ↔ (f, key) ∈ keys := by
  constructor
  · intro h
    have hkey := List.find?_some h
    exact mem_keys_iff.mpr (of_decide_eq_true hkey).symm
  · intro h
    have hkeys : ∀ entry ∈ keys, Field.ofKey? entry.2 = some entry.1 := by decide
    exact hkeys _ h

theorem ofKey?_eq_none_iff {key : String} :
    Field.ofKey? key = none ↔ ∀ f, (f, key) ∉ keys := by
  constructor
  · intro h f hf
    rw [ofKey?_eq_some_iff.mpr hf] at h
    cases h
  · intro h
    cases hkey : Field.ofKey? key with
    | none => rfl
    | some f => exact absurd (ofKey?_eq_some_iff.mp hkey) (h f)

end Fields

section Descriptions

variable {ms : List Member}

/-- The first of statements about different fields is about another field than the others. -/
theorem ne_field_of_mem {m m' : Member} (hnodup : ((m :: ms).map Member.field).Nodup)
    (h : m' ∈ ms) : m.field ≠ m'.field := by
  rw [List.map_cons, List.nodup_cons] at hnodup
  intro heq
  apply hnodup.1
  rw [heq]
  exact List.mem_map_of_mem h

theorem kindIn_of_mem {s : String} (hnodup : (ms.map Member.field).Nodup) (h : .kind s ∈ ms) :
    Node.kindIn ms = some s := by
  induction ms with
  | nil => exact absurd h List.not_mem_nil
  | cons m ms ih =>
    rcases List.mem_cons.mp h with rfl | h
    · rfl
    · have hne := ne_field_of_mem hnodup h
      have hrest := ih (List.nodup_cons.mp hnodup).2 h
      cases m with
      | kind s' => exact absurd rfl hne
      | label l v => exact hrest
      | inner ns => exact hrest

theorem mem_of_kindIn {s : String} (h : Node.kindIn ms = some s) : .kind s ∈ ms := by
  induction ms with
  | nil => cases h
  | cons m ms ih =>
    cases m with
    | kind s' =>
      cases h
      exact List.mem_cons_self
    | label l v => exact List.mem_cons_of_mem _ (ih h)
    | inner ns => exact List.mem_cons_of_mem _ (ih h)

theorem labelIn_of_mem {l : Label} {v : Option String} (hnodup : (ms.map Member.field).Nodup)
    (h : .label l v ∈ ms) : Node.labelIn l ms = v := by
  induction ms with
  | nil => exact absurd h List.not_mem_nil
  | cons m ms ih =>
    rcases List.mem_cons.mp h with rfl | h
    · simp [Node.labelIn]
    · have hne := ne_field_of_mem hnodup h
      have hrest := ih (List.nodup_cons.mp hnodup).2 h
      cases m with
      | kind s => exact hrest
      | label l' v' =>
        have hl : l' ≠ l := by
          rintro rfl
          exact hne rfl
        simpa [Node.labelIn, hl] using hrest
      | inner ns => exact hrest

theorem labelIn_of_forall_notMem {l : Label} (h : ∀ v, .label l v ∉ ms) :
    Node.labelIn l ms = none := by
  induction ms with
  | nil => rfl
  | cons m ms ih =>
    have hrest := ih fun v hv => h v (List.mem_cons_of_mem m hv)
    cases m with
    | kind s => exact hrest
    | label l' v =>
      have hl : l' ≠ l := by
        rintro rfl
        exact h v List.mem_cons_self
      simpa [Node.labelIn, hl] using hrest
    | inner ns => exact hrest

theorem innerIn_of_mem {ns : Option (List Node)} (hnodup : (ms.map Member.field).Nodup)
    (h : .inner ns ∈ ms) : Node.innerIn ms = ns := by
  induction ms with
  | nil => exact absurd h List.not_mem_nil
  | cons m ms ih =>
    rcases List.mem_cons.mp h with rfl | h
    · rfl
    · have hne := ne_field_of_mem hnodup h
      have hrest := ih (List.nodup_cons.mp hnodup).2 h
      cases m with
      | kind s => exact hrest
      | label l v => exact hrest
      | inner ns' => exact absurd rfl hne

theorem innerIn_of_forall_notMem (h : ∀ ns, .inner ns ∉ ms) : Node.innerIn ms = none := by
  induction ms with
  | nil => rfl
  | cons m ms ih =>
    have hrest := ih fun ns hns => h ns (List.mem_cons_of_mem m hns)
    cases m with
    | kind s => exact hrest
    | label l v => exact hrest
    | inner ns => exact absurd List.mem_cons_self (h ns)

theorem ofMembers?_eq_some_iff {n : Node} : Node.ofMembers? ms = some n ↔
    Node.kindIn ms = some n.kind ∧ (∀ l, Node.labelIn l ms = n.label? l) ∧
      Node.innerIn ms = n.inner := by
  unfold Node.ofMembers?
  constructor
  · intro h
    obtain ⟨kind, hkind, rfl⟩ := Option.map_eq_some_iff.mp h
    refine ⟨hkind, ?_, rfl⟩
    intro l
    cases l <;> rfl
  · rintro ⟨hkind, hlabel, hinner⟩
    rw [hkind, hinner, hlabel, hlabel, hlabel, hlabel, hlabel]
    cases n
    rfl

theorem describes_of_ofMembers? (hnodup : (ms.map Member.field).Nodup) {n : Node}
    (h : Node.ofMembers? ms = some n) : Describes ms n := by
  obtain ⟨hkind, hlabel, hinner⟩ := ofMembers?_eq_some_iff.mp h
  constructor
  · intro m hm
    cases m with
    | kind s => exact Option.some.inj (hkind.symm.trans (kindIn_of_mem hnodup hm))
    | label l v => exact has_label_iff.mpr ((hlabel l).symm.trans (labelIn_of_mem hnodup hm))
    | inner ns => exact hinner.symm.trans (innerIn_of_mem hnodup hm)
  · intro m hm
    cases m with
    | kind s =>
      rw [← show n.kind = s from hm]
      exact .inl (mem_of_kindIn hkind)
    | label l v =>
      have hv : Node.labelIn l ms = v := (hlabel l).trans (has_label_iff.mp hm)
      by_cases hsaid : ∃ v', .label l v' ∈ ms
      · obtain ⟨v', hv'⟩ := hsaid
        rw [← hv, labelIn_of_mem hnodup hv']
        exact .inl hv'
      · exact .inr (hv.symm.trans (labelIn_of_forall_notMem (not_exists.mp hsaid)))
    | inner ns =>
      have hns : Node.innerIn ms = ns := hinner.trans hm
      by_cases hsaid : ∃ ns', .inner ns' ∈ ms
      · obtain ⟨ns', hns'⟩ := hsaid
        rw [← hns, innerIn_of_mem hnodup hns']
        exact .inl hns'
      · exact .inr (hns.symm.trans (innerIn_of_forall_notMem (not_exists.mp hsaid)))

theorem Describes.ofMembers? (hnodup : (ms.map Member.field).Nodup) {n : Node}
    (h : Describes ms n) : Node.ofMembers? ms = some n := by
  rw [ofMembers?_eq_some_iff]
  refine ⟨?_, ?_, ?_⟩
  · rcases h.complete (.kind n.kind) rfl with hmem | hnull
    · exact kindIn_of_mem hnodup hmem
    · exact False.elim hnull
  · intro l
    by_cases hsaid : ∃ v, .label l v ∈ ms
    · obtain ⟨v, hv⟩ := hsaid
      exact (labelIn_of_mem hnodup hv).trans (has_label_iff.mp (h.sound _ hv)).symm
    · rcases h.complete (.label l (n.label? l)) (has_label_iff.mpr rfl) with hmem | hnull
      · exact absurd ⟨_, hmem⟩ hsaid
      · exact (labelIn_of_forall_notMem (not_exists.mp hsaid)).trans (Eq.symm hnull)
  · by_cases hsaid : ∃ ns, .inner ns ∈ ms
    · obtain ⟨ns, hns⟩ := hsaid
      exact (innerIn_of_mem hnodup hns).trans (h.sound _ hns).symm
    · rcases h.complete (.inner n.inner) rfl with hmem | hnull
      · exact absurd ⟨_, hmem⟩ hsaid
      · exact (innerIn_of_forall_notMem (not_exists.mp hsaid)).trans (Eq.symm hnull)

theorem describes_reverse_iff {n : Node} : Describes ms.reverse n ↔ Describes ms n := by
  constructor <;> rintro ⟨hsound, hcomplete⟩
  · exact ⟨by simpa using hsound, by simpa using hcomplete⟩
  · exact ⟨by simpa using hsound, by simpa using hcomplete⟩

theorem nodup_field_reverse_iff :
    (ms.reverse.map Member.field).Nodup ↔ (ms.map Member.field).Nodup := by
  rw [List.map_reverse, List.nodup_reverse]

/-- The reader keeps the statements with the latest first. -/
theorem ofMembers?_reverse (hnodup : (ms.map Member.field).Nodup) {n : Node} :
    Node.ofMembers? ms.reverse = some n ↔ Describes ms n := by
  have hreverse := nodup_field_reverse_iff.mpr hnodup
  rw [← describes_reverse_iff]
  exact ⟨describes_of_ofMembers? hreverse, Describes.ofMembers? hreverse⟩

end Descriptions

end ParamDoc.Dump
