import ParamDoc.Proofs.Dump.Grammar

/-!
# What spells a node

A text that spells a node is one JSON value. The limit on open brackets bounds the levels of the
tree: each level but the first is inside two more brackets than the one above it.
-/

namespace ParamDoc.Dump

open Json (WellFormed wellFormed_entry_of_key)

/-- The part of JSON text that a text with this meaning is. -/
def Meaning.part : Meaning → Json.Part
  | .node _ | .value _ => .value
  | .nodes _ | .values _ => .items
  | .members _ => .entries

theorem Spells.wellFormed {d : Nat} {m : Meaning} {t : List Char} (h : Spells d m t) :
    WellFormed m.part t := by
  induction h with
  | kind h | label h => exact h.wellFormed
  | noLabel | noInner => exact .word (by simp)
  | emptyInner _ hw => exact .emptyList hw
  | inner _ _ ih => exact .list ih
  | child ha _ hb ih | item ha _ hb ih => exact .item ha ih hb
  | children _ _ ihs iht | items _ _ ihs iht => exact .items ihs iht
  | member ha _ hk hb hc _ he ih => exact wellFormed_entry_of_key ha hk hb hc ih he
  | other ha _ hk hb hc ht he => exact wellFormed_entry_of_key ha hk hb hc ht he
  | members _ _ ihs iht => exact .entries ihs iht
  | object _ _ _ _ ih => exact .object ih
  | row _ _ _ _ ih => exact .list ih

/-- Inside so many open brackets, the node and all nodes below it keep the limit. -/
def Within (d : Nat) (n : Node) : Prop :=
  ∀ path x, n.descendant? path = some x →
    d + 2 * path.length + 1 < 128 ∧ (x.inner ≠ none → d + 2 * path.length + 2 < 128)

def MemberWithin (d : Nat) (m : Member) : Prop :=
  ∀ ns, m = .inner (some ns) → d + 1 < 128 ∧ ∀ n ∈ ns, Within (d + 1) n

def Meaning.Within (d : Nat) : Meaning → Prop
  | .node n => Dump.Within d n
  | .nodes ns => ∀ n ∈ ns, Dump.Within d n
  | .value m => MemberWithin d m
  | .values ms | .members ms => ∀ m ∈ ms, MemberWithin d m

theorem within_of_describes {d : Nat} {n : Node} {ms : List Member} (hd : d + 1 < 128)
    (hms : ∀ m ∈ ms, MemberWithin (d + 1) m) (hn : Describes ms n) : Within d n := by
  have hinner {ns : List Node} (hns : n.inner = some ns) :
      d + 2 < 128 ∧ ∀ x ∈ ns, Within (d + 2) x := by
    have hsaid : Has n (.inner (some ns)) := hns
    rcases hn.complete _ hsaid with hmem | hnull
    · exact hms _ hmem ns rfl
    · cases hnull
  intro path x hx
  cases path with
  | nil =>
    cases hx
    refine ⟨hd, ?_⟩
    intro hne
    obtain ⟨ns, hns⟩ := Option.ne_none_iff_exists'.mp hne
    exact (hinner hns).1
  | cons i path =>
    -- the path goes on from a child, which is inside two more brackets
    obtain ⟨child, hchild, hx⟩ := Option.bind_eq_some_iff.mp hx
    have hmem : child ∈ n.children := List.mem_of_getElem? hchild
    unfold Node.children at hmem
    cases hns : n.inner with
    | none =>
      rw [hns] at hmem
      exact absurd hmem List.not_mem_nil
    | some ns =>
      rw [hns] at hmem
      obtain ⟨hlevel, hlist⟩ := (hinner hns).2 child hmem path x hx
      rw [List.length_cons]
      refine ⟨by omega, ?_⟩
      intro hne
      have hbound := hlist hne
      omega

theorem Spells.within {d : Nat} {m : Meaning} {t : List Char} (h : Spells d m t) : m.Within d := by
  induction h with
  | kind _ | label _ | noLabel | noInner =>
    intro ns hns
    cases hns
  | emptyInner hd _ =>
    intro ns hns
    cases hns
    exact ⟨hd, by simp⟩
  | inner hd _ ih =>
    intro ns hns
    cases hns
    exact ⟨hd, ih⟩
  | child _ _ _ ih =>
    intro n hn
    rw [List.mem_singleton.mp hn]
    exact ih
  | item _ _ _ ih | member _ _ _ _ _ _ _ ih =>
    intro m hm
    rw [List.mem_singleton.mp hm]
    exact ih
  | children _ _ ihs iht | items _ _ ihs iht | members _ _ ihs iht =>
    intro x hx
    rcases List.mem_append.mp hx with hx | hx
    · exact ihs x hx
    · exact iht x hx
  | other _ _ _ _ _ _ _ =>
    intro m hm
    exact absurd hm List.not_mem_nil
  | object hd _ _ hn ih => exact within_of_describes hd ih hn
  | row hd _ _ hn ih => exact within_of_describes hd ih hn

/-- A tree that is spelled has at most 64 levels, and nodes on the last of them have no inner
list. -/
theorem levels_of_spells {n : Node} {t : List Char} (h : Spells 0 (.node n) t) {path : List Nat}
    {x : Node} (hx : n.descendant? path = some x) :
    path.length + 1 ≤ 64 ∧ (path.length + 1 = 64 → x.inner = none) := by
  obtain ⟨hlevel, hlist⟩ := h.within path x hx
  refine ⟨by omega, ?_⟩
  intro hlast
  by_contra hne
  have hbound := hlist hne
  omega

end ParamDoc.Dump
