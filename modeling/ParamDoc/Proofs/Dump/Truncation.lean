import ParamDoc.Proofs.Dump.Root

/-!
# Parts of a dump

The reader ends with a node at the closing bracket of the outermost one, and from then on it passes
over spaces only. So no part of a dump that stops before that bracket is a dump.
-/

namespace ParamDoc

open Dump
open Json (Spaces isSpace isSpace_eq_true_iff spaces_nil)

namespace Dump

/-- A complete node may be followed by spaces, which do not change it. -/
theorem State.run?_done_iff {n : Node} {s : State} {u : List Char} :
    (State.done n).run? u = some s ↔ s = .done n ∧ Spaces u := by
  constructor
  · intro h
    induction u with
    | nil =>
      cases h
      exact ⟨rfl, spaces_nil⟩
    | cons c u ih =>
      obtain ⟨next, hnext, hrest⟩ := Option.bind_eq_some_iff.mp h
      simp only [State.step?] at hnext
      split_ifs at hnext with hc
      cases hnext
      obtain ⟨hs, hu⟩ := ih hrest
      refine ⟨hs, ?_⟩
      intro d hd
      rcases List.mem_cons.mp hd with rfl | hd
      · exact isSpace_eq_true_iff.mp hc
      · exact hu d hd
  · rintro ⟨rfl, hu⟩
    exact State.IsPause.run?_spaces trivial hu

theorem Spells.exists_closing {d : Nat} {n : Node} {t : List Char} (h : Spells d (.node n) t) :
    ∃ body closing, t = body ++ [closing] ∧ (closing = '\x7d' ∨ closing = ']') := by
  cases h with
  | object _ _ _ _ => exact ⟨_, _, rfl, .inl rfl⟩
  | row _ _ _ _ => exact ⟨_, _, rfl, .inr rfl⟩

theorem not_spaces_of_closing {closing : Char} {before after : List Char}
    (h : closing = '\x7d' ∨ closing = ']') : ¬Spaces (before ++ closing :: after) := by
  intro hspaces
  have hmem : closing ∈ Json.spaces := hspaces closing (by simp)
  rcases h with rfl | rfl
  · exact absurd hmem (by decide)
  · exact absurd hmem (by decide)

theorem decode_append_iff {t u : String} {n m : Node} (h : Node.decode t = .ok n) :
    Node.decode (t ++ u) = .ok m ↔ m = n ∧ Spaces u.toList := by
  have hrun : State.root.run? (t ++ u).toList = (State.done n).run? u.toList := by
    rw [String.toList_append, State.run?_append, run?_of_decode h, Option.bind_some]
  have hdecode : Node.decode (t ++ u) = .ok m ↔
      State.root.run? (t ++ u).toList = some (.done m) := by
    rw [← spellsDump_iff_decode]
    exact ⟨run?_of_spellsDump, spellsDump_of_run?⟩
  rw [hdecode, hrun, State.run?_done_iff, State.done.injEq]

end Dump

/-- What extends a dump is a dump if only spaces are added, and then of the same node. A part of a
dump that leaves out more than spaces is none: it stops at the closing bracket of the root or before
it. -/
theorem Node.decode_of_part {t : String} {n : Node} (h : Node.decode t = .ok n) :
    (∀ (u : String) (m : Node), Node.decode (t ++ u) = .ok m ↔ m = n ∧ Spaces u.toList) ∧
    (∀ p q : String, t = p ++ q → ¬Spaces q.toList →
      ∃ fault, Node.decode p = .error (.undecodable fault)) ∧
    ∃ a body closing b, t.toList = a ++ body ++ closing :: b ∧ Spaces a ∧ Spaces b ∧
      (closing = '\x7d' ∨ closing = ']') ∧ Spells 0 (.node n) (body ++ [closing]) ∧
      ∀ p : String, p.toList <+: a ++ body →
        ∃ fault, Node.decode p = .error (.undecodable fault) := by
  have hpart (p q : String) (hsplit : t = p ++ q) (hq : ¬Spaces q.toList) :
      ∃ fault, Node.decode p = .error (.undecodable fault) := by
    apply exists_fault_of_forall_ne
    intro m hm
    rw [hsplit] at h
    exact hq ((decode_append_iff hm).mp h).2
  refine ⟨fun u m => decode_append_iff h, hpart, ?_⟩
  obtain ⟨a, root, b, ha, hroot, hb, htext⟩ := spellsDump_iff_decode.mpr h
  obtain ⟨body, closing, rfl, hclosing⟩ := hroot.exists_closing
  refine ⟨a, body, closing, b, by simpa using htext, ha, hb, hclosing, hroot, ?_⟩
  rintro p ⟨q, hq⟩
  -- what is left out has the closing bracket in it
  apply hpart p (String.ofList (q ++ closing :: b))
  · apply String.toList_injective
    rw [htext, String.toList_append, String.toList_ofList, ← List.append_assoc p.toList, hq]
    simp
  · rw [String.toList_ofList]
    exact not_spaces_of_closing hclosing

/-- The bracket that is left closes the inner list and not the dump. -/
theorem Node.decode_of_part_open :
    Node.decode "\x7b\"kind\":\"A\",\"inner\":[]\x7d" =
        .ok ⟨"A", none, none, none, none, none, some []⟩ ∧
      Node.decode ("\x7b\"kind\":\"A\",\"inner\":[]\x7d" ++ "\n\t") =
        .ok ⟨"A", none, none, none, none, none, some []⟩ ∧
      ∃ fault, Node.decode "\x7b\"kind\":\"A\",\"inner\":[]" = .error (.undecodable fault) := by
  have hdecode : Node.decode "\x7b\"kind\":\"A\",\"inner\":[]\x7d" =
      .ok ⟨"A", none, none, none, none, none, some []⟩ := by rfl
  have hspaces : Spaces "\n\t".toList :=
    (spaces_nil.concat (c := '\n') rfl).concat (c := '\t') rfl
  have hclosing : ¬Spaces ([] ++ "\x7d".toList) := not_spaces_of_closing (.inl rfl)
  obtain ⟨happend, hpart, -⟩ := Node.decode_of_part hdecode
  exact ⟨hdecode, (happend _ _).mpr ⟨rfl, hspaces⟩, hpart _ _ (by decide) hclosing⟩

end ParamDoc
