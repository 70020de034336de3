import ParamDoc.View
import Mathlib.Data.List.Forall2
import Mathlib.Tactic.SplitIfs

/-!
# What a query finds

The outcome of a query is what it finds, or the flaw it meets, without the events. Outcomes
compose as queries do, so a query is followed step by step.
-/

namespace ParamDoc

section

variable {α β : Type}

@[simp] theorem ok_bind (a : α) (f : α → Except Flaw β) : (Except.ok a >>= f) = f a := rfl

@[simp] theorem error_bind (flaw : Flaw) (f : α → Except Flaw β) :
    (Except.error flaw >>= f) = .error flaw := rfl

theorem bind_eq_ok_iff {r : Except Flaw α} {f : α → Except Flaw β} {b : β} :
    (r >>= f) = .ok b ↔ ∃ a, r = .ok a ∧ f a = .ok b := by
  cases r <;> simp

theorem exists_of_mem_forall₂ {R : α → β → Prop} {xs : List α} {ys : List β}
    (h : List.Forall₂ R xs ys) : ∀ x ∈ xs, ∃ y, R x y := by
  induction h with
  | nil => simp
  | cons hxy _ ih =>
    intro z hz
    rcases List.mem_cons.mp hz with rfl | hz
    · exact ⟨_, hxy⟩
    · exact ih z hz

/-- A list is gone through to its end if nothing in it has a flaw. -/
theorem mapM_eq_ok_iff {f : α → Except Flaw β} {xs : List α} {ys : List β} :
    xs.mapM f = .ok ys ↔ List.Forall₂ (fun x y => f x = .ok y) xs ys := by
  induction xs generalizing ys with
  | nil =>
    constructor
    · intro h
      cases h
      exact .nil
    · intro h
      cases h
      rfl
  | cons x xs ih =>
    rw [List.mapM_cons, bind_eq_ok_iff]
    constructor
    · rintro ⟨y, hy, h⟩
      obtain ⟨rest, hrest, h⟩ := bind_eq_ok_iff.mp h
      cases h
      exact .cons hy (ih.mp hrest)
    · intro h
      cases h with
      | cons hy hrest => exact ⟨_, hy, by rw [ih.mpr hrest]; rfl⟩

/-- Otherwise the flaw is that of the first one that has any. -/
theorem exists_flawed_of_mapM {f : α → Except Flaw β} {xs : List α} {flaw : Flaw}
    (h : xs.mapM f = .error flaw) : ∃ before x after, xs = before ++ x :: after ∧
      (∀ b ∈ before, ∃ y, f b = .ok y) ∧ f x = .error flaw := by
  induction xs with
  | nil => cases h
  | cons x xs ih =>
    rw [List.mapM_cons] at h
    cases hx : f x with
    | error first =>
      rw [hx, error_bind] at h
      cases h
      exact ⟨[], x, xs, rfl, by simp, hx⟩
    | ok y =>
      rw [hx, ok_bind] at h
      cases hrest : xs.mapM f with
      | error other =>
        rw [hrest, error_bind] at h
        cases h
        obtain ⟨before, z, after, rfl, hbefore, hz⟩ := ih hrest
        exact ⟨x :: before, z, after, rfl, by simpa [hx] using hbefore, hz⟩
      | ok ys =>
        rw [hrest, ok_bind] at h
        cases h

end

/-- The condition is the first one of the list that does not hold. -/
def FirstFails {α : Type} (holds : α → Prop) (inOrder : List α) (c : α) : Prop :=
  ∃ before after, inOrder = before ++ c :: after ∧ (∀ d ∈ before, holds d) ∧ ¬holds c

/-- The value or the first flaw, for the given topics. -/
def Query.outcome {α : Type} (q : Query α) (shown : Topic → Bool) : Except Flaw α :=
  (q.run shown).2

namespace Query

variable {α β : Type} (shown : Topic → Bool)

@[simp] theorem outcome_pure (a : α) : (pure a : Query α).outcome shown = .ok a := rfl

@[simp] theorem outcome_lift (result : Except Flaw α) :
    (liftM result : Query α).outcome shown = result := rfl

@[simp] theorem outcome_bind (q : Query α) (f : α → Query β) :
    (q >>= f).outcome shown = q.outcome shown >>= fun a => (f a).outcome shown := by
  unfold outcome
  rw [run_bind]
  rcases q.run shown with ⟨events, flaw | a⟩
  · rfl
  · rfl

/-- A report fails only if it is made and its event cannot be. -/
theorem outcome_report (topic : Topic) (event : Except Flaw Event) :
    (report topic event).outcome shown =
      if shown topic then event.map fun _ => () else .ok () := by
  unfold outcome run report
  split_ifs with h
  · cases event <;> rfl
  · rfl

@[simp] theorem outcome_report_ok (topic : Topic) (event : Event) :
    (report topic (.ok event)).outcome shown = .ok () := by
  rw [outcome_report]
  split_ifs <;> rfl

end Query

end ParamDoc
