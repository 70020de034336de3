import ParamDoc.Proofs.Outcome

/-!
# What a query tells

A query tells a list of events if they are what it reports when everything is shown, and it reports
those of the shown topics otherwise. What queries tell is put together as the queries are, so the
events of a long one are those of its steps, up to the first flaw. Each query has one lemma of this
form, and its outcome is a part of what it tells.
-/

namespace ParamDoc

variable {α β : Type}

/-- Whatever is shown, the query reports these events as far as they are shown, and has this
result. -/
def Query.Tells (q : Query α) (events : List Event) (result : Except Flaw α) : Prop :=
  ∀ shown, q.run shown = (events.filter (shown ·.topic), result)

namespace Query

variable {events later : List Event} {flaw : Flaw}

theorem Tells.outcome {q : Query α} {result : Except Flaw α} (h : q.Tells events result)
    (shown : Topic → Bool) : q.outcome shown = result := by
  rw [Query.outcome, h shown]

theorem tells_pure (a : α) : (pure a : Query α).Tells [] (.ok a) := fun _ => rfl

theorem tells_fail : (fail flaw : Query α).Tells [] (.error flaw) := fun _ => rfl

theorem tells_lift (result : Except Flaw α) : (liftM result : Query α).Tells [] result :=
  fun _ => rfl

theorem tells_report (e : Event) : (report e.topic (.ok e)).Tells [e] (.ok ()) := by
  intro shown
  by_cases hshown : shown e.topic = true
  · simp [run, report, hshown]
  · simp [run, report, hshown]

theorem Tells.bind {q : Query α} {f : α → Query β} {a : α} {result : Except Flaw β}
    (h : q.Tells events (.ok a)) (hf : (f a).Tells later result) :
    (q >>= f).Tells (events ++ later) result := by
  intro shown
  have hrest : f a shown = _ := hf shown
  rw [run_bind, h shown, continueWith, hrest, List.filter_append]

theorem Tells.bind_silent {q : Query α} {f : α → Query β} {a : α} {result : Except Flaw β}
    (h : q.Tells events (.ok a)) (hf : (f a).Tells [] result) : (q >>= f).Tells events result := by
  have hbind := h.bind hf
  rw [List.append_nil] at hbind
  exact hbind

theorem Tells.bind_error {q : Query α} (h : q.Tells events (.error flaw)) (f : α → Query β) :
    (q >>= f).Tells events (.error flaw) := by
  intro shown
  rw [run_bind, h shown, continueWith]

theorem tells_lift_bind {result : Except Flaw α} {f : α → Query β} {a : α}
    {last : Except Flaw β} (h : result = .ok a) (hf : (f a).Tells events last) :
    ((liftM result : Query α) >>= f).Tells events last := by
  subst h
  exact (tells_lift _).bind hf

theorem tells_lift_bind_error {result : Except Flaw α} (h : result = .error flaw)
    (f : α → Query β) : ((liftM result : Query α) >>= f).Tells [] (.error flaw) := by
  subst h
  exact (tells_lift _).bind_error f

/-- A report that cannot be made ends the query, or else the query goes on without it. -/
theorem tells_report_error_bind {topic : Topic} {f : Unit → Query β}
    (h : (f ()).Tells [] (.error flaw)) :
    (report topic (.error flaw) >>= f).Tells [] (.error flaw) := by
  intro shown
  have hrest : f () shown = _ := h shown
  rw [run_bind]
  by_cases hshown : shown topic = true
  · simp [run, report, hshown, continueWith]
  · simp [run, report, hshown, continueWith, hrest]

end Query

end ParamDoc
