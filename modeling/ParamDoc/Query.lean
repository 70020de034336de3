import ParamDoc.Event
import ParamDoc.Flaw

/-!
# Queries

A query looks for something in a tree. It finds it or meets a flaw, and on the way it reports
events. Only events of the topics that are shown are made at all, and what was reported before a
flaw stays reported.
-/

namespace ParamDoc

/-- Given the topics to show, the events in order and what was found. -/
def Query (α : Type) : Type :=
  (Topic → Bool) → List Event × Except Flaw α

namespace Query

/-- What the query finds, and the events it reports, when the given topics are shown. -/
def run {α : Type} (q : Query α) (shown : Topic → Bool) : List Event × Except Flaw α :=
  q shown

/-- The events of a query whose first part reported some and found a value or a flaw. -/
def continueWith {α β : Type} (shown : Topic → Bool) (f : α → Query β) :
    List Event × Except Flaw α → List Event × Except Flaw β
  | (events, .ok a) => (events ++ (f a shown).1, (f a shown).2)
  | (events, .error flaw) => (events, .error flaw)

instance : Monad Query where
  pure a := fun _ => ([], .ok a)
  bind q f := fun shown => continueWith shown f (q shown)

instance : MonadLift (Except Flaw) Query where
  monadLift result := fun _ => ([], result)

def fail {α : Type} (flaw : Flaw) : Query α :=
  fun _ => ([], .error flaw)

/-- Reports an event of a topic. The event is made only if the topic is shown, and making it may
meet a flaw. -/
def report (topic : Topic) (event : Except Flaw Event) : Query Unit :=
  fun shown =>
    if shown topic then
      match event with
      | .ok e => ([e], .ok ())
      | .error flaw => ([], .error flaw)
    else ([], .ok ())

@[simp] theorem run_pure {α : Type} (a : α) (shown : Topic → Bool) :
    (pure a : Query α).run shown = ([], .ok a) := rfl

@[simp] theorem run_fail {α : Type} (flaw : Flaw) (shown : Topic → Bool) :
    (fail flaw : Query α).run shown = ([], .error flaw) := rfl

@[simp] theorem run_lift {α : Type} (result : Except Flaw α) (shown : Topic → Bool) :
    (liftM result : Query α).run shown = ([], result) := rfl

@[simp] theorem run_bind {α β : Type} (q : Query α) (f : α → Query β) (shown : Topic → Bool) :
    (q >>= f).run shown = continueWith shown f (q.run shown) := rfl

end Query

end ParamDoc
