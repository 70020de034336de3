import ParamDoc.Dump.Reader
import ParamDoc.Proofs.Dump.Members
import ParamDoc.Proofs.Json.Spelling

/-!
# The grammar of dumps

A text spells a node in many ways: as an object whose members come in any order and among others
that mean nothing, or as a list of values, with fields that are absent left out. The rules below
give all of them, without a reader. They count the brackets of nodes and inner lists that are open,
of which there are fewer than 128.
-/

namespace ParamDoc.Dump

open Json (Spaces StringLiteral WellFormed)

/-- What a part of a dump stands for: a node, the nodes between the brackets of an inner list that
is not empty, the value of a field, the values between the brackets of a node that is a list, or
the members between those of a node that is an object. -/
inductive Meaning where
  | node (n : Node)
  | nodes (ns : List Node)
  | value (m : Member)
  | values (ms : List Member)
  | members (ms : List Member)

/-- The text has the given meaning where so many brackets are open. -/
inductive Spells : Nat → Meaning → List Char → Prop
  | kind {d : Nat} {s : String} {t : List Char} :
      StringLiteral s t → Spells d (.value (.kind s)) t
  | label {d : Nat} {l : Label} {s : String} {t : List Char} :
      StringLiteral s t → Spells d (.value (.label l (some s))) t
  | noLabel {d : Nat} {l : Label} : Spells d (.value (.label l none)) ['n', 'u', 'l', 'l']
  | noInner {d : Nat} : Spells d (.value (.inner none)) ['n', 'u', 'l', 'l']
  | emptyInner {d : Nat} {w : List Char} : d + 1 < 128 → Spaces w →
      Spells d (.value (.inner (some []))) ('[' :: w ++ [']'])
  | inner {d : Nat} {ns : List Node} {t : List Char} : d + 1 < 128 →
      Spells (d + 1) (.nodes ns) t → Spells d (.value (.inner (some ns))) ('[' :: t ++ [']'])
  | child {d : Nat} {n : Node} {a t b : List Char} : Spaces a → Spells d (.node n) t → Spaces b →
      Spells d (.nodes [n]) (a ++ t ++ b)
  | children {d : Nat} {ms ns : List Node} {s t : List Char} : Spells d (.nodes ms) s →
      Spells d (.nodes ns) t → Spells d (.nodes (ms ++ ns)) (s ++ ',' :: t)
  | item {d : Nat} {m : Member} {a t b : List Char} : Spaces a → Spells d (.value m) t →
      Spaces b → Spells d (.values [m]) (a ++ t ++ b)
  | items {d : Nat} {ms ns : List Member} {s t : List Char} : Spells d (.values ms) s →
      Spells d (.values ns) t → Spells d (.values (ms ++ ns)) (s ++ ',' :: t)
  | member {d : Nat} {m : Member} {key : String} {a k b c t e : List Char} : Spaces a →
      (m.field, key) ∈ keys → StringLiteral key k → Spaces b → Spaces c →
      Spells d (.value m) t → Spaces e →
      Spells d (.members [m]) (a ++ k ++ b ++ ':' :: c ++ t ++ e)
  | other {d : Nat} {key : String} {a k b c t e : List Char} : Spaces a →
      (∀ f, (f, key) ∉ keys) → StringLiteral key k → Spaces b → Spaces c →
      WellFormed .value t → Spaces e → Spells d (.members []) (a ++ k ++ b ++ ':' :: c ++ t ++ e)
  | members {d : Nat} {ms ns : List Member} {s t : List Char} : Spells d (.members ms) s →
      Spells d (.members ns) t → Spells d (.members (ms ++ ns)) (s ++ ',' :: t)
  | object {d : Nat} {n : Node} {ms : List Member} {t : List Char} : d + 1 < 128 →
      Spells (d + 1) (.members ms) t → (ms.map Member.field).Nodup → Describes ms n →
      Spells d (.node n) ('\x7b' :: t ++ ['\x7d'])
  | row {d : Nat} {n : Node} {ms : List Member} {t : List Char} : d + 1 < 128 →
      Spells (d + 1) (.values ms) t → ms.map Member.field <+: keys.map Prod.fst →
      Describes ms n → Spells d (.node n) ('[' :: t ++ [']'])

/-- The text spells the node, up to the spaces around it. -/
def SpellsDump (n : Node) (text : String) : Prop :=
  ∃ a t b, Spaces a ∧ Spells 0 (.node n) t ∧ Spaces b ∧ text.toList = a ++ t ++ b

/-- The reader opens a further bracket while fewer than 128 are open with it. -/
theorem mayOpen_eq_true_iff {d : Nat} : State.mayOpen d = true ↔ d + 1 < 128 := by
  unfold State.mayOpen openLimit
  rw [decide_eq_true_eq]
  omega

end ParamDoc.Dump
