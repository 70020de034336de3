import ParamDoc.Proofs.Dump.Root
import ParamDoc.Proofs.Json.Writing

/-!
# Literals in dumps

A dump may carry the literal of a text as the value of a field, among whatever else it says about
the node, and the decoded node then has that text.
-/

namespace ParamDoc.Dump

open Json (Spaces StringLiteral literal)

/-- The text has this meaning where so many brackets are open, and `v` stands in it for the value
of the field that `m` is about. A node has it between its own brackets. -/
inductive Carries (m : Member) (v : List Char) : Nat → Meaning → List Char → Prop
  | item {d : Nat} {a b : List Char} : Spaces a → Spaces b →
      Carries m v d (.values [m]) (a ++ v ++ b)
  | earlierItem {d : Nat} {ms ns : List Member} {s t : List Char} :
      Carries m v d (.values ms) s → Spells d (.values ns) t →
      Carries m v d (.values (ms ++ ns)) (s ++ ',' :: t)
  | laterItem {d : Nat} {ms ns : List Member} {s t : List Char} : Spells d (.values ms) s →
      Carries m v d (.values ns) t → Carries m v d (.values (ms ++ ns)) (s ++ ',' :: t)
  | member {d : Nat} {key : String} {a k b c e : List Char} : Spaces a → (m.field, key) ∈ keys →
      StringLiteral key k → Spaces b → Spaces c → Spaces e →
      Carries m v d (.members [m]) (a ++ k ++ b ++ ':' :: c ++ v ++ e)
  | earlierMember {d : Nat} {ms ns : List Member} {s t : List Char} :
      Carries m v d (.members ms) s → Spells d (.members ns) t →
      Carries m v d (.members (ms ++ ns)) (s ++ ',' :: t)
  | laterMember {d : Nat} {ms ns : List Member} {s t : List Char} : Spells d (.members ms) s →
      Carries m v d (.members ns) t → Carries m v d (.members (ms ++ ns)) (s ++ ',' :: t)
  | object {d : Nat} {n : Node} {ms : List Member} {t : List Char} : d + 1 < 128 →
      Carries m v (d + 1) (.members ms) t → (ms.map Member.field).Nodup → Describes ms n →
      Carries m v d (.node n) ('\x7b' :: t ++ ['\x7d'])
  | row {d : Nat} {n : Node} {ms : List Member} {t : List Char} : d + 1 < 128 →
      Carries m v (d + 1) (.values ms) t → ms.map Member.field <+: keys.map Prod.fst →
      Describes ms n → Carries m v d (.node n) ('[' :: t ++ [']'])

variable {m : Member} {v t : List Char} {d : Nat} {meaning : Meaning}

/-- A text that carries a spelling of the value is itself a spelling. -/
theorem Carries.spells (h : Carries m v d meaning t) (hv : ∀ d, Spells d (.value m) v) :
    Spells d meaning t := by
  induction h with
  | item ha hb => exact .item ha (hv _) hb
  | earlierItem _ ht ih => exact .items ih ht
  | laterItem hs _ ih => exact .items hs ih
  | member ha hkey hk hb hc he => exact .member ha hkey hk hb hc (hv _) he
  | earlierMember _ ht ih => exact .members ih ht
  | laterMember hs _ ih => exact .members hs ih
  | object hd _ hfields hn ih => exact .object hd ih hfields hn
  | row hd _ hfields hn ih => exact .row hd ih hfields hn

/-- The statement is among those that the meaning makes about a node. -/
def Meaning.Includes (m : Member) : Meaning → Prop
  | .node n => Has n m
  | .values ms | .members ms => m ∈ ms
  | _ => False

theorem Carries.includes (h : Carries m v d meaning t) : meaning.Includes m := by
  induction h with
  | item _ _ | member _ _ _ _ _ _ => exact List.mem_singleton_self m
  | earlierItem _ _ ih | earlierMember _ _ ih => exact List.mem_append_left _ ih
  | laterItem _ _ ih | laterMember _ _ ih => exact List.mem_append_right _ ih
  | object _ _ _ hn ih | row _ _ _ hn ih => exact hn.sound m ih

theorem decode_of_carries {f : Field} {s text : String} {n : Node} {a b : List Char}
    (hm : Member.ofText f s = some m) (ha : Spaces a) (hb : Spaces b)
    (ht : Carries m (literal s.toList) 0 (.node n) t) (htext : text.toList = a ++ t ++ b) :
    Node.decode text = .ok n ∧ Has n m := by
  have hvalue (d : Nat) : Spells d (.value m) (literal s.toList) :=
    (State.spells_ofText hm (Json.stringLiteral_literal s)).2
  have hdump : SpellsDump n text := ⟨a, t, b, ha, ht.spells hvalue, hb, htext⟩
  exact ⟨spellsDump_iff_decode.mp hdump, ht.includes⟩

end ParamDoc.Dump
