import ParamDoc.Proofs.Dump.Acceptance
import ParamDoc.Proofs.Dump.Soundness

/-!
# The outermost value of a dump

A dump is meant to be an object, but a list of the values of the first fields of a node is decoded
too. Words, numbers and strings are refused, and so are all lists that spell no node.
-/

namespace ParamDoc

open Dump
open Json (Spaces WellFormed isSpace spaces_nil)

namespace Dump

/-- The text is a list that spells the node, up to the spaces around it: the values of the first of
its fields in their order. -/
def SpellsRow (n : Node) (text : String) : Prop :=
  ∃ a t b ms, Spaces a ∧ Spaces b ∧ text.toList = a ++ ('[' :: t ++ [']']) ++ b ∧
    Spells 1 (.values ms) t ∧ ms.map Member.field <+: keys.map Prod.fst ∧ Describes ms n

variable {n : Node} {text : String}

theorem SpellsRow.spellsDump (h : SpellsRow n text) : SpellsDump n text := by
  obtain ⟨a, t, b, ms, ha, hb, htext, ht, hfields, hn⟩ := h
  exact ⟨a, _, b, ha, .row (by decide) ht hfields hn, hb, htext⟩

/-- A dump whose first character is not the brace of an object is a list. -/
theorem SpellsDump.spellsRow (h : SpellsDump n text)
    (hbrace : (text.toList.dropWhile isSpace).head? ≠ some '\x7b') : SpellsRow n text := by
  obtain ⟨a, t, b, ha, ht, hb, htext⟩ := h
  rw [htext, ht.wellFormed.head?_dropWhile ha] at hbrace
  cases ht with
  | object _ _ _ _ => exact absurd rfl hbrace
  | row _ ht hfields hn => exact ⟨a, _, b, _, ha, hb, htext, ht, hfields, hn⟩

theorem spellsDump_iff_decode : SpellsDump n text ↔ Node.decode text = .ok n := by
  constructor
  · intro h
    rw [Node.decode_eq_ok_iff, Dump.decode, run?_of_spellsDump h]
  · intro h
    exact spellsDump_of_run? (run?_of_decode h)

theorem exists_fault_of_forall_ne (h : ∀ n, Node.decode text ≠ .ok n) :
    ∃ fault, Node.decode text = .error (.undecodable fault) := by
  cases hdecode : Node.decode text with
  | error flaw =>
    obtain ⟨fault, rfl, -⟩ := Node.decode_eq_error_iff.mp hdecode
    exact ⟨fault, rfl⟩
  | ok n => exact absurd hdecode (h n)

end Dump

/-- A text whose outermost value is not an object is decoded just if it is a list that spells a
node, and is refused as no dump otherwise. -/
theorem Node.decode_of_root_ne_object {text : String} {a t b : List Char} (ha : Spaces a)
    (htext : text.toList = a ++ t ++ b) (ht : WellFormed .value t)
    (hbrace : t.head? ≠ some '\x7b') :
    (t.head? ≠ some '[' → ∃ fault, Node.decode text = .error (.undecodable fault)) ∧
    ((¬∃ n, SpellsRow n text) → ∃ fault, Node.decode text = .error (.undecodable fault)) ∧
    ∀ n, SpellsRow n text ↔ Node.decode text = .ok n := by
  have hfirst : (text.toList.dropWhile isSpace).head? = t.head? := by
    rw [htext, ht.head?_dropWhile ha]
  have hrow (n : Node) : SpellsRow n text ↔ Node.decode text = .ok n := by
    rw [← spellsDump_iff_decode]
    refine ⟨SpellsRow.spellsDump, fun h => h.spellsRow ?_⟩
    rwa [hfirst]
  have hrefused (h : ¬∃ n, SpellsRow n text) :
      ∃ fault, Node.decode text = .error (.undecodable fault) := by
    apply exists_fault_of_forall_ne
    intro n hn
    exact h ⟨n, (hrow n).mpr hn⟩
  refine ⟨fun hbracket => hrefused ?_, hrefused, hrow⟩
  rintro ⟨n, a', t', b', ms, ha', -, htext', ht', hfields, hn⟩
  have hvalue : WellFormed .value ('[' :: t' ++ [']']) := .list ht'.wellFormed
  rw [htext', hvalue.head?_dropWhile ha'] at hfirst
  exact hbracket hfirst.symm

/-- The values of the list are numbers, which no field has. -/
theorem Node.decode_numbers :
    WellFormed .value ['[', '1', ',', ' ', '2', ']'] ∧ (∀ n, ¬SpellsRow n "[1, 2]") ∧
      ∃ fault, Node.decode "[1, 2]" = .error (.undecodable fault) := by
  have hdigit (c : Char) (hc : c.isDigit = true) (hzero : c ≠ '0') : WellFormed .value [c] :=
    .number ⟨[c], [], [], .positive (.digits hc hzero (by simp)), .absent, .absent, rfl⟩
  have hspace : Spaces [' '] := spaces_nil.concat rfl
  have hlist : WellFormed .value ['[', '1', ',', ' ', '2', ']'] :=
    .list (.items (.item spaces_nil (hdigit '1' rfl (by decide)) spaces_nil)
      (.item hspace (hdigit '2' rfl (by decide)) spaces_nil))
  have htext : "[1, 2]".toList = [] ++ ['[', '1', ',', ' ', '2', ']'] ++ [] := rfl
  have hroot := Node.decode_of_root_ne_object spaces_nil htext hlist (by decide)
  have hnone (n : Node) : ¬SpellsRow n "[1, 2]" := by
    rw [hroot.2.2 n]
    intro h
    cases h
  exact ⟨hlist, hnone, hroot.2.1 (not_exists.mpr hnone)⟩

/-- Not all texts are refused whose outermost value is not an object: a list with nothing but a
kind is a node without labels. -/
theorem Node.not_forall_root_ne_object_refused :
    ¬∀ (text : String) (a t b : List Char), Spaces a → Spaces b → text.toList = a ++ t ++ b →
      WellFormed .value t → t.head? ≠ some '\x7b' →
      ∃ fault, Node.decode text = .error (.undecodable fault) := by
  intro h
  have hkind : WellFormed .value ['[', '"', 'k', '"', ']'] :=
    .list (.item spaces_nil (.string (.snoc .nil (.plain (c := 'k') (by simp [Json.IsPlain]))))
      spaces_nil)
  have hdecode : Node.decode "[\"k\"]" = .ok ⟨"k", none, none, none, none, none, none⟩ := by rfl
  obtain ⟨fault, hfault⟩ := h "[\"k\"]" [] _ [] spaces_nil spaces_nil rfl hkind (by decide)
  rw [hdecode] at hfault
  cases hfault

end ParamDoc
