import ParamDoc.Json.Writing
import ParamDoc.Proofs.Json.Objects

/-!
# What is written is read back

The literal of a text spells it by the grammar of string literals, and spells no other text. It
holds no control characters, so it never breaks a line.
-/

namespace ParamDoc.Json

section Controls

/-- No control character is in the text. -/
def Printable (t : List Char) : Prop :=
  ∀ c ∈ t, ¬c < ' '

theorem Printable.append {s t : List Char} (hs : Printable s) (ht : Printable t) :
    Printable (s ++ t) :=
  List.forall_mem_append.mpr ⟨hs, ht⟩

theorem Printable.cons {c : Char} {t : List Char} (hc : ¬c < ' ') (ht : Printable t) :
    Printable (c :: t) :=
  List.forall_mem_cons.mpr ⟨hc, ht⟩

theorem printable_nil : Printable [] :=
  List.forall_mem_nil _

theorem HexNumber.printable {t : List Char} {n : Nat} (h : HexNumber t n) : Printable t := by
  have hall : ∀ entry ∈ hexTable, ¬entry.1 < ' ' := by decide
  induction h with
  | nil => exact printable_nil
  | snoc _ hd ih => exact ih.append (printable_nil.cons (hall _ hd))

theorem Spelled.printable {c : Char} {t : List Char} (h : Spelled c t) : Printable t := by
  have hall : ∀ entry ∈ escapes, ¬entry.1 < ' ' := by decide
  have hnumeric {s : List Char} (hs : Printable s) : Printable ('\\' :: 'u' :: s) :=
    (hs.cons (by decide)).cons (by decide)
  cases h with
  | plain hplain => exact printable_nil.cons hplain.2.2
  | escape he => exact (printable_nil.cons (hall _ he)).cons (by decide)
  | number _ ht => exact hnumeric ht.printable
  | pair _ _ hs _ ht => exact (hnumeric hs.printable).append (hnumeric ht.printable)

theorem SpelledText.printable {cs t : List Char} (h : SpelledText cs t) : Printable t := by
  induction h with
  | nil => exact printable_nil
  | snoc _ hc ih => exact ih.append hc.printable

theorem StringLiteral.printable {s : String} {t : List Char} (h : StringLiteral s t) :
    Printable t := by
  obtain ⟨body, hbody, rfl⟩ := h
  have hquote : Printable ['"'] := printable_nil.cons (by decide)
  exact (hbody.printable.cons (by decide)).append hquote

end Controls

section Literals

theorem hexDigit_mem {n : Nat} (h : n < 16) : (hexDigit n, n) ∈ hexTable := by
  have hall : ∀ n : Fin 16, (hexDigit n, n.val) ∈ hexTable := by decide
  exact hall ⟨n, h⟩

theorem hexNumber_control {n : Nat} (h : n < 32) :
    HexNumber ['0', '0', hexDigit (n / 16), hexDigit (n % 16)] n := by
  have hzero : ('0', 0) ∈ hexTable := by decide
  have hzeros : HexNumber ['0', '0'] 0 := (HexNumber.nil.snoc hzero).snoc hzero
  have hfirst := hzeros.snoc (hexDigit_mem (show n / 16 < 16 by omega))
  have hsecond := hfirst.snoc (hexDigit_mem (show n % 16 < 16 by omega))
  have hvalue : 16 * (16 * 0 + n / 16) + n % 16 = n := by omega
  rw [hvalue] at hsecond
  exact hsecond

theorem spelled_spell (c : Char) : Spelled c (spell c) := by
  unfold spell
  split
  · exact .escape (by decide)
  · exact .escape (by decide)
  · exact .escape (by decide)
  · exact .escape (by decide)
  · exact .escape (by decide)
  · exact .escape (by decide)
  · exact .escape (by decide)
  · next hquote hbackslash _ _ _ _ _ =>
    split_ifs with hcontrol
    · exact .number rfl (hexNumber_control hcontrol)
    · exact .plain ⟨hquote, hbackslash, hcontrol⟩

theorem spelledText_flatMap_spell (s : List Char) : SpelledText s (s.flatMap spell) := by
  induction s with
  | nil => exact .nil
  | cons c s ih =>
    have hc : SpelledText [c] (spell c) := .snoc .nil (spelled_spell c)
    exact hc.append ih

theorem stringLiteral_literal (s : String) : StringLiteral s (literal s.toList) :=
  ⟨s.toList.flatMap spell, spelledText_flatMap_spell s.toList, rfl⟩

theorem stringLiteral_literal_iff {s s' : String} :
    StringLiteral s' (literal s.toList) ↔ s' = s := by
  constructor
  · intro h
    exact h.unique (stringLiteral_literal s)
  · rintro rfl
    exact stringLiteral_literal s'

theorem literal_toList_inj {s s' : String} (h : literal s.toList = literal s'.toList) :
    s = s' := by
  rw [← stringLiteral_literal_iff, ← h]
  exact stringLiteral_literal s

end Literals

end ParamDoc.Json
