import ParamDoc.Json.Literal
import Mathlib.Tactic.SplitIfs

/-!
# The grammar of JSON text

What is passed over in a dump must be well-formed JSON, and what is kept are strings. Both are
described here by tables and rules, without a reader. Lists grow at their end, as they are read.
-/

namespace ParamDoc.Json

section Characters

def spaces : List Char :=
  [' ', '\n', '\t', '\r']

def Spaces (t : List Char) : Prop :=
  ∀ c ∈ t, c ∈ spaces

def escapes : List (Char × Char) :=
  [('"', '"'), ('\\', '\\'), ('/', '/'), ('b', '\x08'), ('f', '\x0c'), ('n', '\n'), ('r', '\r'),
    ('t', '\t')]

def hexTable : List (Char × Nat) :=
  [('0', 0), ('1', 1), ('2', 2), ('3', 3), ('4', 4), ('5', 5), ('6', 6), ('7', 7), ('8', 8),
    ('9', 9), ('a', 10), ('b', 11), ('c', 12), ('d', 13), ('e', 14), ('f', 15), ('A', 10),
    ('B', 11), ('C', 12), ('D', 13), ('E', 14), ('F', 15)]

def IsHexDigit (c : Char) : Prop :=
  ∃ d, (c, d) ∈ hexTable

/-- A character that stands for itself in a string. -/
def IsPlain (c : Char) : Prop :=
  c ≠ '"' ∧ c ≠ '\\' ∧ ¬c < ' '

end Characters

section Numbers

def Digits (t : List Char) : Prop :=
  t ≠ [] ∧ ∀ c ∈ t, c.isDigit = true

/-- The digits of a whole number have no leading zero. -/
inductive Whole : List Char → Prop
  | zero : Whole ['0']
  | digits {c : Char} {t : List Char} :
      c.isDigit = true → c ≠ '0' → (∀ d ∈ t, d.isDigit = true) → Whole (c :: t)

inductive Integral : List Char → Prop
  | positive {t : List Char} : Whole t → Integral t
  | negative {t : List Char} : Whole t → Integral ('-' :: t)

inductive Fraction : List Char → Prop
  | absent : Fraction []
  | digits {t : List Char} : Digits t → Fraction ('.' :: t)

inductive Exponent : List Char → Prop
  | absent : Exponent []
  | digits {mark : Char} {t : List Char} :
      mark = 'e' ∨ mark = 'E' → Digits t → Exponent (mark :: t)
  | signed {mark sign : Char} {t : List Char} : mark = 'e' ∨ mark = 'E' →
      sign = '+' ∨ sign = '-' → Digits t → Exponent (mark :: sign :: t)

def Number (t : List Char) : Prop :=
  ∃ whole fraction exponent, Integral whole ∧ Fraction fraction ∧ Exponent exponent ∧
    t = whole ++ fraction ++ exponent

end Numbers

section Skipped

/-- A character of a string that is passed over: any four digits may follow `\u`. -/
inductive SkippedChar : List Char → Prop
  | plain {c : Char} : IsPlain c → SkippedChar [c]
  | escape {e c : Char} : (e, c) ∈ escapes → SkippedChar ['\\', e]
  | digits {t : List Char} : t.length = 4 → (∀ c ∈ t, IsHexDigit c) →
      SkippedChar ('\\' :: 'u' :: t)

inductive SkippedText : List Char → Prop
  | nil : SkippedText []
  | snoc {t s : List Char} : SkippedText t → SkippedChar s → SkippedText (t ++ s)

/-- The parts of JSON text: a value, what is between the brackets of a list that is not empty, and
what is between those of such an object. -/
inductive Part where
  | value
  | items
  | entries

inductive WellFormed : Part → List Char → Prop
  | word {t : List Char} : t ∈ [['n', 'u', 'l', 'l'], ['t', 'r', 'u', 'e'],
      ['f', 'a', 'l', 's', 'e']] → WellFormed .value t
  | number {t : List Char} : Number t → WellFormed .value t
  | string {t : List Char} : SkippedText t → WellFormed .value ('"' :: t ++ ['"'])
  | emptyList {w : List Char} : Spaces w → WellFormed .value ('[' :: w ++ [']'])
  | list {t : List Char} : WellFormed .items t → WellFormed .value ('[' :: t ++ [']'])
  | emptyObject {w : List Char} : Spaces w → WellFormed .value ('\x7b' :: w ++ ['\x7d'])
  | object {t : List Char} : WellFormed .entries t → WellFormed .value ('\x7b' :: t ++ ['\x7d'])
  | item {a t b : List Char} : Spaces a → WellFormed .value t → Spaces b →
      WellFormed .items (a ++ t ++ b)
  | items {s t : List Char} : WellFormed .items s → WellFormed .items t →
      WellFormed .items (s ++ ',' :: t)
  | entry {a k b c t d : List Char} : Spaces a → SkippedText k → Spaces b → Spaces c →
      WellFormed .value t → Spaces d →
      WellFormed .entries (a ++ '"' :: k ++ '"' :: b ++ ':' :: c ++ t ++ d)
  | entries {s t : List Char} : WellFormed .entries s → WellFormed .entries t →
      WellFormed .entries (s ++ ',' :: t)

end Skipped

section Tables

/-! The reader knows the characters by functions of its own, which agree with the tables. -/

theorem isSpace_eq_true_iff {c : Char} : isSpace c = true ↔ c ∈ spaces := by
  simp [isSpace, spaces, or_assoc]

theorem Spaces.isSpace {w : List Char} (hw : Spaces w) : ∀ c ∈ w, isSpace c = true := by
  intro c hc
  exact isSpace_eq_true_iff.mpr (hw c hc)

theorem spaces_nil : Spaces [] := by
  intro c hc
  exact absurd hc List.not_mem_nil

theorem Spaces.concat {w : List Char} {c : Char} (hw : Spaces w) (hc : Json.isSpace c = true) :
    Spaces (w ++ [c]) := by
  intro d hd
  rcases List.mem_append.mp hd with hd | hd
  · exact hw d hd
  · rw [List.mem_singleton.mp hd]
    exact isSpace_eq_true_iff.mp hc

theorem escaped?_eq_some_iff {e c : Char} : escaped? e = some c ↔ (e, c) ∈ escapes := by
  constructor
  · intro h
    unfold escaped? at h
    split at h <;> cases h <;> decide
  · intro h
    have hall : ∀ entry ∈ escapes, escaped? entry.1 = some entry.2 := by decide
    exact hall _ h

theorem toNat_lt_of_hexValue? {c : Char} {d : Nat} (h : Text.hexValue? c = some d) :
    c.toNat < 128 := by
  have hle {a b : Char} (h : a ≤ b) : a.toNat ≤ b.toNat := h
  unfold Text.hexValue? at h
  split_ifs at h with h1 h2 h3
  · exact Nat.lt_of_le_of_lt (hle h1.2) (by decide)
  · exact Nat.lt_of_le_of_lt (hle h2.2) (by decide)
  · exact Nat.lt_of_le_of_lt (hle h3.2) (by decide)

theorem hexValue?_eq_some_iff {c : Char} {d : Nat} :
    Text.hexValue? c = some d ↔ (c, d) ∈ hexTable := by
  constructor
  · intro h
    -- digits are among the first 128 characters, which are gone through
    have hall : ∀ n : Fin 128,
        (Text.hexValue? (Char.ofNat n)).all fun d => (Char.ofNat n, d) ∈ hexTable := by decide
    have hc := hall ⟨c.toNat, toNat_lt_of_hexValue? h⟩
    simpa [Char.ofNat_toNat, h] using hc
  · intro h
    have hall : ∀ entry ∈ hexTable, Text.hexValue? entry.1 = some entry.2 := by decide
    exact hall _ h

theorem isSome_hexValue?_iff {c : Char} : (Text.hexValue? c).isSome = true ↔ IsHexDigit c := by
  rw [Option.isSome_iff_exists]
  exact exists_congr fun _ => hexValue?_eq_some_iff

end Tables

end ParamDoc.Json
