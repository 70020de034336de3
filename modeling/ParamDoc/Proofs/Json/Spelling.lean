import ParamDoc.Proofs.Json.Grammar
import Mathlib.Algebra.Group.Nat.Defs
import Mathlib.Tactic.SplitIfs

/-!
# How string literals spell texts

A character is spelled by itself or by an escape; one beyond the first 65536 may be spelled by two
numeric escapes, the two units of its surrogate pair. The literal reader goes through a spelling
unit by unit, and what it has read at any time is a spelling of what it has collected.
-/

namespace ParamDoc.Json

inductive HexNumber : List Char → Nat → Prop
  | nil : HexNumber [] 0
  | snoc {t : List Char} {n d : Nat} {c : Char} :
      HexNumber t n → (c, d) ∈ hexTable → HexNumber (t ++ [c]) (16 * n + d)

inductive Spelled : Char → List Char → Prop
  | plain {c : Char} : IsPlain c → Spelled c [c]
  | escape {e c : Char} : (e, c) ∈ escapes → Spelled c ['\\', e]
  | number {c : Char} {t : List Char} :
      t.length = 4 → HexNumber t c.toNat → Spelled c ('\\' :: 'u' :: t)
  | pair {c : Char} {s t : List Char} : 0x10000 ≤ c.toNat →
      s.length = 4 → HexNumber s (0xD800 + (c.toNat - 0x10000) / 0x400) →
      t.length = 4 → HexNumber t (0xDC00 + (c.toNat - 0x10000) % 0x400) →
      Spelled c ('\\' :: 'u' :: s ++ '\\' :: 'u' :: t)

inductive SpelledText : List Char → List Char → Prop
  | nil : SpelledText [] []
  | snoc {cs t s : List Char} {c : Char} :
      SpelledText cs t → Spelled c s → SpelledText (cs ++ [c]) (t ++ s)

/-- The literal of a text, with its quotation marks. -/
def StringLiteral (s : String) (t : List Char) : Prop :=
  ∃ body, SpelledText s.toList body ∧ t = '"' :: body ++ ['"']

theorem SpelledText.append {cs ds t u : List Char} (h : SpelledText cs t) (h' : SpelledText ds u) :
    SpelledText (cs ++ ds) (t ++ u) := by
  induction h' with
  | nil =>
    rw [List.append_nil, List.append_nil]
    exact h
  | snoc _ hc ih =>
    rw [← List.append_assoc, ← List.append_assoc]
    exact .snoc ih hc

theorem spelledText_plain {t : List Char} (h : ∀ c ∈ t, IsPlain c) : SpelledText t t := by
  induction t with
  | nil => exact .nil
  | cons c t ih =>
    have hc : SpelledText [c] [c] := .snoc .nil (.plain (h c List.mem_cons_self))
    exact hc.append (ih fun d hd => h d (List.mem_cons_of_mem c hd))

theorem stringLiteral_plain {s : String} (h : ∀ c ∈ s.toList, IsPlain c) :
    StringLiteral s ('"' :: s.toList ++ ['"']) :=
  ⟨s.toList, spelledText_plain h, rfl⟩

theorem toNat_ranges (c : Char) :
    c.toNat < 0xD800 ∨ 0xDFFF < c.toNat ∧ c.toNat < 0x110000 :=
  c.valid

theorem HexNumber.lt {t : List Char} {n : Nat} (h : HexNumber t n) : n < 16 ^ t.length := by
  induction h with
  | nil => simp
  | @snoc t n d c _ hd ih =>
    have hall : ∀ entry ∈ hexTable, entry.2 < 16 := by decide
    have hlt := hall _ hd
    rw [List.length_append, List.length_singleton, Nat.pow_succ]
    omega

section Complete

def Step.next? {σ α : Type} : Step σ α → Option σ
  | .more next => some next
  | _ => none

theorem Step.next?_eq_some_iff {σ α : Type} {s : Step σ α} {next : σ} :
    s.next? = some next ↔ s = .more next := by
  cases s <;> simp [Step.next?]

/-- The state of a reader after more text; none if it was finished before. -/
def Step.run? {σ α : Type} (step : σ → Char → Step σ α) (s : σ) (t : List Char) : Option σ :=
  t.foldlM (fun s c => (step s c).next?) s

@[simp] theorem Step.run?_nil {σ α : Type} (step : σ → Char → Step σ α) (s : σ) :
    Step.run? step s [] = some s := rfl

theorem Step.run?_append {σ α : Type} (step : σ → Char → Step σ α) (s : σ) (t u : List Char) :
    Step.run? step s (t ++ u) = (Step.run? step s t).bind fun next => Step.run? step next u := by
  unfold Step.run?
  rw [List.foldlM_append]
  rfl

theorem Step.run?_cons {σ α : Type} (step : σ → Char → Step σ α) (s : σ) (c : Char)
    (t : List Char) :
    Step.run? step s (c :: t) = (step s c).next?.bind fun next => Step.run? step next t := by
  unfold Step.run?
  rw [List.foldlM_cons]
  rfl

theorem Step.run?_singleton {σ α : Type} (step : σ → Char → Step σ α) (s : σ) (c : Char) :
    Step.run? step s [c] = (step s c).next? := by
  rw [Step.run?_cons]
  cases (step s c).next? <;> rfl

namespace Literal

theorem run?_hexNumber {t : List Char} {n : Nat} (h : HexNumber t n) (read : List Char)
    (lead : Option Nat) (hlength : t.length ≤ 3) :
    Step.run? step (Literal.mk read (.digits lead 0 3)) t =
      some ⟨read, .digits lead n (3 - t.length)⟩ := by
  induction h with
  | nil => rfl
  | @snoc t n d c _ hd ih =>
    simp only [List.length_append, List.length_singleton] at hlength
    have hleft : 3 - t.length = 3 - (t.length + 1) + 1 := by omega
    rw [Step.run?_append, ih (by omega), Option.bind_some, Step.run?_singleton, hleft]
    simp [step, hexValue?_eq_some_iff.mpr hd, Step.next?]

theorem run?_fourDigits {t : List Char} {n : Nat} (h : HexNumber t n) (read : List Char)
    (lead : Option Nat) (hlength : t.length = 4) :
    Step.run? step (Literal.mk read (.digits lead 0 3)) t =
      ((Literal.mk read .none).addNumber lead n).next? := by
  cases h with
  | nil => simp at hlength
  | @snoc t n d c h hd =>
    simp only [List.length_append, List.length_singleton] at hlength
    have hthree : t.length = 3 := by omega
    rw [Step.run?_append, run?_hexNumber h read lead (by omega), Option.bind_some,
      Step.run?_singleton, hthree]
    simp only [step, hexValue?_eq_some_iff.mpr hd]
    rfl

theorem run?_numericEscape {t : List Char} {n : Nat} (h : HexNumber t n) (read : List Char)
    (hlength : t.length = 4) :
    Step.run? step (Literal.mk read .none) ('\\' :: 'u' :: t) =
      ((Literal.mk read .none).addNumber none n).next? := by
  rw [← run?_fourDigits h read none hlength]
  rfl

/-- The second escape of a pair, after its lead has been read. -/
theorem run?_trail {t : List Char} {lead n : Nat} (h : HexNumber t n) (read : List Char)
    (hlength : t.length = 4) :
    Step.run? step (Literal.mk read (.lead lead)) ('\\' :: 'u' :: t) =
      ((Literal.mk read .none).addNumber (some lead) n).next? := by
  rw [← run?_fourDigits h read (some lead) hlength]
  rfl

theorem isLead_eq_true_iff {n : Nat} : isLead n = true ↔ 0xD800 ≤ n ∧ n ≤ 0xDBFF := by
  unfold isLead
  rw [Bool.and_eq_true, decide_eq_true_eq, decide_eq_true_eq]

theorem isTrail_eq_true_iff {n : Nat} : isTrail n = true ↔ 0xDC00 ≤ n ∧ n ≤ 0xDFFF := by
  unfold isTrail
  rw [Bool.and_eq_true, decide_eq_true_eq, decide_eq_true_eq]

theorem isLead_toNat (c : Char) : isLead c.toNat = false := by
  have hvalid := toNat_ranges c
  rw [← Bool.not_eq_true, isLead_eq_true_iff]
  omega

theorem isTrail_toNat (c : Char) : isTrail c.toNat = false := by
  have hvalid := toNat_ranges c
  rw [← Bool.not_eq_true, isTrail_eq_true_iff]
  omega

theorem addNumber_toNat (l : Literal) (c : Char) : l.addNumber none c.toNat = l.add c := by
  unfold addNumber
  simp only [isLead_toNat, isTrail_toNat, Bool.false_eq_true, ↓reduceIte, Char.ofNat_toNat]

theorem addNumber_lead (l : Literal) {n : Nat} (h : isLead n = true) :
    l.addNumber none n = .more { l with escape := .lead n } := by
  have htrail : isTrail n = false := by
    rw [isLead_eq_true_iff] at h
    rw [← Bool.not_eq_true, isTrail_eq_true_iff]
    omega
  simp only [addNumber, h, htrail, Bool.false_eq_true, ↓reduceIte]

theorem addNumber_trail (l : Literal) (lead : Nat) {n : Nat} (h : isTrail n = true) :
    l.addNumber (some lead) n = l.add (ofPair lead n) := by
  simp only [addNumber, h, ↓reduceIte]

/-- The numbers of a pair of surrogates, and what they stand for together. -/
theorem units_bounds {n : Nat} (h : 0x10000 ≤ n) (hmax : n < 0x110000) :
    isLead (0xD800 + (n - 0x10000) / 0x400) = true ∧
      isTrail (0xDC00 + (n - 0x10000) % 0x400) = true ∧
      0x10000 + (0xD800 + (n - 0x10000) / 0x400 - 0xD800) * 0x400 +
        (0xDC00 + (n - 0x10000) % 0x400 - 0xDC00) = n := by
  rw [isLead_eq_true_iff, isTrail_eq_true_iff]
  omega

theorem ofPair_units {c : Char} (h : 0x10000 ≤ c.toNat) (hmax : c.toNat < 0x110000) :
    ofPair (0xD800 + (c.toNat - 0x10000) / 0x400) (0xDC00 + (c.toNat - 0x10000) % 0x400) = c := by
  unfold ofPair
  rw [(units_bounds h hmax).2.2, Char.ofNat_toNat]

theorem toNat_lt (c : Char) : c.toNat < 0x110000 := by
  have hvalid := toNat_ranges c
  omega

theorem run?_spelled {c : Char} {t : List Char} (h : Spelled c t) (read : List Char) :
    Step.run? step (Literal.mk read .none) t = some ⟨c :: read, .none⟩ := by
  cases h with
  | plain hplain =>
    obtain ⟨hquote, hbackslash, hcontrol⟩ := hplain
    rw [Step.run?_singleton]
    simp [step, hquote, hbackslash, hcontrol, add, Step.next?]
  | @escape e _ he =>
    have hu : e ≠ 'u' := by
      rintro rfl
      simp [escapes] at he
    simp [Step.run?_cons, step, escaped?_eq_some_iff.mpr he, hu, add, Step.next?]
  | number hlength hnumber =>
    rw [run?_numericEscape hnumber read hlength, addNumber_toNat]
    rfl
  | @pair _ s t hlarge hslength hs htlength ht =>
    have hmax := toNat_lt c
    have hlead := (units_bounds hlarge hmax).1
    have htrail := (units_bounds hlarge hmax).2.1
    rw [Step.run?_append, run?_numericEscape hs read hslength, addNumber_lead _ hlead]
    rw [Step.next?, Option.bind_some, run?_trail ht read htlength, addNumber_trail _ _ htrail]
    rw [ofPair_units hlarge hmax]
    rfl

theorem run?_spelledText {cs t : List Char} (h : SpelledText cs t) :
    Step.run? step start t = some ⟨cs.reverse, .none⟩ := by
  induction h with
  | nil => rfl
  | snoc _ hc ih =>
    rw [Step.run?_append, ih, Option.bind_some, run?_spelled hc, List.reverse_concat]

end Literal

end Complete

section Sound

/-- What has been read of a literal after its opening quotation mark, by how much of an escape is
at its end. -/
inductive Literal.ReadFrom : Literal → List Char → Prop
  | whole {cs t : List Char} : SpelledText cs t → ReadFrom ⟨cs.reverse, .none⟩ t
  | backslash {cs t : List Char} : SpelledText cs t →
      ReadFrom ⟨cs.reverse, .backslash⟩ (t ++ ['\\'])
  | digits {cs t s : List Char} {value left : Nat} : SpelledText cs t → HexNumber s value →
      s.length + left = 3 → ReadFrom ⟨cs.reverse, .digits none value left⟩ (t ++ '\\' :: 'u' :: s)
  | lead {cs t s : List Char} {n : Nat} : SpelledText cs t → HexNumber s n → s.length = 4 →
      isLead n = true → ReadFrom ⟨cs.reverse, .lead n⟩ (t ++ '\\' :: 'u' :: s)
  | leadBackslash {cs t s : List Char} {n : Nat} : SpelledText cs t → HexNumber s n →
      s.length = 4 → isLead n = true →
      ReadFrom ⟨cs.reverse, .leadBackslash n⟩ (t ++ '\\' :: 'u' :: s ++ ['\\'])
  | trail {cs t s r : List Char} {n value left : Nat} : SpelledText cs t → HexNumber s n →
      s.length = 4 → isLead n = true → HexNumber r value → r.length + left = 3 →
      ReadFrom ⟨cs.reverse, .digits (some n) value left⟩
        (t ++ '\\' :: 'u' :: s ++ '\\' :: 'u' :: r)

namespace Literal

theorem readFrom_start : ReadFrom start [] :=
  .whole .nil

theorem ReadFrom.add {l next : Literal} {cs t s : List Char} {c : Char} (ht : SpelledText cs t)
    (hc : Spelled c s) (hl : l.read = cs.reverse) (h : l.add c = .more next) :
    ReadFrom next (t ++ s) := by
  unfold Literal.add at h
  cases h
  rw [hl, ← List.reverse_concat]
  exact .whole (.snoc ht hc)

theorem toNat_ofNat {n : Nat} (h : n < 0xD800 ∨ 0xDFFF < n ∧ n < 0x110000) :
    (Char.ofNat n).toNat = n := by
  have hvalid : n.isValidChar := h
  unfold Char.ofNat
  rw [dif_pos hvalid]
  rfl

theorem pair_bounds {lead trail n : Nat} (hlead : isLead lead = true)
    (htrail : isTrail trail = true)
    (hn : n = 0x10000 + (lead - 0xD800) * 0x400 + (trail - 0xDC00)) :
    0x10000 ≤ n ∧ n < 0x110000 ∧ 0xD800 + (n - 0x10000) / 0x400 = lead ∧
      0xDC00 + (n - 0x10000) % 0x400 = trail := by
  rw [isLead_eq_true_iff] at hlead
  rw [isTrail_eq_true_iff] at htrail
  omega

theorem spelled_ofPair {s t : List Char} {lead trail : Nat} (hlead : isLead lead = true)
    (htrail : isTrail trail = true) (hs : HexNumber s lead) (hslength : s.length = 4)
    (ht : HexNumber t trail) (htlength : t.length = 4) :
    Spelled (ofPair lead trail) ('\\' :: 'u' :: s ++ '\\' :: 'u' :: t) := by
  obtain ⟨hlarge, hmax, hfirst, hsecond⟩ := pair_bounds hlead htrail rfl
  have htoNat : (ofPair lead trail).toNat =
      0x10000 + (lead - 0xD800) * 0x400 + (trail - 0xDC00) := by
    unfold ofPair
    apply toNat_ofNat
    omega
  apply Spelled.pair
  · rw [htoNat]
    exact hlarge
  · exact hslength
  · rw [htoNat, hfirst]
    exact hs
  · exact htlength
  · rw [htoNat, hsecond]
    exact ht

theorem spelled_ofNat {t : List Char} {n : Nat} (ht : HexNumber t n) (hlength : t.length = 4)
    (hlead : isLead n = false) (htrail : isTrail n = false) :
    Spelled (Char.ofNat n) ('\\' :: 'u' :: t) := by
  have hbound := ht.lt
  rw [hlength] at hbound
  rw [← Bool.not_eq_true, isLead_eq_true_iff] at hlead
  rw [← Bool.not_eq_true, isTrail_eq_true_iff] at htrail
  apply Spelled.number hlength
  rw [toNat_ofNat (by omega)]
  exact ht

theorem ReadFrom.addNumber {next : Literal} {cs t s : List Char} {n : Nat}
    (ht : SpelledText cs t) (hs : HexNumber s n) (hlength : s.length = 4)
    (h : (Literal.mk cs.reverse .none).addNumber none n = .more next) :
    ReadFrom next (t ++ '\\' :: 'u' :: s) := by
  unfold Literal.addNumber at h
  split_ifs at h with htrail hlead
  · cases h
    exact .lead ht hs hlength hlead
  · rw [Bool.not_eq_true] at htrail hlead
    exact ReadFrom.add ht (spelled_ofNat hs hlength hlead htrail) rfl h

/-- The fourth digit of the second escape of a pair. -/
theorem ReadFrom.addTrail {next : Literal} {cs t s r : List Char} {lead n : Nat}
    (ht : SpelledText cs t) (hs : HexNumber s lead) (hslength : s.length = 4)
    (hlead : isLead lead = true) (hr : HexNumber r n) (hrlength : r.length = 4)
    (h : (Literal.mk cs.reverse .none).addNumber (some lead) n = .more next) :
    ReadFrom next (t ++ '\\' :: 'u' :: s ++ '\\' :: 'u' :: r) := by
  unfold Literal.addNumber at h
  split_ifs at h with htrail
  rw [List.append_assoc]
  exact ReadFrom.add ht (spelled_ofPair hlead htrail hs hslength hr hrlength) rfl h

theorem addNumber_ne_done (l : Literal) (lead : Option Nat) (n : Nat) (s : List Char) :
    l.addNumber lead n ≠ .done s := by
  unfold Literal.addNumber Literal.add
  cases lead <;> split_ifs <;> simp

theorem readFrom_backslash {next : Literal} {cs t : List Char} {c : Char} (ht : SpelledText cs t)
    (hstep : (Literal.mk cs.reverse .backslash).step c = .more next) :
    ReadFrom next (t ++ ['\\', c]) := by
  simp only [Literal.step] at hstep
  split_ifs at hstep with hu
  · cases hstep
    rw [hu]
    exact .digits ht .nil rfl
  · cases he : escaped? c with
    | none => simp [he] at hstep
    | some d =>
      simp only [he] at hstep
      exact ReadFrom.add ht (.escape (escaped?_eq_some_iff.mp he)) rfl hstep

theorem readFrom_digits {next : Literal} {cs t s : List Char} {value left : Nat} {c : Char}
    (ht : SpelledText cs t) (hs : HexNumber s value) (hlength : s.length + left = 3)
    (hstep : (Literal.mk cs.reverse (.digits none value left)).step c = .more next) :
    ReadFrom next (t ++ '\\' :: 'u' :: (s ++ [c])) := by
  simp only [Literal.step] at hstep
  cases hd : Text.hexValue? c with
  | none => simp [hd] at hstep
  | some d =>
    have hs' := HexNumber.snoc hs (hexValue?_eq_some_iff.mp hd)
    have hlength' : (s ++ [c]).length = s.length + 1 := List.length_append
    simp only [hd] at hstep
    cases left with
    | zero => exact ReadFrom.addNumber ht hs' (by omega) hstep
    | succ left =>
      cases hstep
      exact .digits ht hs' (by omega)

theorem readFrom_trail {next : Literal} {cs t s r : List Char} {lead value left : Nat} {c : Char}
    (ht : SpelledText cs t) (hs : HexNumber s lead) (hslength : s.length = 4)
    (hlead : isLead lead = true) (hr : HexNumber r value) (hlength : r.length + left = 3)
    (hstep : (Literal.mk cs.reverse (.digits (some lead) value left)).step c = .more next) :
    ReadFrom next (t ++ '\\' :: 'u' :: s ++ '\\' :: 'u' :: (r ++ [c])) := by
  simp only [Literal.step] at hstep
  cases hd : Text.hexValue? c with
  | none => simp [hd] at hstep
  | some d =>
    have hr' := HexNumber.snoc hr (hexValue?_eq_some_iff.mp hd)
    have hlength' : (r ++ [c]).length = r.length + 1 := List.length_append
    simp only [hd] at hstep
    cases left with
    | zero => exact ReadFrom.addTrail ht hs hslength hlead hr' (by omega) hstep
    | succ left =>
      cases hstep
      exact .trail ht hs hslength hlead hr' (by omega)

theorem ReadFrom.step {l next : Literal} {t : List Char} {c : Char} (h : ReadFrom l t)
    (hstep : l.step c = .more next) : ReadFrom next (t ++ [c]) := by
  cases h with
  | whole ht =>
    simp only [Literal.step] at hstep
    split_ifs at hstep with hquote hbackslash hcontrol
    · cases hstep
      rw [hbackslash]
      exact .backslash ht
    · exact ReadFrom.add ht (.plain ⟨hquote, hbackslash, hcontrol⟩) rfl hstep
  | backslash ht =>
    rw [List.append_assoc]
    exact readFrom_backslash ht hstep
  | digits ht hs hlength =>
    rw [List.append_assoc]
    exact readFrom_digits ht hs hlength hstep
  | lead ht hs hlength hlead =>
    simp only [Literal.step] at hstep
    split_ifs at hstep with hbackslash
    cases hstep
    rw [hbackslash]
    exact .leadBackslash ht hs hlength hlead
  | leadBackslash ht hs hlength hlead =>
    simp only [Literal.step] at hstep
    split_ifs at hstep with hu
    cases hstep
    rw [List.append_assoc, hu]
    exact .trail ht hs hlength hlead .nil rfl
  | trail ht hs hslength hlead hr hlength =>
    rw [List.append_assoc]
    exact readFrom_trail ht hs hslength hlead hr hlength hstep

theorem ReadFrom.done {l : Literal} {t s : List Char} {c : Char} (h : ReadFrom l t)
    (hstep : l.step c = .done s) : c = '"' ∧ SpelledText s t := by
  unfold Literal.step at hstep
  cases h with
  | @whole cs t ht =>
    simp only [Literal.add] at hstep
    split_ifs at hstep with hquote
    cases hstep
    rw [List.reverse_reverse]
    exact ⟨hquote, ht⟩
  | backslash _ =>
    simp only [Literal.add] at hstep
    split_ifs at hstep
    split at hstep <;> cases hstep
  | @digits _ _ _ _ left _ _ _ =>
    cases hd : Text.hexValue? c with
    | none => simp [hd] at hstep
    | some d =>
      simp only [hd] at hstep
      cases left with
      | zero => exact absurd hstep (addNumber_ne_done _ _ _ _)
      | succ left => cases hstep
  | lead _ _ _ _ =>
    simp only at hstep
    split_ifs at hstep
  | leadBackslash _ _ _ _ =>
    simp only at hstep
    split_ifs at hstep
  | @trail _ _ _ _ _ _ left _ _ _ _ _ _ =>
    cases hd : Text.hexValue? c with
    | none => simp [hd] at hstep
    | some d =>
      simp only [hd] at hstep
      cases left with
      | zero => exact absurd hstep (addNumber_ne_done _ _ _ _)
      | succ left => cases hstep

end Literal

end Sound

section Skipped

theorem HexNumber.isHexDigit {t : List Char} {n : Nat} (h : HexNumber t n) :
    ∀ c ∈ t, IsHexDigit c := by
  induction h with
  | nil =>
    intro c hc
    exact absurd hc List.not_mem_nil
  | snoc _ hd ih =>
    intro c hc
    rcases List.mem_append.mp hc with hc | hc
    · exact ih c hc
    · rw [List.mem_singleton.mp hc]
      exact ⟨_, hd⟩

/-- What spells a text may be passed over. -/
theorem SpelledText.skipped {cs t : List Char} (h : SpelledText cs t) : SkippedText t := by
  induction h with
  | nil => exact .nil
  | snoc _ hc ih =>
    cases hc with
    | plain hplain => exact .snoc ih (.plain hplain)
    | escape he => exact .snoc ih (.escape he)
    | number hlength hnumber => exact .snoc ih (.digits hlength hnumber.isHexDigit)
    | pair _ hslength hs htlength ht =>
      rw [← List.append_assoc]
      exact .snoc (.snoc ih (.digits hslength hs.isHexDigit)) (.digits htlength ht.isHexDigit)

theorem StringLiteral.wellFormed {s : String} {t : List Char} (h : StringLiteral s t) :
    WellFormed .value t := by
  obtain ⟨body, hbody, rfl⟩ := h
  exact .string hbody.skipped

theorem wellFormed_entry_of_key {key : String} {a k b c t e : List Char} (ha : Spaces a)
    (hk : StringLiteral key k) (hb : Spaces b) (hc : Spaces c)
    (ht : WellFormed .value t) (he : Spaces e) :
    WellFormed .entries (a ++ k ++ b ++ ':' :: c ++ t ++ e) := by
  obtain ⟨body, hbody, rfl⟩ := hk
  have htext : a ++ ('"' :: body ++ ['"']) ++ b = a ++ '"' :: body ++ '"' :: b := by simp
  rw [htext]
  exact .entry ha hbody.skipped hb hc ht he

end Skipped

end ParamDoc.Json
