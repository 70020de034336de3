import ParamDoc.Json.Fault

/-!
# String literals

A literal is read one character at a time, after its opening quotation mark. Escapes are undone
as they are met; a pair of surrogate escapes stands for one character, and a surrogate that is
not part of a pair is refused.
-/

namespace ParamDoc.Json

/-- What a reader does with a character. -/
inductive Step (σ α : Type) where
  /-- It reads on. -/
  | more (next : σ)
  /-- What it was reading is complete. -/
  | done (result : α)
  | refused

/-- The white space that may stand between tokens. -/
def isSpace (c : Char) : Bool :=
  c = ' ' || c = '\n' || c = '\t' || c = '\r'

/-- The character that a backslash and a letter stand for. -/
def escaped? : Char → Option Char
  | '"' => some '"'
  | '\\' => some '\\'
  | '/' => some '/'
  | 'b' => some '\x08'
  | 'f' => some '\x0c'
  | 'n' => some '\n'
  | 'r' => some '\r'
  | 't' => some '\t'
  | _ => none

def isLead (n : Nat) : Bool :=
  0xD800 ≤ n && n ≤ 0xDBFF

def isTrail (n : Nat) : Bool :=
  0xDC00 ≤ n && n ≤ 0xDFFF

/-- The character that a pair of surrogates stands for. -/
def ofPair (lead trail : Nat) : Char :=
  Char.ofNat (0x10000 + (lead - 0xD800) * 0x400 + (trail - 0xDC00))

/-- How much of an escape has been read. -/
inductive Escape where
  | none
  /-- The backslash. -/
  | backslash
  /-- Some digits of a numeric escape: `left` more follow the next one. A leading surrogate may
  be waiting for its partner. -/
  | digits (lead : Option Nat) (value left : Nat)
  /-- A leading surrogate, whose partner must begin. -/
  | lead (lead : Nat)
  /-- A leading surrogate and the backslash of its partner. -/
  | leadBackslash (lead : Nat)
deriving DecidableEq

/-- A literal that has been read in part, the latest character first. -/
structure Literal where
  read : List Char
  escape : Escape
deriving DecidableEq

namespace Literal

def start : Literal := ⟨[], .none⟩

def add (l : Literal) (c : Char) : Step Literal (List Char) :=
  .more ⟨c :: l.read, .none⟩

def addNumber (l : Literal) (lead : Option Nat) (n : Nat) : Step Literal (List Char) :=
  match lead with
  | some lead => if isTrail n then l.add (ofPair lead n) else .refused
  | none =>
    if isTrail n then .refused
    else if isLead n then .more { l with escape := .lead n }
    else l.add (Char.ofNat n)

/-- Reads one character; the result of a complete literal is its text. -/
def step (l : Literal) (c : Char) : Step Literal (List Char) :=
  match l.escape with
  | .none =>
    if c = '"' then .done l.read.reverse
    else if c = '\\' then .more { l with escape := .backslash }
    else if c < ' ' then .refused
    else l.add c
  | .backslash =>
    if c = 'u' then .more { l with escape := .digits none 0 3 }
    else match escaped? c with
      | some d => l.add d
      | none => .refused
  | .digits lead value left =>
    match Text.hexValue? c with
    | none => .refused
    | some d =>
      match left with
      | 0 => l.addNumber lead (16 * value + d)
      | left + 1 => .more { l with escape := .digits lead (16 * value + d) left }
  | .lead lead =>
    if c = '\\' then .more { l with escape := .leadBackslash lead } else .refused
  | .leadBackslash lead =>
    if c = 'u' then .more { l with escape := .digits (some lead) 0 3 } else .refused

/-- Four digits are read at once: a wrong one is noticed after the fourth, and the end of the
text if it comes before. -/
def refusedDigits (left : Nat) (rest : List Char) : Stop :=
  if left + 1 ≤ Text.byteLength (rest.take 4) then ⟨.invalidEscape, rest, left + 1⟩
  else ⟨.endInString, [], 0⟩

def refusal (l : Literal) (rest : List Char) : Stop :=
  match l.escape with
  | .none => ⟨.controlCharacter, rest, 1⟩
  | .backslash => ⟨.invalidEscape, rest, 1⟩
  | .digits _ _ left =>
    if (rest.head?.bind Text.hexValue?).isSome then ⟨.loneSurrogate, rest, 1⟩
    else refusedDigits left rest
  | .lead _ => ⟨.brokenPair, rest, 1⟩
  | .leadBackslash _ => ⟨.brokenPair, rest, 1⟩

/-- Reads to the closing quotation mark: the text of the literal and what follows it. -/
def finish (l : Literal) : List Char → Except Stop (List Char × List Char)
  | [] => .error ⟨.endInString, [], 0⟩
  | c :: rest =>
    match l.step c with
    | .more next => next.finish rest
    | .done text => .ok (text, rest)
    | .refused => .error (l.refusal (c :: rest))

end Literal

end ParamDoc.Json
