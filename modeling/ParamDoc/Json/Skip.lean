import ParamDoc.Json.Literal

/-!
# Values that are passed over

The members that a dump has besides those of interest must be well-formed, and nothing else is
asked of them: numbers may have any size, strings may hold lone surrogates, and brackets may be
nested to any depth. The open brackets are kept in a list.
-/

namespace ParamDoc.Json

inductive Bracket where
  | list
  | object
deriving DecidableEq

/-- The part of a number that was read last. -/
inductive NumberPart where
  | minus
  | zero
  | whole
  | point
  | fraction
  | mark
  | sign
  | exponent
deriving DecidableEq

namespace NumberPart

/-- A number may end after this part. -/
def isLast : NumberPart → Bool
  | .zero | .whole | .fraction | .exponent => true
  | _ => false

def next? : NumberPart → Char → Option NumberPart
  | .minus, c => if c = '0' then some .zero else if c.isDigit then some .whole else none
  | .zero, c => if c = '.' then some .point else if c = 'e' ∨ c = 'E' then some .mark else none
  | .whole, c =>
    if c.isDigit then some .whole
    else if c = '.' then some .point
    else if c = 'e' ∨ c = 'E' then some .mark
    else none
  | .point, c => if c.isDigit then some .fraction else none
  | .fraction, c =>
    if c.isDigit then some .fraction
    else if c = 'e' ∨ c = 'E' then some .mark
    else none
  | .mark, c =>
    if c = '+' ∨ c = '-' then some .sign else if c.isDigit then some .exponent else none
  | .sign, c => if c.isDigit then some .exponent else none
  | .exponent, c => if c.isDigit then some .exponent else none

/-- The number ends before this character. -/
def endsBefore (p : NumberPart) (c : Char) : Bool :=
  p.isLast && (p.next? c).isNone && !(p = .zero && c.isDigit)

end NumberPart

/-- How much of an escape inside a string that is passed over has been read. -/
inductive SkippedEscape where
  | none
  | backslash
  | digits (left : Nat)
deriving DecidableEq

/-- What comes next in a value that is passed over. -/
inductive Place where
  | value
  | firstItem
  | firstKey
  | key
  | colon
  | string (isKey : Bool) (escape : SkippedEscape)
  | word (left : List Char)
  | number (part : NumberPart)
  /-- After a value inside brackets. -/
  | after
deriving DecidableEq

/-- A value that has been passed over in part: what comes next, and the brackets that are open,
the innermost first. -/
structure Skip where
  place : Place
  brackets : List Bracket
deriving DecidableEq

namespace Skip

def start : Skip := ⟨.value, []⟩

def close : List Bracket → Step Skip Unit
  | [] => .done ()
  | b :: bs => .more ⟨.after, b :: bs⟩

def begin? (brackets : List Bracket) : Char → Option Skip
  | '\x7b' => some ⟨.firstKey, .object :: brackets⟩
  | '[' => some ⟨.firstItem, .list :: brackets⟩
  | '"' => some ⟨.string false .none, brackets⟩
  | 'n' => some ⟨.word ['u', 'l', 'l'], brackets⟩
  | 't' => some ⟨.word ['r', 'u', 'e'], brackets⟩
  | 'f' => some ⟨.word ['a', 'l', 's', 'e'], brackets⟩
  | '-' => some ⟨.number .minus, brackets⟩
  | '0' => some ⟨.number .zero, brackets⟩
  | c => if c.isDigit then some ⟨.number .whole, brackets⟩ else none

def beginStep (brackets : List Bracket) (c : Char) : Step Skip Unit :=
  match begin? brackets c with
  | some next => .more next
  | none => .refused

def afterStep (c : Char) : List Bracket → Step Skip Unit
  | [] => .refused
  | .list :: bs =>
    if isSpace c then .more ⟨.after, .list :: bs⟩
    else if c = ',' then .more ⟨.value, .list :: bs⟩
    else if c = ']' then close bs
    else .refused
  | .object :: bs =>
    if isSpace c then .more ⟨.after, .object :: bs⟩
    else if c = ',' then .more ⟨.key, .object :: bs⟩
    else if c = '\x7d' then close bs
    else .refused

def stringStep (isKey : Bool) (brackets : List Bracket) (c : Char) :
    SkippedEscape → Step Skip Unit
  | .none =>
    if c = '"' then if isKey then .more ⟨.colon, brackets⟩ else close brackets
    else if c = '\\' then .more ⟨.string isKey .backslash, brackets⟩
    else if c < ' ' then .refused
    else .more ⟨.string isKey .none, brackets⟩
  | .backslash =>
    if c = 'u' then .more ⟨.string isKey (.digits 3), brackets⟩
    else if (escaped? c).isSome then .more ⟨.string isKey .none, brackets⟩
    else .refused
  | .digits left =>
    if (Text.hexValue? c).isNone then .refused
    else match left with
      | 0 => .more ⟨.string isKey .none, brackets⟩
      | left + 1 => .more ⟨.string isKey (.digits left), brackets⟩

/-- The value is a number outside all brackets that ends before this character. -/
def endsBefore (s : Skip) (c : Char) : Bool :=
  match s with
  | ⟨.number p, []⟩ => p.endsBefore c
  | _ => false

def step (s : Skip) (c : Char) : Step Skip Unit :=
  match s.place with
  | .value => if isSpace c then .more s else beginStep s.brackets c
  | .firstItem =>
    if isSpace c then .more s
    else if c = ']' then close (s.brackets.drop 1)
    else beginStep s.brackets c
  | .firstKey =>
    if isSpace c then .more s
    else if c = '\x7d' then close (s.brackets.drop 1)
    else if c = '"' then .more ⟨.string true .none, s.brackets⟩
    else .refused
  | .key =>
    if isSpace c then .more s
    else if c = '"' then .more ⟨.string true .none, s.brackets⟩
    else .refused
  | .colon =>
    if isSpace c then .more s
    else if c = ':' then .more ⟨.value, s.brackets⟩
    else .refused
  | .string isKey escape => stringStep isKey s.brackets c escape
  | .word [] => .refused
  | .word (d :: left) =>
    if c ≠ d then .refused
    else if left.isEmpty then close s.brackets
    else .more ⟨.word left, s.brackets⟩
  | .number p =>
    match p.next? c with
    | some next => .more ⟨.number next, s.brackets⟩
    | none => if p.endsBefore c then afterStep c s.brackets else .refused
  | .after => afterStep c s.brackets

def afterCause : List Bracket → Cause
  | .list :: _ => .expectedCommaInList
  | _ => .expectedCommaInObject

def refusal (s : Skip) (rest : List Char) : Stop :=
  match s.place with
  | .value | .firstItem => ⟨.expectedValue, rest, 1⟩
  | .firstKey | .key => ⟨.keyNotString, rest, 1⟩
  | .colon => ⟨.expectedColon, rest, 1⟩
  | .string _ .none => ⟨.controlCharacter, rest, 0⟩
  | .string _ .backslash => ⟨.invalidEscape, rest, 1⟩
  | .string _ (.digits left) => Literal.refusedDigits left rest
  | .word _ => ⟨.expectedWord, rest, 1⟩
  | .number p =>
    if (rest.head?.map p.endsBefore).getD false then ⟨afterCause s.brackets, rest, 1⟩
    else ⟨.invalidNumber, rest, 1⟩
  | .after => ⟨afterCause s.brackets, rest, 1⟩

def endCause : List Bracket → Cause
  | .list :: _ => .endInList
  | _ => .endInObject

/-- Why the text may not end here. A value outside all brackets is a member of a node. -/
def atEnd (s : Skip) : Cause :=
  match s.place with
  | .value | .word _ => .endInValue
  | .firstItem => .endInList
  | .firstKey | .key | .colon => .endInObject
  | .string _ _ => .endInString
  | .number p => if p.isLast then endCause s.brackets else .invalidNumber
  | .after => endCause s.brackets

end Skip

end ParamDoc.Json
