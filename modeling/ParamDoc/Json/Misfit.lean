import ParamDoc.Json.Literal

/-!
# Values of the wrong type

Where a string, a list or a node belongs, a value of another type is still read, so that the
message can show it. A number is an integer if it has neither fraction nor exponent and fits in
64 bits, with its sign; otherwise its first digits, as many as fit in 64 bits, are scaled by the
power of ten in one operation of binary64.
-/

namespace ParamDoc.Json

/-- Something read, and the text after it. -/
abbrev Reading (α : Type) : Type := Except Stop (α × List Char)

def readWord (found : Found) : List Char → List Char → Reading Found
  | [], rest => .ok (found, rest)
  | _ :: _, [] => .error ⟨.endInValue, [], 0⟩
  | c :: left, d :: rest =>
    if c = d then readWord found left rest else .error ⟨.expectedWord, d :: rest, 1⟩

def digitValue (c : Char) : Nat :=
  c.toNat - 48

/-- Appends digits to a number as long as it stays below the bound: the number, how many digits
were taken, and the text after them. -/
def takeDigits (bound n count : Nat) : List Char → Nat × Nat × List Char
  | [] => (n, count, [])
  | c :: rest =>
    if c.isDigit && 10 * n + digitValue c < bound then
      takeDigits bound (10 * n + digitValue c) (count + 1) rest
    else (n, count, c :: rest)

def significandBound : Nat := 0x10000000000000000

/-- Divides by a power of ten, at most 308 places at a time. -/
def divideByTens (x : Float) (places : Nat) : Float :=
  if places ≤ 308 then x / Float.ofScientific 1 false places
  else if x == 0.0 then x
  else divideByTens (x / Float.ofScientific 1 false 308) (places - 308)
termination_by places

/-- `significand * 10 ^ exponent` with one rounding for the significand and one for the power of
ten; `none` if it is too large. -/
def scaleTens (significand : Nat) (exponent : Int) : Option Float :=
  let x := Float.ofScientific significand false 0
  match exponent with
  | .ofNat places =>
    if places ≤ 308 then
      let y := x * Float.ofScientific 1 false places
      if y.isInf then none else some y
    else if x == 0.0 then some x
    else none
  | .negSucc places => some (divideByTens x (places + 1))

def signed (negative : Bool) (x : Float) : Float :=
  if negative then -x else x

def readScaled (negative : Bool) (significand : Nat) (exponent : Int) (rest : List Char) :
    Reading Found :=
  match scaleTens significand exponent with
  | some x => .ok (.floating (signed negative x), rest)
  | none => .error ⟨.numberOutOfRange, rest, 0⟩

def exponentBound : Nat := 0x80000000

def readExponentDigits (negative : Bool) (significand : Nat) (start : Int) (down : Bool) :
    List Char → Reading Found
  | [] => .error ⟨.endInValue, [], 0⟩
  | c :: rest =>
    if !c.isDigit then .error ⟨.invalidNumber, c :: rest, 1⟩
    else
      let (n, _, rest) := takeDigits exponentBound (digitValue c) 0 rest
      match rest with
      | d :: rest' =>
        if d.isDigit then
          if significand ≠ 0 && !down then .error ⟨.numberOutOfRange, d :: rest', 1⟩
          else .ok (.floating (signed negative 0.0), rest'.dropWhile Char.isDigit)
        else readScaled negative significand (if down then start - n else start + n) rest
      | [] => readScaled negative significand (if down then start - n else start + n) rest

def readExponent (negative : Bool) (significand : Nat) (start : Int) :
    List Char → Reading Found
  | '+' :: rest => readExponentDigits negative significand start false rest
  | '-' :: rest => readExponentDigits negative significand start true rest
  | rest => readExponentDigits negative significand start false rest

def readMark (negative : Bool) (significand : Nat) (exponent : Int) :
    List Char → Reading Found
  | 'e' :: rest => readExponent negative significand exponent rest
  | 'E' :: rest => readExponent negative significand exponent rest
  | rest => readScaled negative significand exponent rest

/-- Reads a fraction after its point. Digits that do not fit the significand are dropped. -/
def readFraction (negative : Bool) (significand : Nat) (start : Int) (text : List Char) :
    Reading Found :=
  match takeDigits significandBound significand 0 text with
  | (n, count, c :: rest) =>
    if c.isDigit then readMark negative n (start - count) (rest.dropWhile Char.isDigit)
    else if count = 0 then .error ⟨.invalidNumber, c :: rest, 1⟩
    else readMark negative n (start - count) (c :: rest)
  | (n, count, []) =>
    if count = 0 then .error ⟨.endInValue, [], 0⟩ else readMark negative n (start - count) []

def readAfterWhole (negative : Bool) (significand : Nat) (dropped : Nat) :
    List Char → Reading Found
  | '.' :: rest => readFraction negative significand dropped rest
  | rest =>
    if dropped = 0 && !(rest.head? = some 'e' || rest.head? = some 'E') then
      if !negative then .ok (.integer significand, rest)
      else if significand = 0 || 0x8000000000000000 < significand then
        .ok (.floating (-(Float.ofScientific significand false 0)), rest)
      else .ok (.integer (-significand), rest)
    else readMark negative significand dropped rest

def readNumber (negative : Bool) : List Char → Reading Found
  | [] => .error ⟨.endInValue, [], 0⟩
  | c :: rest =>
    if c = '0' then
      match rest with
      | d :: rest' =>
        if d.isDigit then .error ⟨.invalidNumber, d :: rest', 1⟩
        else readAfterWhole negative 0 0 rest
      | [] => readAfterWhole negative 0 0 rest
    else if !c.isDigit then .error ⟨.invalidNumber, c :: rest, 1⟩
    else
      let (n, _, rest) := takeDigits significandBound (digitValue c) 0 rest
      let after := rest.dropWhile Char.isDigit
      readAfterWhole negative n (rest.length - after.length) after

/-- Reads a value of any type, as far as a message shows it: a list or an object only to its
bracket. -/
def readFound (text : List Char) : Reading Found :=
  match text with
  | 'n' :: rest => readWord .null ['u', 'l', 'l'] rest
  | 't' :: rest => readWord (.boolean true) ['r', 'u', 'e'] rest
  | 'f' :: rest => readWord (.boolean false) ['a', 'l', 's', 'e'] rest
  | '-' :: rest => readNumber true rest
  | '"' :: rest =>
    (Literal.start.finish rest).map fun (s, rest) => (.string (String.ofList s), rest)
  | '[' :: _ => .ok (.sequence, text)
  | '\x7b' :: _ => .ok (.map, text)
  | c :: _ => if c.isDigit then readNumber false text else .error ⟨.expectedValue, text, 1⟩
  | [] => .error ⟨.endInValue, [], 0⟩

def misfit (expected : Expected) (text : List Char) : Stop :=
  match readFound text with
  | .ok (found, rest) => ⟨.wrongType found expected, rest, 0⟩
  | .error stop => stop

end ParamDoc.Json
