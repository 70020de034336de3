/-!
# Writing strings as JSON

Between the quotation marks of a literal a character stands for itself, but for the quotation
mark, the backslash and the control characters, which are escaped.
-/

namespace ParamDoc.Json

def hexDigit (n : Nat) : Char :=
  if n < 10 then Char.ofNat (48 + n) else Char.ofNat (87 + n)

def spell (c : Char) : List Char :=
  match c with
  | '"' => ['\\', '"']
  | '\\' => ['\\', '\\']
  | '\x08' => ['\\', 'b']
  | '\x0c' => ['\\', 'f']
  | '\n' => ['\\', 'n']
  | '\r' => ['\\', 'r']
  | '\t' => ['\\', 't']
  | c =>
    if c < ' ' then ['\\', 'u', '0', '0', hexDigit (c.toNat / 16), hexDigit (c.toNat % 16)]
    else [c]

/-- The literal of a text. -/
def literal (s : List Char) : List Char :=
  '"' :: s.flatMap spell ++ ['"']

end ParamDoc.Json
