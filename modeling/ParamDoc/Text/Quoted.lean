import ParamDoc.Text.Hexadecimal
import ParamDoc.Text.Hidden

/-!
# Quoted text

Messages and log lines show a text between quotation marks. The marks themselves, backslashes
and four control characters have a short escape; other hidden characters are written by their
code point, so that what stands between the marks is one visible line.
-/

namespace ParamDoc.Text

def spelled (c : Char) : List Char :=
  match c with
  | '\x00' => ['\\', '0']
  | '\t' => ['\\', 't']
  | '\r' => ['\\', 'r']
  | '\n' => ['\\', 'n']
  | '\\' => ['\\', '\\']
  | '"' => ['\\', '"']
  | c =>
    if isHidden c then ['\\', 'u', '\x7b'] ++ hexDigits c.toNat ++ ['\x7d'] else [c]

def quoted (s : String) : String :=
  String.ofList ('"' :: s.toList.flatMap spelled ++ ['"'])

end ParamDoc.Text
