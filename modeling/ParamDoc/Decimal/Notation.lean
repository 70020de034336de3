import ParamDoc.Decimal.Shortest

/-!
# How a floating point number is written in a message

Numbers are written with the fewest digits that identify them: positionally, and with a point,
while the exponent of the leading digit is from -5 to 15, and otherwise with a signed exponent.
-/

namespace ParamDoc.Decimal

def digitsOf (n : Nat) : List Char :=
  Nat.toDigits 10 n

def zeros (n : Nat) : List Char :=
  List.replicate n '0'

/-- Digits and a point: `lead` is the exponent of the leading digit. -/
def positional (digits : List Char) (lead : Int) : List Char :=
  if lead < 0 then '0' :: '.' :: zeros (-lead - 1).toNat ++ digits
  else
    let whole := lead.toNat + 1
    if digits.length ≤ whole then digits ++ zeros (whole - digits.length) ++ ['.', '0']
    else digits.take whole ++ '.' :: digits.drop whole

/-- One digit before the point, and a signed exponent. -/
def scientific (digits : List Char) (lead : Int) : List Char :=
  let fraction := digits.drop 1
  digits.take 1 ++ (if fraction.isEmpty then [] else '.' :: fraction) ++
    'e' :: (if lead < 0 then '-' else '+') :: digitsOf lead.natAbs

def Scaled.written (d : Scaled) : List Char :=
  let digits := digitsOf d.digits
  let lead := d.exponent + digits.length - 1
  if -5 ≤ lead && lead ≤ 15 then positional digits lead else scientific digits lead

/-- A finite number as a message shows it; zero keeps its sign. -/
def written (x : Float) : String :=
  let bits := x.toBits
  let sign := if bits >>> 63 = 1 then ['-'] else []
  String.ofList (sign ++ (Binary.ofBits bits).shortest.written)

end ParamDoc.Decimal
