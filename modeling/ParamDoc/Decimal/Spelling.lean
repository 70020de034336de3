/-!
# Spelled numbers

A number is spelled by an optional sign and digits, which may have a point among them or at
either end, and may be followed by an exponent. Infinity and "not a number" have names.
-/

namespace ParamDoc.Decimal

def dropSign : List Char → List Char
  | '+' :: rest => rest
  | '-' :: rest => rest
  | s => s

def isWhole (s : List Char) : Bool :=
  !s.isEmpty && s.all Char.isDigit

/-- Nothing, or the letter `e` and a whole number that may have a sign. -/
def isExponent : List Char → Bool
  | [] => true
  | c :: rest => (c = 'e' || c = 'E') && isWhole (dropSign rest)

/-- Digits with at most one point, and then an exponent or nothing. -/
def isPositional (s : List Char) : Bool :=
  let whole := s.takeWhile Char.isDigit
  match s.dropWhile Char.isDigit with
  | '.' :: rest =>
    !(whole ++ rest.takeWhile Char.isDigit).isEmpty && isExponent (rest.dropWhile Char.isDigit)
  | rest => !whole.isEmpty && isExponent rest

/-- Names of values that have no digits; their case does not matter. -/
def names : List String :=
  ["inf", "infinity", "nan"]

def isNumber (s : List Char) : Bool :=
  isPositional (dropSign s) || names.contains (String.ofList ((dropSign s).map Char.toLower))

end ParamDoc.Decimal
