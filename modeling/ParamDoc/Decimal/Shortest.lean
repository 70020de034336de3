/-!
# The fewest digits that identify a binary value

A finite binary64 value is `m * 2 ^ q`. The reals that round to it form an interval, which holds
its two ends exactly when `m` is even. Of the decimals in that interval the shortest is selected;
of two equally short ones the nearer, and on a tie the even one. All comparisons are exact.
-/

namespace ParamDoc.Decimal

/-- A finite non-negative binary64 value, `significand * 2 ^ exponent`. -/
structure Binary where
  significand : Nat
  exponent : Int
  /-- The gap to the value below is half the gap to the value above. -/
  narrowBelow : Bool
deriving DecidableEq

/-- The magnitude of the finite value with these bits. -/
def Binary.ofBits (bits : UInt64) : Binary :=
  let exponent := ((bits >>> 52) &&& 0x7FF).toNat
  let fraction := (bits &&& 0xFFFFFFFFFFFFF).toNat
  if exponent = 0 then ⟨fraction, -1074, false⟩
  else ⟨0x10000000000000 + fraction, (exponent : Int) - 1075, fraction = 0 && exponent > 1⟩

/-- The decimal `digits * 10 ^ exponent`. -/
structure Scaled where
  digits : Nat
  exponent : Int
deriving DecidableEq

/-- Compares `digits * 10 ^ exponent` with `n * 2 ^ q`. -/
def Scaled.compareBinary (d : Scaled) (n : Nat) (q : Int) : Ordering :=
  compare (d.digits * Nat.pow 10 d.exponent.toNat * Nat.pow 2 (-q).toNat)
    (n * Nat.pow 2 q.toNat * Nat.pow 10 (-d.exponent).toNat)

/-- The decimal lies among the reals that round to the value. -/
def Binary.holds (x : Binary) (d : Scaled) : Bool :=
  let low := if x.narrowBelow then 4 * x.significand - 1 else 4 * x.significand - 2
  let high := 4 * x.significand + 2
  let closed := x.significand % 2 = 0
  let fromLow := d.compareBinary low (x.exponent - 2)
  let toHigh := d.compareBinary high (x.exponent - 2)
  (fromLow = .gt || (closed && fromLow = .eq)) && (toHigh = .lt || (closed && toHigh = .eq))

def Binary.ratio (x : Binary) : Nat × Nat :=
  (x.significand * Nat.pow 2 x.exponent.toNat, Nat.pow 2 (-x.exponent).toNat)

/-- The greatest multiple of `10 ^ grid` that is not above the value. -/
def Binary.floorOn (x : Binary) (grid : Int) : Scaled :=
  let (num, den) := x.ratio
  ⟨num * Nat.pow 10 (-grid).toNat / (den * Nat.pow 10 grid.toNat), grid⟩

/-- Of the two neighbours of the value on the grid, the one that stands for it, if any does. -/
def Binary.onGrid? (x : Binary) (grid : Int) : Option Scaled :=
  let below := x.floorOn grid
  let above : Scaled := ⟨below.digits + 1, grid⟩
  match x.holds below, x.holds above with
  | false, false => none
  | true, false => some below
  | false, true => some above
  | true, true =>
    match Scaled.compareBinary ⟨2 * below.digits + 1, grid⟩ (2 * x.significand) x.exponent with
    | .lt => some above
    | .gt => some below
    | .eq => some (if below.digits % 2 = 0 then below else above)

/-- The least `k` at or after the given one with the value below `10 ^ k`, within some steps. -/
def Binary.scale (x : Binary) : Nat → Int → Int
  | 0, k => k
  | steps + 1, k =>
    if Scaled.compareBinary ⟨1, k⟩ x.significand x.exponent = .gt then k else x.scale steps (k + 1)

/-- Tries grids of one digit more each time, from the coarsest that is given. -/
def Binary.firstGrid (x : Binary) : Nat → Int → Option Scaled
  | 0, _ => none
  | tries + 1, grid => (x.onGrid? grid).or (x.firstGrid tries (grid - 1))

/-- Moves trailing zeros of the digits into the exponent. -/
def Scaled.strip : Nat → Scaled → Scaled
  | 0, d => d
  | n + 1, d =>
    if d.digits % 10 = 0 && d.digits ≠ 0 then strip n ⟨d.digits / 10, d.exponent + 1⟩ else d

def Binary.exact (x : Binary) : Scaled :=
  ⟨x.significand * Nat.pow 2 x.exponent.toNat * Nat.pow 5 (-x.exponent).toNat,
    -((-x.exponent).toNat : Int)⟩

/-- The shortest decimal that stands for the value. Seventeen digits are always enough, so the
exact value is only a last resort. -/
def Binary.shortest (x : Binary) : Scaled :=
  if x.significand = 0 then ⟨0, 0⟩
  else
    let bits : Int := (x.significand.log2 : Int) + x.exponent
    -- 10 ^ k with k a little below bits * log10 2 is below the value; three steps go past it.
    let k := x.scale 4 (Int.fdiv (bits * 30103) 100000 - 1)
    (((x.firstGrid 17 (k - 1)).getD x.exact).strip 20)

end ParamDoc.Decimal
