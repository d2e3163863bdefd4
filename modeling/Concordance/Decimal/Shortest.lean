/-!
The shortest decimal for a binary64 value: of all decimals that are read back as the value, one with
the fewest digits, and of those the nearest.
-/

namespace Concordance.Decimal

/-- A finite positive binary value `m * 2 ^ q`. -/
structure Binary where
  m : Nat
  q : Int
  /-- the neighbour below is only half as far away as the neighbour above -/
  narrowBelow : Bool
  deriving Repr, DecidableEq

/-- A decimal `digits * 10 ^ exp`. -/
structure Scaled where
  digits : Nat
  exp : Int
  deriving Repr, DecidableEq

/-- Two to a power, or one if the exponent is negative. -/
def powTwo (e : Int) : Nat := Nat.pow 2 e.toNat

/-- Ten to a power, or one if the exponent is negative. -/
def powTen (e : Int) : Nat := Nat.pow 10 e.toNat

/-- True if the sign of a binary64 value is set. -/
def isSigned (x : Float) : Bool := powTwo 63 ≤ x.toBits.toNat

/-- The bits of a binary64 value below its sign. -/
def unsignedBits (x : Float) : Nat := x.toBits.toNat % powTwo 63

/-- The magnitude given by the bits of a finite value below its sign. -/
def Binary.ofBits (bits : Nat) : Binary :=
  let e := bits / powTwo 52
  let f := bits % powTwo 52
  if e = 0 then ⟨f, -1074, false⟩ else ⟨powTwo 52 + f, (e : Int) - 1075, f = 0 && e > 1⟩

/-- The magnitude of a finite value. -/
def Binary.ofFloat (x : Float) : Binary := .ofBits (unsignedBits x)

/-- Compares `a * 10 ^ i` with `n * 2 ^ j`, exactly. -/
def compareScaled (a : Nat) (i : Int) (n : Nat) (j : Int) : Ordering :=
  compare (a * powTen i * powTwo (-j)) (n * powTwo j * powTen (-i))

/-- True if the decimal lies among the reals that round to the value: between the middles to its two
neighbours, which belong to the value exactly when `m` is even. -/
def Binary.readsBack (x : Binary) (d : Scaled) : Bool :=
  let lo := if x.narrowBelow then 4 * x.m - 1 else 4 * x.m - 2
  let hi := 4 * x.m + 2
  let closed := x.m % 2 == 0
  let below := compareScaled d.digits d.exp lo (x.q - 2)
  let above := compareScaled d.digits d.exp hi (x.q - 2)
  (below == .gt || (closed && below == .eq)) && (above == .lt || (closed && above == .eq))

/-- The exponent of the leading digit: `k` with `10 ^ k ≤ m * 2 ^ q < 10 ^ (k + 1)`, found from the
binary logarithm by at most two corrections. -/
def Binary.leading (x : Binary) : Int :=
  let estimate := ((x.m.log2 : Int) + x.q) * 30103 / 100000
  let up (k : Int) : Int := if compareScaled 1 (k + 1) x.m x.q != .gt then k + 1 else k
  let down (k : Int) : Int := if compareScaled 1 k x.m x.q == .gt then k - 1 else k
  up (up (down (down estimate)))

/-- The largest multiple of `10 ^ e` that does not exceed the value, in units of `10 ^ e`. -/
def Binary.floorAt (x : Binary) (e : Int) : Nat :=
  (x.m * powTwo x.q * powTen (-e)) / (powTwo (-x.q) * powTen e)

/-- The decimal in units of `10 ^ e` that is read back as the value; of two the nearer, and of two
equally near ones the even one. -/
def Binary.onGrid (x : Binary) (e : Int) : Option Scaled :=
  let n := x.floorAt e
  let below : Scaled := ⟨n, e⟩
  let above : Scaled := ⟨n + 1, e⟩
  match x.readsBack below, x.readsBack above with
  | false, false => none
  | true, false => some below
  | false, true => some above
  | true, true =>
    match compareScaled (2 * n + 1) e (2 * x.m) x.q with
    | .lt => some above
    | .gt => some below
    | .eq => some (if n % 2 = 0 then below else above)

/-- Moves trailing zeros of the digits into the exponent. -/
def Scaled.strip (d : Scaled) : Nat → Scaled
  | 0 => d
  | n + 1 => if d.digits ≠ 0 && d.digits % 10 = 0 then strip ⟨d.digits / 10, d.exp + 1⟩ n else d

/-- The first of the grids with one, two, up to seventeen digits that holds a decimal which is read
back as the value. Should there be none, the exact value in units of `10 ^ q`. -/
def Binary.shortest (x : Binary) : Scaled :=
  let k := x.leading
  let found := (List.range 17).findSome? fun (n : Nat) => x.onGrid (k - n)
  let exact : Scaled :=
    if x.q ≥ 0 then ⟨x.m * powTwo x.q, 0⟩ else ⟨x.m * Nat.pow 5 (-x.q).toNat, x.q⟩
  (found.getD exact).strip 400

end Concordance.Decimal
