import LedStrip.Number.Binary64

/-!
# Shortest decimals

The decimal that a double is written with: of all decimals that read back as the double, one with the fewest digits,
and of those the nearest.  The reals that read back as `m * 2 ^ e` form an interval; for one, two, … digits the two
neighbours of the value on that decimal grid are tested against it in exact arithmetic.
-/

namespace LedStrip

/-- A decimal `digits * 10 ^ exponent`. -/
structure Decimal where
  digits : Nat
  exponent : Int
deriving DecidableEq, Repr, Inhabited

namespace Decimal

/-- Number of decimal digits; zero has one. -/
def digitCount (n : Nat) : Nat := (toString n).length

/-- Drop trailing zeros, at most `fuel` of them. -/
def stripZeros : Nat → Nat → Int → Decimal
  | 0, d, e => ⟨d, e⟩
  | fuel + 1, d, e => if d % 10 = 0 then stripZeros fuel (d / 10) (e + 1) else ⟨d, e⟩

/-- The same decimal without trailing zeros. -/
def normalize (d : Decimal) : Decimal :=
  if d.digits = 0 then ⟨0, 0⟩ else stripZeros (digitCount d.digits) d.digits d.exponent

/-- Power of ten of the leading digit. -/
def leading (d : Decimal) : Int := (digitCount d.digits : Int) + d.exponent - 1

/-- Order of the values, both brought to the smaller exponent. -/
def le (a b : Decimal) : Bool :=
  let e := min a.exponent b.exponent
  a.digits * 10 ^ (a.exponent - e).toNat ≤ b.digits * 10 ^ (b.exponent - e).toNat

end Decimal

namespace Binary64

/-- Scale factors `(a, b)` with `10 ^ p / 2 ^ e = a / b`. -/
def gridRatio (p e : Int) : Nat × Nat :=
  (10 ^ p.toNat * 2 ^ (-e).toNat, 10 ^ (-p).toNat * 2 ^ e.toNat)

/-- The largest `p` with `10 ^ p ≤ m * 2 ^ e`, searched downwards from an upper bound. -/
def leadingPower (m : Nat) (e : Int) : Nat → Int → Int
  | 0, p => p
  | fuel + 1, p =>
    let (a, b) := gridRatio p e
    if a ≤ m * b then p else leadingPower m e fuel (p - 1)

/-- The nearer of the two neighbours of `m * 2 ^ e` on the grid `10 ^ p` that read back as `m * 2 ^ e`. -/
def onGrid? (m : Nat) (e p : Int) (boundary : Bool) : Option Decimal :=
  let (a, b) := gridRatio p (e - 2)
  let v := 4 * m * b
  let lo := (4 * m - (if boundary then 1 else 2)) * b
  let hi := (4 * m + 2) * b
  let inside (c : Nat) : Bool :=
    if m % 2 = 0 then lo ≤ c * a && c * a ≤ hi else lo < c * a && c * a < hi
  let c := v / a
  let below := inside c && c != 0
  let above := inside (c + 1)
  let down := v - c * a
  let up := (c + 1) * a - v
  let takeUp := above && (!below || up < down || (up == down && c % 2 == 1))
  if takeUp then some ⟨c + 1, p⟩ else if below then some ⟨c, p⟩ else none

/-- First grid with a hit, from one digit on. -/
def searchGrids (m : Nat) (e top : Int) (boundary : Bool) : Nat → Int → Decimal
  | 0, _ => ⟨m * 2 ^ e.toNat, 0⟩
  | fuel + 1, k =>
    match onGrid? m e (top - k) boundary with
    | some d => d
    | none => searchGrids m e top boundary fuel (k + 1)

/-- The shortest decimal that reads back as `m * 2 ^ e`, trailing zeros dropped. -/
def shortestMagnitude (m : Nat) (e : Int) : Decimal :=
  if m = 0 then ⟨0, 0⟩
  else
    let bits : Int := (m.log2 : Int) + e
    let top := leadingPower m e 3 (bits * 30103 / 100000 + 1)
    (searchGrids m e top (m == 2 ^ 52 && -1074 < e) 18 0).normalize

/-- The shortest decimal of the magnitude of a finite double. -/
def shortest (x : Float) : Decimal :=
  match magnitude? x with
  | some (m, e) => shortestMagnitude m e
  | none => ⟨0, 0⟩

end Binary64
end LedStrip
