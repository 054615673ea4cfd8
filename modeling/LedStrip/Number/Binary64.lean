import LedStrip.Number.Rounding

/-!
# Doubles as exact rationals

A finite double is a significand times a power of two.  `toRat?` reads that rational off the bit pattern and `ofRat`
goes back to the nearest double, ties to the even significand.
-/

namespace LedStrip
namespace Binary64

/-! ### Reading -/

/-- Whether the sign bit is set; it is for `-0.0`. -/
def negative (x : Float) : Bool := x.toBits >>> 63 == 1

/-- Significand and exponent of the magnitude of a finite double. -/
def magnitude? (x : Float) : Option (Nat × Int) :=
  let bits := x.toBits.toNat
  let e : Nat := bits / 2 ^ 52 % 2048
  let f : Nat := bits % 2 ^ 52
  if e = 2047 then none
  else if e = 0 then some (f, -1074)
  else some (f + 2 ^ 52, (e : Int) - 1075)

/-- The rational `m * 2 ^ e`. -/
def dyadic (m : Nat) (e : Int) : Rat :=
  if 0 ≤ e then mkRat (m * 2 ^ e.toNat) 1 else mkRat m (2 ^ (-e).toNat)

/-- The exact value of a finite double; infinities and NaN have none. -/
def toRat? (x : Float) : Option Rat :=
  (magnitude? x).map fun (m, e) => if negative x then -dyadic m e else dyadic m e

/-! ### Writing -/

/-- Bits of the double nearest to the positive quotient `num / den`, sign bit aside. -/
def magnitudeBits (num den : Nat) : Nat :=
  let at_ (e : Int) : Nat × Nat :=
    if 0 ≤ e then (num, den * 2 ^ e.toNat) else (num * 2 ^ (-e).toNat, den)
  let low : Int := (num.log2 : Int) - den.log2 - 53
  let e := if 2 ^ 53 ≤ (at_ low).1 / (at_ low).2 then low + 1 else low
  let e := max e (-1074)
  let m := roundDivEven (at_ e).1 (at_ e).2
  let (m, e) := if m = 2 ^ 53 then (2 ^ 52, e + 1) else (m, e)
  if m < 2 ^ 52 then m
  else if 971 < e then 2047 * 2 ^ 52
  else (e + 1075).toNat * 2 ^ 52 + (m - 2 ^ 52)

/-- The double nearest to a rational, ties to the even significand; zero is positive. -/
def ofRat (q : Rat) : Float :=
  if q.num = 0 then Float.ofBits 0
  else
    let bits := magnitudeBits q.num.natAbs q.den
    Float.ofBits (UInt64.ofNat (if q.num < 0 then bits + 2 ^ 63 else bits))

end Binary64
end LedStrip
