import LedStrip.Number.Notation

/-!
# Scalars

The numbers that colors, panels and effects compute with.  Everything that does arithmetic takes its number type as a
parameter: doubles when a program runs, exact rationals when a law is stated without rounding.  Besides the operators a
scalar has its exact value, the nearest scalar of a rational, a sign and a shortest decimal; the rest is derived here.
-/

namespace LedStrip

class Scalar (R : Type) extends Add R, Sub R, Mul R, Div R, Neg R, LT R, LE R, BEq R where
  decLt : DecidableLT R
  decLe : DecidableLE R
  /-- Exact value; infinities and NaN have none. -/
  toRat? : R → Option Rat
  /-- Nearest scalar. -/
  ofRat : Rat → R
  /-- Whether the scalar carries a minus sign. -/
  negative : R → Bool
  /-- Shortest decimal of the magnitude, without trailing zeros. -/
  shortest : R → Decimal

namespace Scalar

variable {R : Type} [Scalar R]

instance : DecidableLT R := decLt
instance : DecidableLE R := decLe

/-! ### Conversions -/

def ofInt (n : Int) : R := ofRat (n : Rat)

def ofNat (n : Nat) : R := ofInt n

def isFinite (x : R) : Bool := (toRat? x).isSome

def isNaN (x : R) : Bool := !(x == x)

/-- The quotient zero by zero; NaN where the scalars have one. -/
def undefined : R := ofInt 0 / ofInt 0

/-- Toward zero into `lo … hi`, ends included; what is not a number gives zero. -/
def toIntIn (lo hi : Int) (x : R) : Int :=
  match toRat? x with
  | some q => max lo (min hi (truncate q))
  | none => if isNaN x then 0 else if negative x then lo else hi

/-- Toward zero into `0 … hi`. -/
def toNatIn (hi : Nat) (x : R) : Nat := (toIntIn 0 hi x).toNat

def toByte (x : R) : UInt8 := UInt8.ofNat (toNatIn 255 x)

/-- Toward zero into an unsigned 64-bit word. -/
def toWord (x : R) : Nat := toNatIn (2 ^ 64 - 1) x

/-! ### Functions -/

/-- Round the exact value; zero keeps the sign of its argument, and what is not finite stays. -/
def mapExact (f : Rat → Int) (x : R) : R :=
  match toRat? x with
  | none => x
  | some q =>
    let y : R := ofInt (f q)
    if f q = 0 && negative x then -y else y

def trunc (x : R) : R := mapExact truncate x

/-- To the nearest integer, a half away from zero. -/
def round (x : R) : R := mapExact roundHalfAway x

def floor (x : R) : R := mapExact Rat.floor x

def ceil (x : R) : R := mapExact Rat.ceil x

def abs (x : R) : R := if negative x then -x else x

/-- Remainder of the division that truncates; it has the sign of `x`. -/
def rem (x y : R) : R :=
  match toRat? x, toRat? y with
  | some p, some q =>
    if q = 0 then undefined
    else
      let r : R := ofRat (p - q * (truncate (p / q) : Rat))
      if negative x && r == ofInt 0 then -r else r
  | some _, none => if isNaN y then y else x
  | none, _ => undefined

/-- Remainder in `[0, |y|)`. -/
def floorMod (x y : R) : R :=
  let r := rem x y
  if r < ofInt 0 then r + abs y else r

/-- Keep `x` within `lo … hi`; what is not a number stays. -/
def clamp (lo hi x : R) : R := if x < lo then lo else if hi < x then hi else x

/-! ### Text -/

/-- Text in a style; the words for what is not finite are the same in all of them. -/
def text (s : NumberStyle) (x : R) : String :=
  if isFinite x then s.render (negative x) (shortest x)
  else if isNaN x then "NaN"
  else if negative x then "-inf" else "inf"

/-- Text with two places, a half going to the even neighbour. -/
def textHundredths (x : R) : String :=
  match toRat? x with
  | some q => (if negative x then "-" else "") ++ fixedText 2 (roundHalfEven (q.abs * 100)).toNat
  | none => text .plain x

end Scalar

/-! ### Doubles -/

instance : Scalar Float where
  decLt := inferInstance
  decLe := inferInstance
  toRat? := Binary64.toRat?
  ofRat := Binary64.ofRat
  negative := Binary64.negative
  shortest := Binary64.shortest

/-! ### Rationals -/

/-- The decimal of a rational, cut after twenty places where it does not end before. -/
def rationalDecimal (q : Rat) : Decimal :=
  Decimal.normalize ⟨q.num.natAbs * 10 ^ 20 / q.den, -20⟩

instance : Scalar Rat where
  decLt := inferInstance
  decLe := inferInstance
  toRat? := some
  ofRat q := q
  negative q := q < 0
  shortest := rationalDecimal

end LedStrip
