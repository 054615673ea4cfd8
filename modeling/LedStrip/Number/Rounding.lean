/-!
# Rounding rationals to integers

The three ways in which a rational becomes an integer here: `truncate` drops the fraction, `roundHalfAway` goes to the
nearest integer and sends a half away from zero, `roundHalfEven` sends it to the even neighbour.  `Nat.roundDivEven`
is the last rule on a quotient of naturals.
-/

namespace LedStrip

-- A power is the one of the core library, also where a theory of monoids has its own.
attribute [scoped instance (high), default_instance (high + 1)] instPowNat

/-- The quotient `num / den` rounded to the nearest natural, a half to the even neighbour. -/
def roundDivEven (num den : Nat) : Nat :=
  let q := num / den
  let twice := 2 * (num % den)
  if twice < den then q
  else if den < twice then q + 1
  else if q % 2 = 0 then q else q + 1

/-- Apply a rounding of the magnitude and put the sign back. -/
def onMagnitude (f : Nat → Nat → Nat) (q : Rat) : Int :=
  if q.num < 0 then -(f q.num.natAbs q.den : Int) else (f q.num.natAbs q.den : Int)

/-- Toward zero. -/
def truncate (q : Rat) : Int := onMagnitude (· / ·) q

/-- To the nearest integer, a half away from zero. -/
def roundHalfAway (q : Rat) : Int := onMagnitude (fun n d => (2 * n + d) / (2 * d)) q

/-- To the nearest integer, a half to the even neighbour. -/
def roundHalfEven (q : Rat) : Int := onMagnitude roundDivEven q

/-- A rounding that keeps whole magnitudes keeps integers. -/
theorem onMagnitude_ofInt {f : Nat → Nat → Nat} (hf : ∀ n, f n 1 = n) (n : Int) : onMagnitude f (n : Rat) = n := by
  unfold onMagnitude
  rw [Rat.num_intCast, Rat.den_intCast, hf]
  split <;> omega

theorem truncate_ofInt (n : Int) : truncate (n : Rat) = n := onMagnitude_ofInt Nat.div_one n

theorem roundHalfAway_ofInt (n : Int) : roundHalfAway (n : Rat) = n :=
  onMagnitude_ofInt (fun n => by omega) n

end LedStrip
