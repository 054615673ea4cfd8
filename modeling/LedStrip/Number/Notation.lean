import LedStrip.Number.Shortest

/-!
# Notations for decimals

A `NumberStyle` fixes how a decimal becomes text: which magnitudes are written positionally, whether an integral value
keeps `.0`, whether a positive exponent shows its sign and whether zero shows its own.  Four styles are in use: `json`
for values and messages, `plain` for bare quantities, `script` for numbers printed by a script, and `nested` for numbers
inside the arrays and maps that a script prints.
-/

namespace LedStrip

structure NumberStyle where
  /-- Decimals written without an exponent. -/
  positional : Decimal → Bool
  pointZero : Bool
  plusExponent : Bool
  signedZero : Bool

namespace NumberStyle

/-- Positional from `1e-5` up to but not including `1e16`; `1e+16` and `1e-6` beyond. -/
def json : NumberStyle where
  positional d := -5 ≤ d.leading && d.leading ≤ 15
  pointZero := true
  plusExponent := true
  signedZero := true

/-- Never an exponent and never a bare `.0`. -/
def plain : NumberStyle where
  positional _ := true
  pointZero := false
  plusExponent := false
  signedZero := true

/-- Positional between the single-precision neighbours of `1e-7` and `1e13`, the former a little above and the latter a
little below, so that both of these have an exponent.  Zero has no sign. -/
def script : NumberStyle where
  positional d := Decimal.le ⟨10000000116860974, -23⟩ d && d.le ⟨9999999827968, 0⟩
  pointZero := true
  plusExponent := false
  signedZero := false

/-- Positional from `1e-5` up to but not including `1e16`; `1e16` and `1e-6` beyond. -/
def nested : NumberStyle where
  positional d := -5 ≤ d.leading && d.leading ≤ 15
  pointZero := true
  plusExponent := false
  signedZero := true

/-- Digits with a point where the exponent puts it. -/
def positionalText (s : NumberStyle) (d : Decimal) : String :=
  let ds := (toString d.digits).toList
  if 0 ≤ d.exponent then
    String.ofList (ds ++ List.replicate d.exponent.toNat '0') ++ (if s.pointZero then ".0" else "")
  else
    let places := (-d.exponent).toNat
    let padded := List.replicate (places + 1 - ds.length) '0' ++ ds
    let whole := padded.take (padded.length - places)
    let fraction := padded.drop (padded.length - places)
    String.ofList (whole ++ '.' :: fraction)

/-- One digit, the remaining digits after a point, and the power of ten. -/
def scientificText (s : NumberStyle) (d : Decimal) : String :=
  let e := d.leading
  let exponent := (if s.plusExponent && 0 ≤ e then "+" else "") ++ toString e
  match (toString d.digits).toList with
  | [] => ""
  | [c] => String.ofList [c] ++ "e" ++ exponent
  | c :: cs => String.ofList (c :: '.' :: cs) ++ "e" ++ exponent

/-- Text of a magnitude with its sign; the decimal has no trailing zeros. -/
def render (s : NumberStyle) (negative : Bool) (d : Decimal) : String :=
  let zero := d.digits == 0
  let sign := if negative && (s.signedZero || !zero) then "-" else ""
  sign ++ (if zero || s.positional d then s.positionalText d else s.scientificText d)

end NumberStyle

/-- A natural number of hundredths, tenths, … written with `places` digits after the point. -/
def fixedText (places n : Nat) : String :=
  NumberStyle.plain.positionalText ⟨n, -(places : Int)⟩

end LedStrip
