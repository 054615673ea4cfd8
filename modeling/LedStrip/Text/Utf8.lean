import LedStrip.Text.Basic

/-!
# Bytes as text

Reading bytes as UTF-8 without ever failing: where the bytes stop being the start of any character, what was read of it
becomes one replacement character, and the reading goes on with the byte that did not fit.
-/

namespace LedStrip
namespace Text

/-- A character of which some bytes are still owed, with the range of the next one. -/
structure Pending where
  owed : Nat
  low : Nat
  high : Nat
  value : Nat

/-- What a first byte begins. -/
inductive Lead where
  | char (c : Char)
  | pending (p : Pending)
  | invalid

/-- Overlong forms, surrogates and values beyond the last code point are excluded by the range of the second byte. -/
def lead (b : Nat) : Lead :=
  if b ≤ 0x7F then .char (Char.ofNat b)
  else if 0xC2 ≤ b && b ≤ 0xDF then .pending ⟨1, 0x80, 0xBF, b - 0xC0⟩
  else if 0xE0 ≤ b && b ≤ 0xEF then
    .pending ⟨2, if b = 0xE0 then 0xA0 else 0x80, if b = 0xED then 0x9F else 0xBF, b - 0xE0⟩
  else if 0xF0 ≤ b && b ≤ 0xF4 then
    .pending ⟨3, if b = 0xF0 then 0x90 else 0x80, if b = 0xF4 then 0x8F else 0xBF, b - 0xF0⟩
  else .invalid

/-- What stands for bytes that are no character. -/
def replacement : Char := '\uFFFD'

def charsFrom : Option Pending → List UInt8 → List Char
  | none, [] => []
  | some _, [] => [replacement]
  | none, b :: rest =>
    match lead b.toNat with
    | .char c => c :: charsFrom none rest
    | .pending p => charsFrom (some p) rest
    | .invalid => replacement :: charsFrom none rest
  | some p, b :: rest =>
    let n := b.toNat
    if p.low ≤ n && n ≤ p.high then
      let value := p.value * 64 + (n - 0x80)
      if p.owed ≤ 1 then Char.ofNat value :: charsFrom none rest
      else charsFrom (some ⟨p.owed - 1, 0x80, 0xBF, value⟩) rest
    else
      match lead n with
      | .char c => replacement :: c :: charsFrom none rest
      | .pending p => replacement :: charsFrom (some p) rest
      | .invalid => replacement :: replacement :: charsFrom none rest

/-- The text that bytes spell. -/
def ofBytes (bytes : Array UInt8) : String := String.ofList (charsFrom none bytes.toList)

end Text
end LedStrip
