import LedStrip.Proofs.Color.Tagged
import LedStrip.Proofs.Script.Programs
import LedStrip.Proofs.Script.Rules

/-!
# What the shared functions of the scripts do

One equation for every shared function that the effects with one color call, in any program that
has the runtime in it (`HasRuntime`).  A function that calls others needs room for their calls, so
the depth of each equation is some number plus the nesting below it.
-/

namespace LedStrip
namespace Script

open Bundled Program Scalar

/-- Functions of the library that the bundled scripts call. -/
def libraryNames : List String := ["type_of", "to_int", "to_float", "round", "abs", "blob"]

/-- A program with the shared functions in it, and with nothing in the way of the library. -/
structure HasRuntime (p : Program) : Prop where
  shared : p.Holds runtime.functions
  library : ∀ name ∈ libraryNames, p.definesName name = false

/-- A color as an array of its channels. -/
def rgbValue {R : Type} (c : Rgb) : Value R :=
  .array [.int c.r.toNat, .int c.g.toNat, .int c.b.toNat]

/-- A color tagged as RGB, under `mode` or else under `kind`, whose channels are integers. -/
structure IsTaggedRgb {R : Type} (members : Entries (Json R)) (c : Rgb) : Prop where
  tag : TaggedColor.tag? members = some "rgb"
  r : Entries.get? "r" members = some (.int c.r.toNat)
  g : Entries.get? "g" members = some (.int c.g.toNat)
  b : Entries.get? "b" members = some (.int c.b.toNat)

variable {R : Type}

theorem get?_ofJsonMembers (key : String) (members : Entries (Json R)) :
    Entries.get? key (Value.ofJsonMembers members) =
      (Entries.get? key members).map Value.ofJson := by
  induction members with
  | nil => rfl
  | cons e rest ih =>
    obtain ⟨k, v⟩ := e
    by_cases hk : k = key <;> simp [Value.ofJsonMembers, Entries.get?, hk, ih]

theorem get?_ofByte {members : Entries (Json R)} {field : String} {b : UInt8}
    (h : Entries.get? field members = some (.int b.toNat)) :
    Entries.get? field (Value.ofJsonMembers members) = some (.int b.toNat) := by
  have hfit : (b.toNat : Int) ≤ maxInt := by have := b.toNat_lt; simp [maxInt]; omega
  simp [get?_ofJsonMembers, h, Value.ofJson, hfit]

variable [Scalar R] {p : Program}

theorem isInt_of_nonneg {n : Int} (h0 : 0 ≤ n) (h : n < 2 ^ 63) : isInt n = true := by
  have hmin : minInt ≤ n := by unfold minInt; omega
  have hmax : n ≤ maxInt := by unfold maxInt; omega
  simp [isInt, hmin, hmax]

theorem ofInt_toNat (b : UInt8) : UInt8.ofInt (b.toNat : Int) = b := by
  have hb := b.toNat_lt
  apply UInt8.toNat_inj.mp
  rw [UInt8.ofInt, UInt8.toNat_ofNat']
  omega

/-- Storing a byte in a blob. -/
theorem store_byte {bytes : Array UInt8} {n : Int} (h0 : 0 ≤ n) (hn : n.toNat < bytes.size)
    (b : UInt8) :
    store (assigned none (.int b.toNat)) [.index (.int n)] (.blob bytes : Value R) =
      .ok (.blob (bytes.setIfInBounds n.toNat b)) := by
  simp [store, assigned, place?, h0, setItem, hn, ofInt_toNat]

/-! ### Whole parts -/

section WholePart

variable [LawfulScalar R] {x : R} {q : Rat} (hx : toRat? x = some q)

include hx

/-- The whole part of what is not negative, as far as the integers go. -/
theorem wholePart_of_nonneg (h0 : 0 ≤ q) (hq : q ≤ 2 ^ 63) :
    wholePart x = .ok (.int (min maxInt (truncate q))) := by
  obtain ⟨lo, hlo⟩ := LawfulScalar.finite_ofInt (R := R) (n := minInt) (by simp [minInt])
  have hlow : lo ≤ 0 := LawfulScalar.ofInt_mono (by simp [minInt]) hlo toRat?_zero
  have htop : toRat? (ofInt (2 ^ 63) : R) = some (2 ^ 63) :=
    LawfulScalar.toRat?_ofInt_two_pow (by norm_num)
  have hnot : ¬ (ofInt (2 ^ 63) : R) < x := mt (LawfulScalar.lt_iff htop hx).mp (not_lt.mpr hq)
  have hnot' : ¬ x < (ofInt minInt : R) :=
    mt (LawfulScalar.lt_iff hx hlo).mp (not_lt.mpr (hlow.trans h0))
  have ht : 0 ≤ truncate q := le_truncate le_rfl (by exact_mod_cast h0)
  have hwhole : toIntIn minInt maxInt x = min maxInt (truncate q) := by
    simp only [toIntIn, hx, minInt, maxInt]
    omega
  rw [wholePart, if_neg (by simp only [hnot, hnot', decide_false, Bool.or_self, Bool.false_eq_true,
    not_false_eq_true]), hwhole]

omit [LawfulScalar R] in
theorem wholePart_of_lt_one (hq : q < 1) :
    (∃ f, wholePart x = .error f) ∨ ∃ n ≤ 0, wholePart x = .ok (.int n) := by
  have ht := truncate_nonpos hq
  unfold wholePart
  split
  · exact .inl ⟨_, rfl⟩
  · refine .inr ⟨_, ?_, rfl⟩
    simp only [toIntIn, hx, minInt, maxInt]
    omega

theorem wholePart_of_large (hq : 2 ^ 63 < q) : ∃ f, wholePart x = .error f := by
  have htop : toRat? (ofInt (2 ^ 63) : R) = some (2 ^ 63) :=
    LawfulScalar.toRat?_ofInt_two_pow (by norm_num)
  have hlt : (ofInt (2 ^ 63) : R) < x := (LawfulScalar.lt_iff htop hx).mpr hq
  exact ⟨_, by rw [wholePart, if_pos (by simp only [hlt, decide_true, Bool.true_or])]⟩

end WholePart

/-! ### Bytes among the scalars -/

section Bytes

variable [LawfulScalar R] (b : UInt8)

theorem not_byte_lt_zero : ¬ (ofInt (b.toNat : Int) : R) < ofRat 0 := by
  have hzero : toRat? (ofRat 0 : R) = some 0 := toRat?_zero
  rw [LawfulScalar.lt_iff (toRat?_ofInt_byte b) hzero]
  exact not_lt.mpr (Nat.cast_nonneg _)

theorem not_lt_byte : ¬ (ofRat 255 : R) < ofInt (b.toNat : Int) := by
  have htop : toRat? (ofRat 255 : R) = some 255 :=
    countsTo_of_le (n := 255) (by norm_num) 255 le_rfl
  rw [LawfulScalar.lt_iff htop (toRat?_ofInt_byte b), not_lt]
  exact_mod_cast (show b.toNat ≤ 255 by have := b.toNat_lt; omega)

theorem wholePart_round_byte :
    wholePart (Scalar.round (ofInt (b.toNat : Int) : R)) = .ok (.int b.toNat) := by
  have hb := b.toNat_lt
  have hle : (b.toNat : Rat) ≤ 2 ^ 63 := by exact_mod_cast (by omega : b.toNat ≤ 2 ^ 63)
  have hwhole : truncate (b.toNat : Rat) = b.toNat := truncate_ofInt _
  rw [wholePart_of_nonneg (toRat?_round_byte b) (Nat.cast_nonneg _) hle, hwhole, maxInt,
    min_eq_right (by omega)]

end Bytes

omit [Scalar R] in
/-- A tag stands under `mode`, or under `kind` where there is no `mode`. -/
theorem IsTaggedRgb.tag_cases {members : Entries (Json R)} {c : Rgb} (h : IsTaggedRgb members c) :
    Entries.get? "mode" members = some (.str "rgb") ∨
      (Entries.get? "mode" members = none ∧ Entries.get? "kind" members = some (.str "rgb")) :=
  TaggedColor.tag?_eq_some_iff.mp h.tag

namespace HasRuntime

/-- A call of a library function. -/
theorem caller_library (hp : HasRuntime p) {name : String} (hname : name ∈ libraryNames)
    (depth : Nat) (args : List (Value R)) (this? : Option (Value R)) :
    caller p depth name args this? = none :=
  caller_undefined (hp.library name hname) depth args this?

variable (hp : HasRuntime p) (depth : Nat) (this? : Option (Value R))

include hp

theorem caller_type_of (args : List (Value R)) : caller p depth "type_of" args this? = none :=
  hp.caller_library (by simp [libraryNames]) depth args this?

theorem caller_to_int (args : List (Value R)) : caller p depth "to_int" args this? = none :=
  hp.caller_library (by simp [libraryNames]) depth args this?

theorem caller_to_float (args : List (Value R)) : caller p depth "to_float" args this? = none :=
  hp.caller_library (by simp [libraryNames]) depth args this?

theorem caller_round (args : List (Value R)) : caller p depth "round" args this? = none :=
  hp.caller_library (by simp [libraryNames]) depth args this?

theorem caller_abs (args : List (Value R)) : caller p depth "abs" args this? = none :=
  hp.caller_library (by simp [libraryNames]) depth args this?

theorem caller_blob (args : List (Value R)) : caller p depth "blob" args this? = none :=
  hp.caller_library (by simp [libraryNames]) depth args this?

/-! ### Numbers -/

omit hp in
/-- The whole part of a float; what is no float stays. -/
def whole : Value R → Except (Fault R) (Value R)
  | .float x => wholePart x
  | v => .ok v

theorem as_int (v : Value R) :
    caller p (depth + 1) "as_int" [v] this? = some (outcomeOf (whole v), this?) := by
  refine (hp.shared.caller_eq Runtime.asInt (by simp [runtime]) rfl _ _).trans ?_
  cases v with
  | float x =>
    cases h : wholePart x <;>
      simp -implicitDefEqProofs [Runtime.asInt, hp.caller_type_of, hp.caller_to_int, h, whole]
  | range a b closed =>
    cases closed <;> simp -implicitDefEqProofs [Runtime.asInt, hp.caller_type_of, whole]
  | _ => simp -implicitDefEqProofs [Runtime.asInt, hp.caller_type_of, whole]

theorem as_float_int (n : Int) :
    caller p (depth + 1) "as_float" [.int n] this? = some (.ok (.float (ofInt n)), this?) := by
  refine (hp.shared.caller_eq Runtime.asFloat (by simp [runtime]) rfl _ _).trans ?_
  simp -implicitDefEqProofs [Runtime.asFloat, hp.caller_type_of, hp.caller_to_float]

theorem as_float_float (x : R) :
    caller p (depth + 1) "as_float" [.float x] this? = some (.ok (.float x), this?) := by
  refine (hp.shared.caller_eq Runtime.asFloat (by simp [runtime]) rfl _ _).trans ?_
  simp -implicitDefEqProofs [Runtime.asFloat, hp.caller_type_of]

/-! ### Colors -/

theorem color_field_int {members : Entries (Value R)} {field : String} {n : Int}
    (h : Entries.get? field members = some (.int n)) (mode : String) :
    caller p (depth + 2) "color_field" [.map members, .str mode, .str field] this? =
      some (.ok (.float (ofInt n)), this?) := by
  refine (hp.shared.caller_eq Runtime.colorField (by simp [runtime]) rfl _ _).trans ?_
  simp -implicitDefEqProofs [Runtime.colorField, hp.caller_type_of, h, hp.as_float_int]

theorem rgb_channel_byte [LawfulScalar R] {members : Entries (Value R)} {field : String}
    {b : UInt8} (h : Entries.get? field members = some (.int b.toNat)) :
    caller p (depth + 3) "rgb_channel" [.map members, .str field] this? =
      some (.ok (.int b.toNat), this?) := by
  refine (hp.shared.caller_eq Runtime.rgbChannel (by simp [runtime]) rfl _ _).trans ?_
  simp -implicitDefEqProofs [Runtime.rgbChannel, hp.color_field_int depth none h,
    hp.caller_round, hp.caller_to_int, not_byte_lt_zero, not_lt_byte, wholePart_round_byte]

theorem to_rgb [LawfulScalar R] {members : Entries (Json R)} {c : Rgb} (h : IsTaggedRgb members c) :
    caller p (depth + 4) "to_rgb" [.map (Value.ofJsonMembers members)] this? =
      some (.ok (rgbValue c), this?) := by
  refine (hp.shared.caller_eq Runtime.toRgb (by simp [runtime]) rfl _ _).trans ?_
  have hr := hp.rgb_channel_byte depth none (get?_ofByte h.r)
  have hg := hp.rgb_channel_byte depth none (get?_ofByte h.g)
  have hb := hp.rgb_channel_byte depth none (get?_ofByte h.b)
  obtain hmode | ⟨hmode, hkind⟩ := h.tag_cases
  · simp -implicitDefEqProofs [Runtime.toRgb, hp.caller_type_of, Entries.contains,
      get?_ofJsonMembers, hmode, Value.ofJson, hr, hg, hb, rgbValue]
  · simp -implicitDefEqProofs [Runtime.toRgb, hp.caller_type_of, Entries.contains,
      get?_ofJsonMembers, hmode, hkind, Value.ofJson, hr, hg, hb, rgbValue]

/-! ### Parameters -/

/-- A parameter that is `()` counts as absent. -/
theorem config_or_unit {members : Entries (Value R)} {key : String}
    (h : (Entries.get? key members).getD .unit = .unit) (fallback : Value R) :
    caller p (depth + 1) "config_or" [.map members, .str key, fallback] this? =
      some (.ok fallback, this?) := by
  refine (hp.shared.caller_eq Runtime.configOr (by simp [runtime]) rfl _ _).trans ?_
  simp -implicitDefEqProofs [Runtime.configOr, h]

theorem config_or_int [LawfulScalar R] {members : Entries (Value R)} {key : String} {n : Nat}
    (h : (Entries.get? key members).getD .unit = .int n) (hn : n ≤ 2 ^ 64) (fallback : Value R) :
    caller p (depth + 1) "config_or" [.map members, .str key, fallback] this? =
      some (.ok (if n = 0 then fallback else .int n), this?) := by
  refine (hp.shared.caller_eq Runtime.configOr (by simp [runtime]) rfl _ _).trans ?_
  rcases Nat.eq_zero_or_pos n with rfl | hpos
  · simp -implicitDefEqProofs [Runtime.configOr, h]
  · have hzero : (ofInt (n : Int) == (ofRat 0 : R)) = false := by
      simpa [ofInt] using ofInt_beq_zero (R := R) (k := n) (by omega) (by exact_mod_cast hn)
    have hne : ((n : Int) == 0) = false := by simp; omega
    simp -implicitDefEqProofs [Runtime.configOr, h, hzero, hne, hpos.ne']

/-- A count that may be absent; absence and zero give the default. -/
theorem config_or_nat [LawfulScalar R] {members : Entries (Value R)} {key : String}
    {count? : Option Nat}
    (h : (Entries.get? key members).getD .unit = (count?.map fun n => .int n).getD .unit)
    (hcount : ∀ n, count? = some n → n ≤ 2 ^ 64) (default : Nat) :
    caller p (depth + 1) "config_or" [.map members, .str key, .int default] this? =
      some (.ok (.int ((count?.filter (0 < ·)).getD default : Nat)), this?) := by
  cases count? with
  | none => exact hp.config_or_unit depth this? h _
  | some n =>
    rw [hp.config_or_int depth this? h (hcount n rfl)]
    rcases Nat.eq_zero_or_pos n with rfl | hpos
    · simp [Option.filter]
    · simp [Option.filter, hpos, hpos.ne']

theorem config_color_or_unit {members : Entries (Value R)}
    (h : (Entries.get? "color" members).getD .unit = .unit) (fallback : Value R) :
    caller p (depth + 5) "config_color_or" [.map members, fallback] this? =
      some (.ok fallback, this?) := by
  refine (hp.shared.caller_eq Runtime.configColorOr (by simp [runtime]) rfl _ _).trans ?_
  simp -implicitDefEqProofs [Runtime.configColorOr, h]

theorem config_color_or_rgb [LawfulScalar R] {members : Entries (Value R)}
    {color : Entries (Json R)} {c : Rgb} (hc : IsTaggedRgb color c)
    (h : Entries.get? "color" members = some (.map (Value.ofJsonMembers color)))
    (fallback : Value R) :
    caller p (depth + 5) "config_color_or" [.map members, fallback] this? =
      some (.ok (rgbValue c), this?) := by
  refine (hp.shared.caller_eq Runtime.configColorOr (by simp [runtime]) rfl _ _).trans ?_
  simp -implicitDefEqProofs [Runtime.configColorOr, h, hp.to_rgb depth none hc]

omit hp [Scalar R] in
/-- A machine as a script describes it. -/
def described (ledCount speed : Nat) (state : Value R) : Value R :=
  .map [("led_count", .int ledCount), ("speed", .int speed), ("state", state)]

theorem create_base_machine {members : Entries (Value R)} {ledCount speed : Nat} {default : Value R}
    (hcount : caller p (depth + 1) "config_or" [.map members, .str "ledCount", .int 20] none =
      some (.ok (.int ledCount), none))
    (hspeed : caller p (depth + 1) "config_or" [.map members, .str "speed", default] none =
      some (.ok (.int speed), none)) (state : Value R) :
    caller p (depth + 2) "create_base_machine" [.map members, default, state] this? =
      some (.ok (described ledCount speed state), this?) := by
  refine (hp.shared.caller_eq Runtime.createBaseMachine (by simp [runtime]) rfl _ _).trans ?_
  have hsorted (a b c : Value R) :
      Entries.ofList [("led_count", a), ("speed", b), ("state", c)] =
        [("led_count", a), ("speed", b), ("state", c)] := by
    simp only [Entries.ofList, List.foldl_cons, List.foldl_nil, Entries.insert, String.reduceEq,
      String.reduceLT, if_false]
  simp -implicitDefEqProofs [Runtime.createBaseMachine, hcount, hspeed, hp.as_int depth none, whole,
    hsorted, described]

/-! ### Frames -/

theorem make_blank {n : Nat} (hn : 3 * n < 2 ^ 63) :
    caller p (depth + 1) "make_blank" [(.int n : Value R)] this? =
      some (.ok (.blob (Frame.blank n).bytes), this?) := by
  refine (hp.shared.caller_eq Runtime.makeBlank (by simp [runtime]) rfl _ _).trans ?_
  have hfit : isInt ((n : Int) * 3) = true := isInt_of_nonneg (by omega) (by omega)
  have hsize : ((n : Int) * 3).toNat = Frame.byteCount n := by
    rw [Frame.byteCount, Nat.mod_eq_of_lt (by omega)]; omega
  simp -implicitDefEqProofs [Runtime.makeBlank, hp.caller_blob, hfit, hsize, Frame.blank]
  exact .inr rfl

theorem paint_led {f : Frame} {i : Nat} (hi : f.Has i) (c : Rgb) :
    caller p (depth + 1) "paint_led" [(.int i : Value R), rgbValue c] (some (.blob f.bytes)) =
      some (.ok .unit, some (.blob (f.set i c).bytes)) := by
  refine (hp.shared.caller_eq Runtime.paintLed (by simp [runtime]) rfl _ _).trans ?_
  have hbound : 3 * i + 3 ≤ f.bytes.size := hi.bound
  have hlt : f.bytes.size < 2 ^ 63 := hi.size_lt
  have hfit0 : isInt ((i : Int) * 3) = true := isInt_of_nonneg (by omega) (by omega)
  have hfit1 : isInt ((i : Int) * 3 + 1) = true := isInt_of_nonneg (by omega) (by omega)
  have hfit2 : isInt ((i : Int) * 3 + 2) = true := isInt_of_nonneg (by omega) (by omega)
  have h0 : 0 ≤ (i : Int) * 3 := by omega
  have h1 : 0 ≤ (i : Int) * 3 + 1 := by omega
  have h2 : 0 ≤ (i : Int) * 3 + 2 := by omega
  have hnat : ((i : Int) * 3).toNat = 3 * i := by omega
  have hnat1 : ((i : Int) * 3 + 1).toNat = 3 * i + 1 := by omega
  have hnat2 : ((i : Int) * 3 + 2).toNat = 3 * i + 2 := by omega
  simp -implicitDefEqProofs [Runtime.paintLed, rgbValue, hfit0, hfit1, hfit2, place?, store_byte,
    h0, h1, h2, hnat, hnat1, hnat2, show 3 * i < f.bytes.size by omega,
    show 3 * i + 1 < f.bytes.size by omega, show 3 * i + 2 < f.bytes.size by omega,
    Frame.set_of_has hi]

omit hp in
/-- The variables of `paint_all`. -/
abbrev paintVars (n : Nat) (c : Rgb) : List (Variable R) :=
  [⟨"rgb", rgbValue c, false⟩, ⟨"led_count", .int n, false⟩]

/-- One round after another, the loop paints LED after LED. -/
theorem eval_paintEach {f : Frame} {n : Nat} (hn : ∀ i < n, f.Has i) (c : Rgb) :
    eval (caller p (depth + 1)) Runtime.paintEach ⟨paintVars n c, some (.blob f.bytes : Value R)⟩ =
      (.ok .unit, ⟨paintVars n c, some (.blob (f.paint c (List.range n)).bytes)⟩) := by
  refine eval_forLoop (n := n) (by simp -implicitDefEqProofs)
    (fun k => ⟨paintVars n c, some (.blob (f.paint c (List.range k)).bytes)⟩)
    rfl (fun k hk => ⟨.unit, ⟨"i", .int k, false⟩, ?_⟩) (fun _ => rfl)
  have hhas : (f.paint c (List.range k)).Has k := (hn k hk).of_size (by simp)
  simp -implicitDefEqProofs [hp.paint_led depth hhas, List.range_succ, Frame.paint_concat]

theorem paint_all {f : Frame} {n : Nat} (hn : ∀ i < n, f.Has i) (c : Rgb) :
    caller p (depth + 2) "paint_all" [(.int n : Value R), rgbValue c] (some (.blob f.bytes)) =
      some (.ok .unit, some (.blob (f.paint c (List.range n)).bytes)) := by
  refine (hp.shared.caller_eq Runtime.paintAll (by simp [runtime]) rfl _ _).trans ?_
  simp -implicitDefEqProofs [Runtime.paintAll, hp.eval_paintEach depth hn]

end HasRuntime
end Script
end LedStrip
