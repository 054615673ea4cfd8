import LedStrip.Proofs.Script.Runtime

/-!
# What the hooks of the scripts do

One equation for every hook of the scripts of blink, chase and wave, as `HasRuntime` has one for
every function that they share.  A script keeps its state in a map, of which only the members count
that it reads (`BlinkLogic.IsState`, `RunningLogic.IsState`).
-/

namespace LedStrip
namespace Bundled

open Script Script.Program

namespace Logic

variable {R : Type}

/-! ### Setters -/

/-- The variables of a setter. -/
abbrev setterVars (key : String) (v : Value R) : List (Variable R) :=
  [⟨"value", v, false⟩, ⟨"key", .str key, false⟩]

variable [Scalar R] {p : Program}

theorem eval_rgbLiteral (call : Caller R) (c : Rgb) (env : Env R) :
    eval call (rgbLiteral c) env = (.ok (rgbValue c), env) := by
  simp -implicitDefEqProofs [rgbLiteral, rgbValue]

theorem eval_setColor [LawfulScalar R] (hp : HasRuntime p) (depth : Nat)
    {color : Entries (Json R)} {c : Rgb} (hc : IsTaggedRgb color c) (key : String)
    (members : Entries (Value R)) :
    eval (caller p (depth + 4)) setColor
        ⟨setterVars key (.map (Value.ofJsonMembers color)), some (.map members)⟩ =
      (.ok .unit, ⟨setterVars key (.map (Value.ofJsonMembers color)),
        some (.map (Entries.insert "color" (rgbValue c) members))⟩) := by
  simp -implicitDefEqProofs [setColor, setterVars, hp.to_rgb depth none hc]

/-- The count that a setter keeps: a value is made whole, and refused where it is below one. -/
def countFrom (message : String) (x : Value R) : Except (Fault R) (Value R) := do
  let n ← HasRuntime.whole x
  match ← binary .lt n (.int 1) with
  | .bool true => .error (.thrown (.str message))
  | _ => .ok n

theorem countFrom_int (message : String) (n : Int) :
    countFrom message (.int n : Value R) =
      if n < 1 then .error (.thrown (.str message)) else .ok (.int n) := by
  by_cases h : n < 1 <;> simp [countFrom, HasRuntime.whole, h]

/-- Comparing with an integer gives a truth value, if anything. -/
theorem lt_int_cases (v : Value R) (n : Int) :
    (∃ b, binary .lt v (.int n) = .ok (.bool b)) ∨ ∃ f, binary .lt v (.int n) = .error f := by
  cases v with
  | word m => exact .inr ⟨_, rfl⟩
  | range a b closed => cases closed <;> exact .inl ⟨_, rfl⟩
  | _ => exact .inl ⟨_, rfl⟩

theorem eval_setCount (hp : HasRuntime p) (depth : Nat) (member message key : String) (x : Value R)
    (members : Entries (Value R)) :
    eval (caller p (depth + 1)) (setCount member message) ⟨setterVars key x, some (.map members)⟩ =
      match countFrom message x with
      | .ok n => (.ok .unit, ⟨setterVars key x, some (.map (Entries.insert member n members))⟩)
      | .error f => (.fault f, ⟨setterVars key x, some (.map members)⟩) := by
  cases hn : HasRuntime.whole x with
  | error f => simp -implicitDefEqProofs [setCount, countFrom, hp.as_int depth none, hn]
  | ok n =>
    rcases lt_int_cases n 1 with ⟨b, hb⟩ | ⟨f, hf⟩
    · cases b <;>
        simp -implicitDefEqProofs [-binary, setCount, countFrom, hp.as_int depth none, hn, hb]
    · simp -implicitDefEqProofs [-binary, setCount, countFrom, hp.as_int depth none, hn, hf]

end Logic

/-! ### Blink -/

namespace BlinkLogic

section State

variable {R : Type} {members : Entries (Value R)} {c : Rgb} {on : Bool}

/-- A map from which a script reads a color and whether the LEDs are on. -/
structure IsState (members : Entries (Value R)) (c : Rgb) (on : Bool) : Prop where
  color : Entries.get? "color" members = some (rgbValue c)
  on : Entries.get? "on" members = some (.bool on)

theorem IsState.setOn (h : IsState members c on) (on' : Bool) :
    IsState (Entries.insert "on" (.bool on') members) c on' where
  color := by rw [Entries.get?_insert_of_ne (by decide), h.color]
  on := Entries.get?_insert_self _ _ _

theorem IsState.setColor (h : IsState members c on) (c' : Rgb) :
    IsState (Entries.insert "color" (rgbValue c') members) c' on where
  color := Entries.get?_insert_self _ _ _
  on := by rw [Entries.get?_insert_of_ne (by decide), h.on]

end State

variable {R : Type} [Scalar R] {p : Program} (hp : HasRuntime p)
  (hlogic : p.Holds blinkLogic.functions) {members : Entries (Value R)} {c : Rgb} {on : Bool}

include hlogic in
theorem on_reset (members : Entries (Value R)) (depth : Nat) :
    caller p (depth + 1) "on_reset" [] (some (.map members)) =
      some (.ok .unit, some (.map (Entries.insert "on" (.bool false) members))) := by
  refine (hlogic.caller_eq onReset (by simp [blinkLogic]) rfl _ _).trans ?_
  simp -implicitDefEqProofs [onReset]

include hp hlogic

theorem create_effect {options : Entries (Value R)} {depth ledCount speed : Nat}
    (hcolor : caller p (depth + 5) "config_color_or"
      [.map options, rgbValue Blink.defaultColor] none = some (.ok (rgbValue c), none))
    (hcount : caller p (depth + 4) "config_or" [.map options, .str "ledCount", .int 20] none =
      some (.ok (.int ledCount), none))
    (hspeed : caller p (depth + 4) "config_or" [.map options, .str "speed", .int 200] none =
      some (.ok (.int speed), none)) :
    ∃ members, IsState members c false ∧
      caller p (depth + 6) "create_effect" [.map options] none =
        some (.ok (HasRuntime.described ledCount speed (.map members)), none) := by
  refine ⟨Entries.ofList [("color", rgbValue c), ("on", .bool false)],
    ⟨?_, Entries.get?_insert_self _ _ _⟩, ?_⟩
  · have hne : "color" ≠ "on" := by decide
    exact (Entries.get?_insert_of_ne hne _ _).trans (Entries.get?_insert_self _ _ _)
  · refine (hlogic.caller_eq createEffect (by simp [blinkLogic]) rfl _ _).trans ?_
    have hrgb : (⟨217, 70, 239⟩ : Rgb) = Blink.defaultColor := rfl
    simp -implicitDefEqProofs [createEffect, Logic.eval_rgbLiteral, hrgb, hcolor,
      hp.create_base_machine (depth + 3) none hcount hspeed]

theorem on_tick (h : IsState members c on) {n : Nat} (hn : 3 * n < 2 ^ 63) (depth : Nat) :
    caller p (depth + 3) "on_tick" [.int n] (some (.map members)) =
      some (.ok (.blob (Blink.frame ⟨c, !on⟩ n).bytes),
        some (.map (Entries.insert "on" (.bool !on) members))) := by
  refine (hlogic.caller_eq onTick (by simp [blinkLogic]) rfl _ _).trans ?_
  have hblank := hp.make_blank (R := R) (depth + 1) none hn
  have hall := hp.paint_all (R := R) depth (fun i hi => Frame.has_blank hn hi) c
  cases on with
  | false =>
    simp -implicitDefEqProofs [onTick, h.on, (h.setOn true).color, hblank, hall, Blink.frame,
      Frame.fill_blank hn, inverted]
  | true => simp -implicitDefEqProofs [onTick, h.on, hblank, Blink.frame, inverted]

theorem on_set_config_color [LawfulScalar R] {color : Entries (Json R)} (hc : IsTaggedRgb color c)
    (members : Entries (Value R)) (depth : Nat) :
    caller p (depth + 5) "on_set_config" [.str "color", .map (Value.ofJsonMembers color)]
        (some (.map members)) =
      some (.ok .unit, some (.map (Entries.insert "color" (rgbValue c) members))) := by
  refine (hlogic.caller_eq onSetConfig (by simp [blinkLogic]) rfl _ _).trans ?_
  simp -implicitDefEqProofs [onSetConfig, Logic.eval_setColor hp depth hc]

omit hp in
theorem on_set_config_unknown {key : String} (hkey : key ≠ "color") (v : Value R)
    (members : Entries (Value R)) (depth : Nat) :
    caller p (depth + 1) "on_set_config" [.str key, v] (some (.map members)) =
      some (.ok .unit, some (.map members)) := by
  refine (hlogic.caller_eq onSetConfig (by simp [blinkLogic]) rfl _ _).trans ?_
  simp -implicitDefEqProofs [onSetConfig, hkey]

end BlinkLogic

/-! ### Effects that run around the strip -/

namespace RunningLogic

section State

variable {R : Type} {member : String} {members : Entries (Value R)} {c : Rgb} {count position : Nat}

/-- A map from which a script reads a color, a count under the name of a member, and a position. -/
structure IsState (member : String) (members : Entries (Value R)) (c : Rgb) (count position : Nat) :
    Prop where
  color : Entries.get? "color" members = some (rgbValue c)
  count : Entries.get? member members = some (.int count)
  position : Entries.get? "position" members = some (.int position)

theorem IsState.setPosition (h : IsState member members c count position)
    (hmember : member ≠ "position") (position' : Nat) :
    IsState member (Entries.insert "position" (.int position') members) c count position' where
  color := by rw [Entries.get?_insert_of_ne (by decide), h.color]
  count := by rw [Entries.get?_insert_of_ne hmember, h.count]
  position := Entries.get?_insert_self _ _ _

theorem IsState.setColor (h : IsState member members c count position) (hmember : member ≠ "color")
    (c' : Rgb) :
    IsState member (Entries.insert "color" (rgbValue c') members) c' count position where
  color := Entries.get?_insert_self _ _ _
  count := by rw [Entries.get?_insert_of_ne hmember, h.count]
  position := by rw [Entries.get?_insert_of_ne (by decide), h.position]

theorem IsState.setCount (h : IsState member members c count position) (hcolor : member ≠ "color")
    (hposition : member ≠ "position") (count' : Nat) :
    IsState member (Entries.insert member (.int count') members) c count' position where
  color := by rw [Entries.get?_insert_of_ne hcolor.symm, h.color]
  count := Entries.get?_insert_self _ _ _
  position := by rw [Entries.get?_insert_of_ne hposition.symm, h.position]

end State

variable {R : Type} [Scalar R] {p : Program} {member key message : String} {c : Rgb}

/-- A step along the strip, with the length of the strip as the oldest variable. -/
theorem eval_advance (call : Caller R) {members : Entries (Value R)} {position n : Nat}
    (h : Entries.get? "position" members = some (.int position)) (hp : position < n)
    (hn : 3 * n < 2 ^ 63) (vars : List (Variable R))
    (hvar : lookup? "led_count" vars = some ⟨"led_count", .int n, false⟩) :
    eval call advance ⟨vars, some (.map members)⟩ =
      (.ok .unit, ⟨vars,
        some (.map (Entries.insert "position" (.int ((position + 1) % n : Nat)) members))⟩) := by
  have hfit : isInt ((position : Int) + 1) = true := isInt_of_nonneg (by omega) (by omega)
  have hne : n ≠ 0 := by omega
  have hrem : ((position : Int) + 1).tmod n = (position + 1) % n :=
    Int.tmod_eq_emod_of_nonneg (by omega)
  have hmin : (position : Int) + 1 ≠ minInt := by unfold minInt; omega
  rw [lookup?] at hvar
  simp -implicitDefEqProofs [advance, h, hvar, hfit, hne, hmin, hrem]

theorem on_reset (hreset : p.Holds [onReset]) (members : Entries (Value R)) (depth : Nat) :
    caller p (depth + 1) "on_reset" [] (some (.map members)) =
      some (.ok .unit, some (.map (Entries.insert "position" (.int 0) members))) := by
  refine (hreset.caller_eq onReset List.mem_cons_self rfl _ _).trans ?_
  simp -implicitDefEqProofs [onReset]

section Setter

variable (hsetter : p.Holds [onSetConfig member key message])

include hsetter

theorem on_set_config_color [LawfulScalar R] (hp : HasRuntime p) {color : Entries (Json R)}
    (hc : IsTaggedRgb color c) (members : Entries (Value R)) (depth : Nat) :
    caller p (depth + 5) "on_set_config" [.str "color", .map (Value.ofJsonMembers color)]
        (some (.map members)) =
      some (.ok .unit, some (.map (Entries.insert "color" (rgbValue c) members))) := by
  refine (hsetter.caller_eq _ List.mem_cons_self rfl _ _).trans ?_
  simp -implicitDefEqProofs [onSetConfig, Logic.eval_setColor hp depth hc]

theorem on_set_config_count (hp : HasRuntime p) (hkey : key ≠ "color") (x : Value R)
    (members : Entries (Value R)) (depth : Nat) :
    caller p (depth + 2) "on_set_config" [.str key, x] (some (.map members)) =
      match Logic.countFrom message x with
      | .ok n => some (.ok .unit, some (.map (Entries.insert member n members)))
      | .error f => some (.fault f, some (.map members)) := by
  refine (hsetter.caller_eq _ List.mem_cons_self rfl _ _).trans ?_
  have hset := Logic.eval_setCount hp depth member message key x members
  cases hx : Logic.countFrom message x with
  | ok n =>
    rw [hx] at hset
    simp -implicitDefEqProofs [onSetConfig, hkey, hset]
  | error f =>
    rw [hx] at hset
    simp -implicitDefEqProofs [onSetConfig, hkey, hset]

theorem on_set_config_unknown {name : String} (hcolor : name ≠ "color") (hname : name ≠ key)
    (v : Value R) (members : Entries (Value R)) (depth : Nat) :
    caller p (depth + 1) "on_set_config" [.str name, v] (some (.map members)) =
      some (.ok .unit, some (.map members)) := by
  refine (hsetter.caller_eq _ List.mem_cons_self rfl _ _).trans ?_
  simp -implicitDefEqProofs [onSetConfig, hcolor, hname]

end Setter

theorem create_effect (hp : HasRuntime p) {color : Rgb} {default defaultSpeed : Nat}
    (hcreate : p.Holds [createEffect color member key default defaultSpeed])
    (hmember : member ≠ "color" ∧ member ≠ "position")
    {options : Entries (Value R)} {depth ledCount speed count : Nat}
    (hcolor : caller p (depth + 5) "config_color_or" [.map options, rgbValue color] none =
      some (.ok (rgbValue c), none))
    (hdefault : caller p (depth + 5) "config_or" [.map options, .str key, .int default] none =
      some (.ok (.int count), none))
    (hcount : caller p (depth + 4) "config_or" [.map options, .str "ledCount", .int 20] none =
      some (.ok (.int ledCount), none))
    (hspeed : caller p (depth + 4) "config_or" [.map options, .str "speed", .int defaultSpeed]
      none = some (.ok (.int speed), none)) :
    ∃ members, IsState member members c count 0 ∧
      caller p (depth + 6) "create_effect" [.map options] none =
        some (.ok (HasRuntime.described ledCount speed (.map members)), none) := by
  obtain ⟨hne, hne'⟩ := hmember
  let entries : List (String × Value R) :=
    [("color", rgbValue c), (member, .int count), ("position", .int 0)]
  have hentries : Entries.ofList entries = Entries.insert "position" (.int 0)
      (Entries.insert member (.int count) [("color", rgbValue c)]) := rfl
  refine ⟨Entries.ofList entries, ⟨?_, ?_, ?_⟩, ?_⟩
  · rw [hentries, Entries.get?_insert_of_ne (by decide), Entries.get?_insert_of_ne (Ne.symm hne)]
    rfl
  · rw [hentries, Entries.get?_insert_of_ne hne', Entries.get?_insert_self]
  · exact Entries.get?_insert_self _ _ _
  · refine (hcreate.caller_eq _ List.mem_cons_self rfl _ _).trans ?_
    simp -implicitDefEqProofs [createEffect, Logic.eval_rgbLiteral, hcolor, hdefault, hp.as_int,
      HasRuntime.whole, hp.create_base_machine (depth + 3) none hcount hspeed, entries]

end RunningLogic

/-! ### Chase -/

namespace ChaseLogic

open RunningLogic (IsState)

variable {R : Type} [Scalar R] {p : Program} {members : Entries (Value R)} {c : Rgb}
  {n count position : Nat}

/-- The variables of a tick while it paints. -/
abbrev tickVars (n count : Nat) (f : Frame) : List (Variable R) :=
  [⟨"gap", .int ((n : Int) / count), false⟩, ⟨"count", .int count, false⟩,
    ⟨"buf", .blob f.bytes, false⟩, ⟨"led_count", .int n, false⟩]

theorem eval_spot (call : Caller R) (h : Entries.get? "position" members = some (.int position))
    (hp : position < n) (hn : 3 * n < 2 ^ 63) {i : Nat} (hi : i < count) (f : Frame) :
    eval call spot ⟨⟨"i", .int i, false⟩ :: tickVars n count f, some (.map members)⟩ =
      (.ok (.int ((position + n / count * i) % n : Nat)),
        ⟨⟨"i", .int i, false⟩ :: tickVars n count f, some (.map members)⟩) := by
  have hle : n / count * i ≤ n := (Nat.mul_le_mul_left _ hi.le).trans (Nat.div_mul_le_self n count)
  have hcast : (n / count : Int) * i = (n / count * i : Nat) := by push_cast; rfl
  have hmul : isInt ((n / count : Int) * i) = true := isInt_of_nonneg (by omega) (by omega)
  have hadd : isInt ((position : Int) + n / count * i) = true :=
    isInt_of_nonneg (by omega) (by omega)
  have hne : n ≠ 0 := by omega
  have hmin : (position : Int) + n / count * i ≠ minInt := by unfold minInt; omega
  have hrem : ((position : Int) + n / count * i).tmod n = (position + n / count * i) % n :=
    Int.tmod_eq_emod_of_nonneg (by omega)
  simp -implicitDefEqProofs [spot, h, hmul, hadd, hne, hmin, hrem]

/-- Round after round, the loop paints point after point. -/
theorem eval_paintPoints (hp : HasRuntime p) (h : IsState "chase_count" members c count position)
    (hposition : position < n) (hn : 3 * n < 2 ^ 63) (depth : Nat) :
    eval (caller p (depth + 1)) paintPoints
        ⟨tickVars n count (Frame.blank n), some (.map members)⟩ =
      (.ok .unit, ⟨tickVars n count ((Frame.blank n).paint c (Chase.spots n count position)),
        some (.map members)⟩) := by
  let painted (k : Nat) : Frame :=
    (Frame.blank n).paint c ((List.range k).map fun i => (position + n / count * i) % n)
  refine eval_forLoop (n := count) (by simp -implicitDefEqProofs)
    (fun k => ⟨tickVars n count (painted k), some (.map members)⟩)
    rfl (fun k hk => ⟨.unit, ⟨"i", .int k, false⟩, ?_⟩) (fun _ => rfl)
  have hhas : (painted k).Has ((position + n / count * k) % n) :=
    (Frame.has_blank hn (Nat.mod_lt _ (by omega))).of_size (by simp [painted])
  have hnext : painted (k + 1) = (painted k).set ((position + n / count * k) % n) c := by
    simp only [painted, List.range_succ, List.map_append, List.map_cons, List.map_nil,
      Frame.paint_concat]
  have hspot := eval_spot (caller p (depth + 1)) h.position hposition hn hk (painted k)
  generalize (position + n / count * k) % n = led at hhas hnext hspot
  simp -implicitDefEqProofs [hspot, h.color, hp.paint_led depth hhas, hnext]

theorem on_tick (hp : HasRuntime p) (htick : p.Holds [onTick])
    (h : IsState "chase_count" members c count position) (hposition : position < n)
    (hcount : 1 ≤ count) (hn : 3 * n < 2 ^ 63) (depth : Nat) :
    caller p (depth + 2) "on_tick" [.int n] (some (.map members)) =
      some (.ok (.blob ((Frame.blank n).paint c (Chase.spots n count position)).bytes),
        some (.map (Entries.insert "position" (.int ((position + 1) % n : Nat)) members))) := by
  refine (htick.caller_eq _ List.mem_cons_self rfl _ _).trans ?_
  have hnot : ¬ (count : Int) < 1 := by omega
  have hne : count ≠ 0 := by omega
  have hdiv : (n : Int).tdiv count = n / count := Int.tdiv_eq_ediv_of_nonneg (by omega)
  have hle : (n : Int) / count ≤ n := Int.ediv_le_self _ (by omega)
  have hge : 0 ≤ (n : Int) / count := Int.ediv_nonneg (by omega) (by omega)
  have hfit : isInt ((n : Int) / count) = true := isInt_of_nonneg hge (by omega)
  have hblank := hp.make_blank (R := R) depth none hn
  have hpaint := eval_paintPoints hp h hposition hn depth
  have hadvance := RunningLogic.eval_advance (caller p (depth + 1)) h.position hposition hn
    (tickVars n count ((Frame.blank n).paint c (Chase.spots n count position))) rfl
  simp -implicitDefEqProofs [onTick, h.count, hnot, hblank, hne, hdiv, hfit, hpaint, hadvance]

end ChaseLogic

/-! ### Wave -/

namespace WaveLogic

open RunningLogic (IsState)

variable {R : Type} [Scalar R] {p : Program} {members : Entries (Value R)} {c : Rgb}
  {n width position : Nat}

/-- The variables of a tick while it paints. -/
abbrev tickVars (n : Nat) (f : Frame) : List (Variable R) :=
  [⟨"buf", .blob f.bytes, false⟩, ⟨"led_count", .int n, false⟩]

theorem eval_spot (call : Caller R) (h : Entries.get? "position" members = some (.int position))
    (hp : position < n) (hn : 3 * n < 2 ^ 63) {i : Nat} (hi : i < 2 ^ 62) (f : Frame) :
    eval call spot ⟨⟨"i", .int i, false⟩ :: tickVars n f, some (.map members)⟩ =
      (.ok (.int ((position + i) % n : Nat)),
        ⟨⟨"i", .int i, false⟩ :: tickVars n f, some (.map members)⟩) := by
  have hadd : isInt ((position : Int) + i) = true := isInt_of_nonneg (by omega) (by omega)
  have hne : n ≠ 0 := by omega
  have hmin : (position : Int) + i ≠ minInt := by unfold minInt; omega
  have hrem : ((position : Int) + i).tmod n = (position + i) % n :=
    Int.tmod_eq_emod_of_nonneg (by omega)
  simp -implicitDefEqProofs [spot, h, hadd, hne, hmin, hrem]

/-- Round after round, the loop paints LED after LED. -/
theorem eval_paintBand (hp : HasRuntime p) (h : IsState "wave_width" members c width position)
    (hposition : position < n) (hwidth : width ≤ 2 ^ 62) (hn : 3 * n < 2 ^ 63) (depth : Nat) :
    eval (caller p (depth + 1)) paintBand ⟨tickVars n (Frame.blank n), some (.map members)⟩ =
      (.ok .unit, ⟨tickVars n ((Frame.blank n).paint c (Wave.band n width position)),
        some (.map members)⟩) := by
  let painted (k : Nat) : Frame := (Frame.blank n).paint c (Wave.band n k position)
  refine eval_forLoop (n := width) (by simp -implicitDefEqProofs [h.count])
    (fun k => ⟨tickVars n (painted k), some (.map members)⟩)
    rfl (fun k hk => ⟨.unit, ⟨"i", .int k, false⟩, ?_⟩) (fun _ => rfl)
  have hhas : (painted k).Has ((position + k) % n) :=
    (Frame.has_blank hn (Nat.mod_lt _ (by omega))).of_size (by simp [painted])
  have hnext : painted (k + 1) = (painted k).set ((position + k) % n) c := by
    simp only [painted, Wave.band, List.range_succ, List.map_append, List.map_cons, List.map_nil,
      Frame.paint_concat]
  have hspot := eval_spot (caller p (depth + 1)) h.position hposition hn (by omega : k < 2 ^ 62)
    (painted k)
  generalize (position + k) % n = led at hhas hnext hspot
  simp -implicitDefEqProofs [hspot, h.color, hp.paint_led depth hhas, hnext]

theorem on_tick (hp : HasRuntime p) (htick : p.Holds [onTick])
    (h : IsState "wave_width" members c width position) (hposition : position < n)
    (hwidth : width ≤ 2 ^ 62) (hn : 3 * n < 2 ^ 63) (depth : Nat) :
    caller p (depth + 2) "on_tick" [.int n] (some (.map members)) =
      some (.ok (.blob ((Frame.blank n).paint c (Wave.band n width position)).bytes),
        some (.map (Entries.insert "position" (.int ((position + 1) % n : Nat)) members))) := by
  refine (htick.caller_eq _ List.mem_cons_self rfl _ _).trans ?_
  have hblank := hp.make_blank (R := R) depth none hn
  have hpaint := eval_paintBand hp h hposition hwidth hn depth
  have hadvance := RunningLogic.eval_advance (caller p (depth + 1)) h.position hposition hn
    (tickVars n ((Frame.blank n).paint c (Wave.band n width position))) rfl
  simp -implicitDefEqProofs [onTick, hblank, hpaint, hadvance]

end WaveLogic

/-! ### The programs of the effects -/

instance (p : Program) (fs : List Function) : Decidable (p.Holds fs) :=
  inferInstanceAs (Decidable (∀ f ∈ fs, p.function? f.name f.params.length = some f))

theorem hasRuntime_blink : HasRuntime (withRuntime blinkLogic) where
  shared := by decide +kernel
  library := by decide +kernel

theorem hasRuntime_chase : HasRuntime (withRuntime chaseLogic) where
  shared := by decide +kernel
  library := by decide +kernel

theorem hasRuntime_wave : HasRuntime (withRuntime waveLogic) where
  shared := by decide +kernel
  library := by decide +kernel

theorem holds_blink : (withRuntime blinkLogic).Holds blinkLogic.functions := by decide +kernel

theorem holds_chase : (withRuntime chaseLogic).Holds chaseLogic.functions := by decide +kernel

theorem holds_wave : (withRuntime waveLogic).Holds waveLogic.functions := by decide +kernel

end Bundled
end LedStrip
