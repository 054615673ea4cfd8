import LedStrip.Proofs.Number.Lawful
import LedStrip.Proofs.Session.Speed

/-!
# Steps of the interval

A step of the interval is taken from the interval of the machine, brought into the range of the panel
and sent through the path of any other edit.  Numbers may be rounded here (`LawfulSteps`).  An
interval that a session can come to have is one that the scalars hold, or one so large that a step
leads beyond any range (`IsInterval`); so the step is exact (`SpeedRange.clamp_add`), and all is as
it should be where it leads to a millisecond or more (`nudge_goes_to_range`).  A step to zero, which
a range may begin with, is refused, although any other request below a millisecond is raised to one.
-/

namespace LedStrip

open Scalar

variable {R : Type} [Scalar R]

/-- An interval that a machine can come to have: one that the scalars hold, or a huge one. -/
def IsInterval (R : Type) [Scalar R] (n : Nat) : Prop :=
  toRat? (ofNat n : R) = some (n : Rat) ∨ (2 ^ 63 ≤ n ∧ n < 2 ^ 64)

section Intervals

variable [LawfulSteps R]

theorem isInterval_of_le {n : Nat} (h : n ≤ 2 ^ 53) : IsInterval R n :=
  .inl (countsTo_of_le le_rfl n h)

theorem IsInterval.max_one {n : Nat} (h : IsInterval R n) : IsInterval R (max n 1) := by
  rcases Nat.eq_zero_or_pos n with rfl | hpos
  · exact isInterval_of_le (by norm_num)
  · rwa [Nat.max_eq_left hpos]

/-- A scalar that is rounded to a word is an interval. -/
theorem isInterval_toWord_round (x : R) : IsInterval R (toWord (Scalar.round x)) := by
  cases hx : toRat? x with
  | none =>
    -- what has no value goes to one of the two ends
    have hround : Scalar.round x = x := by simp only [Scalar.round, mapExact, hx]
    have hends : toWord (Scalar.round x) = 0 ∨ toWord (Scalar.round x) = 2 ^ 64 - 1 := by
      rw [hround]
      simp only [toWord, toNatIn, toIntIn, hx]
      split
      · exact .inl rfl
      · split
        · exact .inl rfl
        · exact .inr rfl
    rcases hends with hzero | hlast
    · rw [hzero]
      exact isInterval_of_le (by norm_num)
    · rw [hlast]
      exact .inr (by norm_num)
  | some q =>
    have hround := toRat?_round hx
    rw [toWord_of_toRat? hround]
    have hheld := LawfulSteps.toRat?_roundHalfAway hx
    generalize roundHalfAway q = k at hheld
    rcases lt_or_ge k 0 with hneg | hpos
    · rw [show (max 0 (min (2 ^ 64 - 1) k)).toNat = 0 by omega]
      exact isInterval_of_le (by norm_num)
    · obtain ⟨n, rfl⟩ := Int.eq_ofNat_of_zero_le hpos
      rcases Nat.lt_or_ge n (2 ^ 64) with hword | hbeyond
      · rw [show (max 0 (min (2 ^ 64 - 1) (n : Int))).toNat = n by omega]
        exact .inl (by rw [ofNat, hheld, Int.cast_natCast])
      · rw [show (max 0 (min (2 ^ 64 - 1) (n : Int))).toNat = 2 ^ 64 - 1 by omega]
        exact .inr (by norm_num)

/-- A step from an interval is exact, or leads beyond 53 digits as it should. -/
theorem IsInterval.add_ofInt {n : Nat} (h : IsInterval R n) {ms : Int} (hms : |ms| ≤ 2 ^ 53) :
    toRat? (ofNat n + ofInt ms : R) = some ((n + ms : Int) : Rat) ∨
      (2 ^ 53 ≤ n + ms ∧ ∃ q, toRat? (ofNat n + ofInt ms : R) = some q ∧ 2 ^ 53 ≤ q) := by
  have hbounds := abs_le.mp hms
  rcases h with hheld | ⟨hhuge, hword⟩
  · have hint : toRat? (ofNat n : R) = some (((n : Int)) : Rat) := by exact_mod_cast hheld
    by_cases hsmall : |(n : Int) + ms| ≤ 2 ^ 53
    · exact .inl (LawfulSteps.toRat?_add_ofInt hint hms hsmall)
    · have hbeyond : (2 : Int) ^ 53 ≤ n + ms := by
        rcases abs_cases ((n : Int) + ms) with ⟨habs, -⟩ | ⟨habs, -⟩ <;> omega
      exact .inr ⟨hbeyond, LawfulSteps.le_add_ofInt hheld hms (by exact_mod_cast hbeyond)⟩
  · obtain ⟨p, hp⟩ := LawfulScalar.finite_ofInt (R := R) (n := n) (by
      rw [abs_of_nonneg (Int.natCast_nonneg n)]
      omega)
    have hpow : toRat? (ofInt (2 ^ 63) : R) = some (2 ^ 63) :=
      LawfulScalar.toRat?_ofInt_two_pow (by norm_num)
    have hle : (2 : Rat) ^ 63 ≤ p := LawfulScalar.ofInt_mono (by exact_mod_cast hhuge) hpow hp
    have hms' : -(2 ^ 53 : Rat) ≤ ms := by exact_mod_cast hbounds.1
    exact .inr ⟨by omega, LawfulSteps.le_add_ofInt hp hms (by linarith)⟩

end Intervals

namespace SpeedRange

/-- Where a step of some milliseconds leads: within the range, to the nearer end at most. -/
def stepped (r : SpeedRange) (n : Nat) (ms : Int) : Nat :=
  (Max.max (r.lo : Int) (Min.min r.hi (n + ms))).toNat

variable [LawfulSteps R] {r : SpeedRange}

theorem lo_le_hi (r : SpeedRange) : r.lo ≤ r.hi := by
  unfold lo hi
  omega

/-- A range rounds to the nearest millisecond and goes to the nearer end, up to 53 digits. -/
theorem clamp_of_toRat? (h : r.hi ≤ 2 ^ 53) {x : R} {q : Rat} (hx : toRat? x = some q) :
    r.clamp x = (Max.max (r.lo : Int) (Min.min r.hi (roundHalfAway q))).toNat := by
  have hle := r.lo_le_hi
  have hlo : toRat? (ofNat r.lo : R) = some ((r.lo : Int) : Rat) := by
    exact_mod_cast countsTo_of_le (R := R) le_rfl r.lo (by omega)
  have hhi : toRat? (ofNat r.hi : R) = some ((r.hi : Int) : Rat) := by
    exact_mod_cast countsTo_of_le (R := R) le_rfl r.hi h
  have hround := toRat?_round hx
  generalize roundHalfAway q = k at hround ⊢
  -- the comparisons of the scalars are those of the integers
  have hbelow : Scalar.round x < ofNat r.lo ↔ k < r.lo := by
    rw [LawfulScalar.lt_iff hround hlo, Int.cast_lt]
  have habove : ofNat r.hi < Scalar.round x ↔ (r.hi : Int) < k := by
    rw [LawfulScalar.lt_iff hhi hround, Int.cast_lt]
  have hclamp : r.clamp x = toWord (Scalar.clamp (ofNat r.lo) (ofNat r.hi) (Scalar.round x)) := by
    unfold clamp
    rw [show Nat.min r.min r.max = r.lo from rfl,
      show Nat.max r.max r.min = r.hi from Nat.max_comm _ _]
  rw [hclamp, Scalar.clamp]
  split
  · next hlt =>
    have := hbelow.mp hlt
    rw [toWord_of_toRat? hlo]
    omega
  · next hge =>
    have := mt hbelow.mpr hge
    split
    · next hlt =>
      have := habove.mp hlt
      rw [toWord_of_toRat? hhi]
      omega
    · next hle' =>
      have := mt habove.mpr hle'
      rw [toWord_of_toRat? hround]
      omega

/-- **A step from an interval is a step of integers.** -/
theorem clamp_add (h : r.hi ≤ 2 ^ 53) {n : Nat} (hn : IsInterval R n) {ms : Int}
    (hms : |ms| ≤ 2 ^ 53) : r.clamp (ofNat n + ofInt ms : R) = r.stepped n ms := by
  unfold stepped
  rcases hn.add_ofInt hms with hexact | ⟨hbeyond, q, hq, hle⟩
  · rw [clamp_of_toRat? h hexact, roundHalfAway_ofInt]
  · have hround : ((2 ^ 53 : Nat) : Int) ≤ roundHalfAway q := le_roundHalfAway (by exact_mod_cast hle)
    rw [clamp_of_toRat? h hq]
    omega

omit [Scalar R] [LawfulSteps R] in
theorem stepped_bounds (r : SpeedRange) (n : Nat) (ms : Int) :
    r.lo ≤ r.stepped n ms ∧ r.stepped n ms ≤ r.hi := by
  have hle := r.lo_le_hi
  unfold stepped
  omega

/-- Within the range nothing is left to be done. -/
theorem clamp_ofNat (h : r.hi ≤ 2 ^ 53) {n : Nat} (hlo : r.lo ≤ n) (hhi : n ≤ r.hi) :
    r.clamp (ofNat n : R) = n := by
  have hvalue : toRat? (ofNat n : R) = some ((n : Int) : Rat) := by
    exact_mod_cast countsTo_of_le (R := R) le_rfl n (by omega)
  rw [clamp_of_toRat? h hvalue, roundHalfAway_ofInt]
  omega

end SpeedRange

/-- An interval that is written back where it was asked for is the one in the state. -/
theorem PanelState.effectValue?_withInterval_self (s : PanelState R) (n : Nat) :
    ((s.withEffectValue "speed" (.ofNat n)).withInterval n).effectValue? "speed" =
      some (.ofNat n) := by
  unfold withInterval
  split
  · exact effectValue?_withEffectValue_self s "speed" (.ofNat n)
  · exact effectValue?_withEffectValue_self _ "speed" (.ofNat n)

/-! ### Requests -/

namespace Bridge

section Requests

variable [LawfulScalar R] {v : Json R} {x : R} {q : Rat} (hv : v.asNumber? = some x)
  (hx : toRat? x = some q)

include hv hx

/-- A positive number is an interval to ask for. -/
theorem requestedInterval_of_pos (hq : 0 < q) : requestedInterval v = .ok x := by
  have hfinite : isFinite x = true := by
    rw [isFinite, hx]
    rfl
  have hlarge : ¬ x ≤ ofInt 0 := by
    rw [LawfulScalar.le_iff hx toRat?_zero]
    exact not_le.mpr hq
  rw [requestedInterval, finiteNumber_of_toRat? hv hx]
  show positiveInterval x = .ok x
  simp [positiveInterval, hfinite, hlarge]

/-- Any other number is none. -/
theorem requestedInterval_of_nonpos (hq : q ≤ 0) :
    requestedInterval v =
      .error (.invalidValue "speed" (Scalar.text .plain x ++ " is not a positive interval")) := by
  have hsmall : x ≤ ofInt 0 := (LawfulScalar.le_iff hx toRat?_zero).mpr hq
  rw [requestedInterval, finiteNumber_of_toRat? hv hx]
  show positiveInterval x = _
  simp [positiveInterval, hsmall]

end Requests

/-- An interval that can be asked for has a value. -/
theorem toRat?_of_requestedInterval {v : Json R} {ms : R} (h : requestedInterval v = .ok ms) :
    ∃ q, toRat? ms = some q := by
  unfold requestedInterval at h
  cases hx : finiteNumber (R := R) "speed" v with
  | error e =>
    rw [hx] at h
    cases h
  | ok x =>
    rw [hx] at h
    have htaken : positiveInterval x = .ok ms := h
    obtain rfl := positiveInterval_eq_ok htaken
    unfold positiveInterval at htaken
    split at htaken
    · cases htaken
    · next hno =>
      have hfinite : isFinite ms = true := by simp_all
      exact Option.isSome_iff_exists.mp hfinite

end Bridge

/-! ### Sessions -/

section Machines

variable [LawfulSteps R]

/-- A new machine of a builtin starts at an interval. -/
theorem Builtin.isInterval_of_create {f : Factory R (Builtin R)} (hf : f ∈ factories)
    {state : PanelState R} {options : SessionOptions R} {m : Machine R (Builtin R)}
    (h : f.create (Session.machineOptions state options) = .ok m) : IsInterval R m.speed := by
  obtain ⟨defaultSpeed, effect, ⟨-, hdefault⟩, rfl⟩ := eq_create_of_create hf h
  refine IsInterval.max_one ?_
  unfold EffectOptions.speedOr
  cases hspeed : (Session.machineOptions state options).speed?.filter (0 < ·) with
  | none => exact isInterval_of_le (by simp only [Option.getD_none]; omega)
  | some n =>
    obtain ⟨hn, -⟩ := Option.filter_eq_some_iff.mp hspeed
    obtain ⟨x, -, rfl⟩ := Option.map_eq_some_iff.mp hn
    exact isInterval_toWord_round x

end Machines

namespace Session

variable {σ : Type} [LawfulSteps R] [Effect R σ] {s : Session R σ}

/-- Whatever is done, the interval of the machine stays one. -/
theorem IsDeclarative.isInterval_step (h : s.IsDeclarative) (hrange : s.range.hi ≤ 2 ^ 53)
    (hs : IsInterval R s.speed) (op : Op R) : IsInterval R (s.step op).speed := by
  rcases h.step_interval op with ⟨-, ms, v, -, hv, hspeed, -⟩ | ⟨-, hspeed, -⟩
  · obtain ⟨q, hq⟩ := Bridge.toRat?_of_requestedInterval hv
    rw [hspeed]
    refine IsInterval.max_one (isInterval_of_le ?_)
    have hle := s.range.lo_le_hi
    rw [SpeedRange.clamp_of_toRat? hrange hq]
    omega
  · rw [hspeed]
    exact hs

theorem IsDeclarative.isInterval_run (h : s.IsDeclarative) (hrange : s.range.hi ≤ 2 ^ 53)
    (hs : IsInterval R s.speed) (ops : List (Op R)) : IsInterval R (s.run ops).speed := by
  induction ops generalizing s with
  | nil => exact hs
  | cons op ops ih =>
    have hkept : (s.step op).range = s.range := (h.step_setup op).2.2.1
    exact ih (h.step op) (by rw [hkept]; exact hrange) (h.isInterval_step hrange hs op)

/-- The state shows the interval of the machine as the whole number that it is. -/
def InStep (s : Session R σ) : Prop := s.state.effectValue? "speed" = some (.ofNat s.speed)

omit [LawfulSteps R] in
/-- An interval that can be asked for is brought into the range and written back. -/
theorem IsDeclarative.edit_speed_taken (h : s.IsDeclarative) {v : Json R} {ms : R}
    (hv : Bridge.requestedInterval v = .ok ms) :
    ∃ t, s.edit "/effect/speed" v = (.ok (.speed ms), t) ∧
      t.speed = max (s.range.clamp ms) 1 ∧
      t.state = (s.state.withEffectValue "speed" v).withInterval t.speed := by
  have hkey : Bridge.keyOf? "/effect/speed" = some "speed" := rfl
  obtain ⟨answer, state, scheduler, shown, hto, hedit⟩ := h.edit_eq "/effect/speed" v
  rw [hedit]
  cases hto with
  | ignored hno => cases hkey.symm.trans hno
  | refused _ hv' => cases hv.symm.trans hv'
  | @speed ms' _ hv' =>
    obtain rfl : ms = ms' := Except.ok.inj (hv.symm.trans hv')
    exact ⟨_, rfl, Scheduler.speed_setSpeed _ _, rfl⟩
  | color hpath hne _ _ _ | config hpath hne _ _ _ =>
    exact absurd (Option.some.inj (hkey.symm.trans hpath)).symm hne

omit [LawfulSteps R] in
/-- What is no interval is in the state all the same. -/
theorem IsDeclarative.edit_speed_refused (h : s.IsDeclarative) {v : Json R} {e : EffectError}
    (hv : Bridge.requestedInterval v = .error e) :
    ∃ t, s.edit "/effect/speed" v = (.error (.effect e), t) ∧ t.speed = s.speed ∧
      t.state = s.state.withEffectValue "speed" v := by
  have hkey : Bridge.keyOf? "/effect/speed" = some "speed" := rfl
  obtain ⟨answer, state, scheduler, shown, hto, hedit⟩ := h.edit_eq "/effect/speed" v
  rw [hedit]
  cases hto with
  | ignored hno => cases hkey.symm.trans hno
  | @refused e' _ hv' =>
    obtain rfl : e = e' := Except.error.inj (hv.symm.trans hv')
    exact ⟨_, rfl, rfl, rfl⟩
  | speed _ hv' => cases hv.symm.trans hv'
  | color hpath hne _ _ _ | config hpath hne _ _ _ =>
    exact absurd (Option.some.inj (hkey.symm.trans hpath)).symm hne

section OneNudge

variable (h : s.IsDeclarative) (hrange : s.range.hi ≤ 2 ^ 53) (hs : IsInterval R s.speed) {ms : Int}
  (hms : |ms| ≤ 2 ^ 53)

include h hrange hs hms

/-- A step to a millisecond or more is taken. -/
theorem IsDeclarative.nudge_taken (hpos : 1 ≤ s.range.stepped s.speed ms) :
    ∃ t, s.nudgeSpeed ms = (.ok (.speed (ofNat (s.range.stepped s.speed ms))), t) ∧
      t.speed = s.range.stepped s.speed ms ∧ t.InStep := by
  unfold nudgeSpeed
  rw [SpeedRange.clamp_add hrange hs hms]
  obtain ⟨hlo, hhi⟩ := s.range.stepped_bounds s.speed ms
  generalize s.range.stepped s.speed ms = next at hpos hlo hhi ⊢
  have hrequest := Bridge.requestedInterval_of_pos (v := .ofNat next) (x := (ofNat next : R)) rfl
    (countsTo_of_le le_rfl next (Nat.le_trans hhi hrange)) (by exact_mod_cast hpos)
  obtain ⟨t, hedit, hspeed, hstate⟩ := h.edit_speed_taken hrequest
  rw [SpeedRange.clamp_ofNat hrange hlo hhi, Nat.max_eq_left hpos] at hspeed
  refine ⟨t, hedit, hspeed, ?_⟩
  rw [InStep, hstate, hspeed]
  exact PanelState.effectValue?_withInterval_self s.state next

/-- A step to zero is refused, and the state shows the zero. -/
theorem IsDeclarative.nudge_refused (hzero : s.range.stepped s.speed ms = 0) :
    ∃ t, s.nudgeSpeed ms = (.error (.effect (.invalidValue "speed"
        (Scalar.text .plain (ofNat 0 : R) ++ " is not a positive interval"))), t) ∧
      t.speed = s.speed ∧ t.state.effectValue? "speed" = some (.ofNat 0) := by
  unfold nudgeSpeed
  rw [SpeedRange.clamp_add hrange hs hms, hzero]
  have hrequest := Bridge.requestedInterval_of_nonpos (v := .ofNat 0) (x := (ofNat 0 : R)) rfl
    toRat?_zero le_rfl
  obtain ⟨t, hedit, hspeed, hstate⟩ := h.edit_speed_refused hrequest
  refine ⟨t, hedit, hspeed, ?_⟩
  rw [hstate]
  exact PanelState.effectValue?_withEffectValue_self s.state "speed" (.ofNat 0)

end OneNudge

/-- **A step of the interval goes to the range**, as a step of whole numbers that stops at its ends,
in a session with a panel that is data or with none that has been through anything.  Where it leads
to a millisecond or more, the machine takes the new interval and the state shows it.  Where it leads
to zero, which is possible only at the lower end, it is refused: the machine keeps its interval, and
the state shows the zero. -/
theorem nudge_goes_to_range {f : Factory R (Builtin R)} (hf : f ∈ Builtin.factories)
    {spec? : Option (PanelSpec R)} {options : SessionOptions R} {s₀ : Session R (Builtin R)}
    (hs : create f (spec?.map .spec) options = .ok s₀) (hrange : s₀.range.hi ≤ 2 ^ 53)
    (ops : List (Op R)) {ms : Int} (hms : |ms| ≤ 2 ^ 53) :
    let s := s₀.run ops
    let next := s₀.range.stepped s.speed ms
    (1 ≤ next → ∃ t, s.nudgeSpeed ms = (.ok (.speed (ofNat next)), t) ∧ t.speed = next ∧ t.InStep) ∧
    (next = 0 → ∃ t, s.nudgeSpeed ms = (.error (.effect (.invalidValue "speed"
        (Scalar.text .plain (ofNat 0 : R) ++ " is not a positive interval"))), t) ∧
      t.speed = s.speed ∧ t.state.effectValue? "speed" = some (.ofNat 0)) := by
  intro s next
  have hcreated := created_of_create hs
  obtain ⟨m, hm, hscheduler⟩ := hcreated.machine_eq
  have hstart : IsInterval R s₀.speed := by
    show IsInterval R s₀.scheduler.machine.speed
    rw [hscheduler]
    exact Builtin.isInterval_of_create hf hm
  obtain ⟨hrun, -, hkept, -⟩ := hcreated.isDeclarative.run_setup ops
  have hinterval := hcreated.isDeclarative.isInterval_run hrange hstart ops
  rw [← hkept] at hrange
  have hnext : next = (s₀.run ops).range.stepped s.speed ms := by rw [hkept]
  rw [hnext]
  exact ⟨hrun.nudge_taken hrange hinterval hms, hrun.nudge_refused hrange hinterval hms⟩

/-- A panel whose range begins at zero. -/
def floorlessPanel : PanelSpec Rat where
  root := "main"
  elements := [("main", { component := "Text", props := [("text", .str "Down")] })]
  state := .obj [("effect", .obj [("speed", .int 50)])]
  speed := some ⟨0, 100, 50⟩

theorem exists_floorless :
    ∃ s : Session Rat (Builtin Rat),
      create Builtin.chaseFactory (some (.spec floorlessPanel)) {} = .ok s ∧ s.IsDeclarative ∧
        s.speed = 50 ∧ s.range = ⟨0, 100, 50⟩ := by
  obtain ⟨s, hs, hspeed, hrange⟩ : ∃ s : Session Rat (Builtin Rat),
      create Builtin.chaseFactory (some (.spec floorlessPanel)) {} = .ok s ∧ s.speed = 50 ∧
        s.range = ⟨0, 100, 50⟩ := ⟨_, rfl, rfl, rfl⟩
  have hcreated : Created Builtin.chaseFactory ((some floorlessPanel).map .spec) {} s :=
    created_of_create hs
  exact ⟨s, hs, hcreated.isDeclarative, hspeed, hrange⟩

/-- A step of minus forty milliseconds leads from fifty to ten. -/
theorem floorless_steps_to_ten :
    ∃ s t : Session Rat (Builtin Rat),
      create Builtin.chaseFactory (some (.spec floorlessPanel)) {} = .ok s ∧
        s.nudgeSpeed (-40) = (.ok (.speed 10), t) ∧ t.speed = 10 ∧ t.InStep := by
  obtain ⟨s, hs, -, hspeed, hrange⟩ := exists_floorless
  obtain ⟨htaken, -⟩ := @nudge_goes_to_range Rat _ _ Builtin.chaseFactory
    (by simp [Builtin.factories]) (some floorlessPanel) {} s hs (by rw [hrange]; decide) [] (-40)
    (by norm_num)
  have hnext : s.range.stepped (s.run []).speed (-40) = 10 := by
    rw [show s.run [] = s from rfl, hspeed, hrange]
    rfl
  rw [hnext] at htaken
  obtain ⟨t, hnudge, hten, hstep⟩ := htaken (by decide)
  exact ⟨s, t, hs, hnudge, hten, hstep⟩

/-- A step to the lower end of the range is refused, and the panel shows an interval that the machine
does not have; an edit that asks for less than a millisecond is raised to one. -/
theorem floorless_end_is_refused :
    ∃ s t u : Session Rat (Builtin Rat),
      create Builtin.chaseFactory (some (.spec floorlessPanel)) {} = .ok s ∧
      s.nudgeSpeed (-1000) =
        (.error (.effect (.invalidValue "speed" "0 is not a positive interval")), t) ∧
      t.speed = 50 ∧ t.state.effectValue? "speed" = some (.int 0) ∧
      s.edit "/effect/speed" (.float (2 / 5)) = (.ok (.speed (2 / 5)), u) ∧ u.speed = 1 := by
  obtain ⟨s, hs, hdeclarative, hspeed, hrange⟩ := exists_floorless
  have hinterval : IsInterval Rat s.speed := .inl rfl
  have hzero : s.range.stepped s.speed (-1000) = 0 := by
    rw [hspeed, hrange]
    rfl
  obtain ⟨t, hnudge, hkept, hshown⟩ := hdeclarative.nudge_refused (by rw [hrange]; decide) hinterval
    (by norm_num) hzero
  have hrequest : Bridge.requestedInterval (Json.float (2 / 5) : Json Rat) = .ok (2 / 5) :=
    Bridge.requestedInterval_of_pos rfl rfl (by norm_num)
  obtain ⟨u, hedit, hraised, -⟩ := hdeclarative.edit_speed_taken hrequest
  have hclamp : (s.range.clamp (2 / 5 : Rat)) = 0 := by
    rw [hrange]
    decide +kernel
  rw [hclamp] at hraised
  exact ⟨s, t, u, hs, hnudge, hkept.trans hspeed, hshown, hedit, hraised⟩

end Session

end LedStrip
