import LedStrip.Proofs.Effect.Lifecycle
import LedStrip.Proofs.Number.Rational
import LedStrip.Proofs.Session.Runs

/-!
# The interval of a session

The interval is kept twice: by the machine, which ticks by it, and by the state, which shows it.
Only an edit of the key `speed` that is taken sets the interval of the machine, to what the range
of the panel makes of it, and then the state shows that very number until the key is edited again
(`interval_follows_edits`).  Numbers are exact here.
-/

namespace LedStrip

namespace SpeedRange

/-- The smaller end. -/
def lo (r : SpeedRange) : Nat := Min.min r.min r.max

/-- The larger end. -/
def hi (r : SpeedRange) : Nat := Max.max r.min r.max

/-- A range rounds to the nearest millisecond and goes to the nearer end. -/
theorem clamp_eq {r : SpeedRange} (h : r.hi < 2 ^ 64) (q : Rat) :
    r.clamp q = (Max.max (r.lo : Int) (Min.min r.hi (roundHalfAway q))).toNat := by
  have hle : r.lo ≤ r.hi := by unfold lo hi; omega
  have hlo : Nat.min r.min r.max = r.lo := rfl
  have hhi : Nat.max r.max r.min = r.hi := Nat.max_comm _ _
  unfold clamp
  rw [hlo, hhi, Scalar.round_rat, Scalar.ofNat_rat, Scalar.ofNat_rat,
    Scalar.clamp_intCast (by omega), Scalar.toWord_intCast]
  omega

theorem clamp_bounds {r : SpeedRange} (h : r.hi < 2 ^ 64) (q : Rat) :
    r.lo ≤ r.clamp q ∧ r.clamp q ≤ r.hi := by
  have hle : r.lo ≤ r.hi := by unfold lo hi; omega
  rw [clamp_eq h]
  omega

end SpeedRange

/-- Where the interval of the machine was written back, the state shows it. -/
theorem PanelState.effectNumber?_withInterval (s : PanelState Rat) (ms : Nat) :
    (s.withInterval ms).effectNumber? "speed" = some (ms : Rat) := by
  unfold withInterval
  split
  · next h =>
    cases hx : s.effectNumber? "speed" with
    | none => simp [hx] at h
    | some x =>
      have hms : x = Scalar.ofNat ms := by simpa [hx] using h
      rw [hms, Scalar.ofNat_rat, Int.cast_natCast]
  · rw [effectNumber?_withEffectValue_self]
    show some (((ms : Int) : Rat)) = some (ms : Rat)
    rw [Int.cast_natCast]

/-! ### Intervals of machines -/

theorem Scheduler.speed_setSpeed {R σ : Type} (s : Scheduler R σ) (ms : Nat) :
    (s.setSpeed ms).speed = max ms 1 := by
  unfold setSpeed
  dsimp only
  split <;> rfl

theorem Scheduler.speed_setConfig_of_ne {R σ : Type} [Scalar R] [Effect R σ] (s : Scheduler R σ)
    {key : String} (h : key ≠ "speed") (v : Json R) : (s.setConfig key v).2.speed = s.speed := by
  show (s.setConfig key v).2.machine.speed = s.machine.speed
  rw [machine_setConfig, Machine.setConfig_of_ne _ h]

/-- A machine starts at the interval that is asked for. -/
theorem Builtin.speed_of_create {R : Type} [Scalar R] {f : Factory R (Builtin R)}
    (hf : f ∈ factories) {o : EffectOptions R} {m : Machine R (Builtin R)}
    (h : f.create o = .ok m) {n : Nat} (hn : 1 ≤ n) (ho : o.speed? = some n) : m.speed = n := by
  obtain ⟨defaultSpeed, effect, -, rfl⟩ := eq_create_of_create hf h
  have hspeed : o.speedOr defaultSpeed = n := by
    simp [EffectOptions.speedOr, ho, Option.filter, show 0 < n by omega]
  show max (o.speedOr defaultSpeed) 1 = n
  omega

namespace Session

/-- A panel that shows a whole number of milliseconds asks for that interval. -/
theorem speed?_machineOptions {state : PanelState Rat} {n : Nat} (hn : 1 ≤ n) (hn' : n < 2 ^ 64)
    (h : state.effectNumber? "speed" = some (n : Rat)) (options : SessionOptions Rat) :
    (machineOptions state options).speed? = some n := by
  have hone : (Scalar.ofNat 1 : Rat) ≤ (n : Rat) := by
    rw [Scalar.ofNat_rat]
    exact_mod_cast hn
  have hround : Scalar.toWord (Scalar.round (n : Rat)) = n := by
    have hn : roundHalfAway (n : Rat) = n := roundHalfAway_ofInt n
    rw [Scalar.round_rat, hn, Scalar.toWord_intCast]
    omega
  simp only [machineOptions, h, Option.filter, hone, decide_true, if_true, Option.map_some, hround]

variable {σ : Type} [Effect Rat σ]

/-! ### One operation -/

/-- The state shows the interval of the machine. -/
def ShowsInterval (s : Session Rat σ) : Prop :=
  s.state.effectNumber? "speed" = some (s.speed : Rat)

/-- **What an operation does to the interval.**  An edit of `speed` that is taken sets it to what
the range makes of the request, and the state holds what is then written back; anything else leaves
it alone, and what the panel shows changes only with the key. -/
theorem IsDeclarative.step_interval {R σ : Type} [Scalar R] [Effect R σ] {s : Session R σ}
    (h : s.IsDeclarative) (op : Op R) :
    (s.key? op = some "speed" ∧ ∃ ms v, s.answer? op = some (.ok (.speed ms)) ∧
      Bridge.requestedInterval v = .ok ms ∧ (s.step op).speed = max (s.range.clamp ms) 1 ∧
      (s.step op).state = (s.state.withEffectValue "speed" v).withInterval (s.step op).speed) ∨
    ((∀ ms, s.answer? op ≠ some (.ok (.speed ms))) ∧ (s.step op).speed = s.speed ∧
      (s.key? op ≠ some "speed" →
        (s.step op).state.effectNumber? "speed" = s.state.effectNumber? "speed")) := by
  cases he : s.edit? op with
  | none =>
    obtain ⟨hanswer, scheduler, hcontrol, hstep⟩ := step_of_no_edit he
    rw [hstep]
    exact .inr ⟨fun ms => hanswer _, hcontrol.speed, fun _ => rfl⟩
  | some e =>
    obtain ⟨path, v⟩ := e
    obtain ⟨hstep, hanswer⟩ := step_of_edit he
    obtain ⟨answer, state, scheduler, shown, hto, hedit⟩ := h.edit_eq path v
    have hkey : s.key? op = Bridge.keyOf? path := by rw [key?, he, Option.bind_some]
    rw [hedit] at hstep hanswer
    rw [hkey, hstep, hanswer]
    cases hto with
    | ignored hpath => exact .inr ⟨by simp, rfl, fun _ => rfl⟩
    | refused hpath hv => exact .inr ⟨by simp, rfl, fun hne => absurd hpath hne⟩
    | @speed ms hpath hv =>
      exact .inl ⟨hpath, ms, v, rfl, hv, Scheduler.speed_setSpeed _ _, rfl⟩
    | @color key color answer scheduler hpath hne hmem hcolor hset =>
      have hspeed : (s.scheduler.setConfig "color" color.toJson).2.speed = s.speed :=
        Scheduler.speed_setConfig_of_ne s.scheduler (by decide) color.toJson
      rw [hset] at hspeed
      refine .inr ⟨fun ms => ?_, hspeed, fun _ =>
        PanelState.effectNumber?_withEffectValue_of_ne (Ne.symm hne) s.state v⟩
      cases answer <;> nofun
    | @config key sent answer scheduler hpath hne hmem hsent hset =>
      have hspeed : (s.scheduler.setConfig key sent).2.speed = s.speed :=
        Scheduler.speed_setConfig_of_ne s.scheduler hne sent
      rw [hset] at hspeed
      refine .inr ⟨fun ms => ?_, hspeed, fun _ =>
        PanelState.effectNumber?_withEffectValue_of_ne (Ne.symm hne) s.state v⟩
      cases answer <;> nofun

/-- Where numbers are exact, the state shows the interval that was written back to it. -/
theorem IsDeclarative.step_speed {s : Session Rat σ} (h : s.IsDeclarative) (op : Op Rat) :
    (s.key? op = some "speed" ∧ ∃ ms, s.answer? op = some (.ok (.speed ms)) ∧
      (s.step op).speed = max (s.range.clamp ms) 1 ∧ (s.step op).ShowsInterval) ∨
    ((∀ ms, s.answer? op ≠ some (.ok (.speed ms))) ∧ (s.step op).speed = s.speed ∧
      (s.key? op ≠ some "speed" →
        (s.step op).state.effectNumber? "speed" = s.state.effectNumber? "speed")) := by
  refine (h.step_interval op).imp_left ?_
  rintro ⟨hkey, ms, v, hanswer, -, hspeed, hstate⟩
  refine ⟨hkey, ms, hanswer, hspeed, ?_⟩
  rw [ShowsInterval, hstate]
  exact PanelState.effectNumber?_withInterval _ _

/-! ### Runs -/

/-- Without an edit of `speed` that is taken the interval stays what it is. -/
theorem IsDeclarative.speed_run {s : Session Rat σ} (h : s.IsDeclarative) {ops : List (Op Rat)}
    (hops : ∀ ms, .ok (.speed ms) ∉ s.answers ops) : (s.run ops).speed = s.speed := by
  induction ops generalizing s with
  | nil => rfl
  | cons op ops ih =>
    have hlater : ∀ ms, .ok (.speed ms) ∉ (s.step op).answers ops := fun ms hm =>
      hops ms (List.mem_append_right _ hm)
    rcases h.step_speed op with ⟨-, ms, hanswer, -⟩ | ⟨-, hspeed, -⟩
    · exact absurd (by simp [answers, hanswer]) (hops ms)
    · exact (ih (h.step op) hlater).trans hspeed

/-- From the first one on it is in the range. -/
theorem IsDeclarative.speed_run_bounds {s : Session Rat σ} (h : s.IsDeclarative)
    (hrange : s.range.hi < 2 ^ 64) {ops : List (Op Rat)}
    (hops : ∃ ms, .ok (.speed ms) ∈ s.answers ops) :
    max 1 s.range.lo ≤ (s.run ops).speed ∧ (s.run ops).speed ≤ max 1 s.range.hi := by
  induction ops generalizing s with
  | nil =>
    obtain ⟨ms, hms⟩ := hops
    cases hms
  | cons op ops ih =>
    have hstep : (s.step op).range = s.range := (h.step_setup op).2.2.1
    by_cases hlater : ∃ ms, .ok (.speed ms) ∈ (s.step op).answers ops
    · rw [← hstep]
      exact ih (h.step op) (hstep ▸ hrange) hlater
    · have hkept : (s.run (op :: ops)).speed = (s.step op).speed :=
        (h.step op).speed_run fun ms hm => hlater ⟨ms, hm⟩
      rcases h.step_speed op with ⟨-, ms, -, hspeed, -⟩ | ⟨hanswer, -⟩
      · have := SpeedRange.clamp_bounds hrange ms
        rw [hkept, hspeed]
        omega
      · obtain ⟨ms, hms⟩ := hops
        rcases List.mem_append.mp hms with hm | hm
        · exact absurd (Option.mem_toList.mp hm) (hanswer ms)
        · exact absurd ⟨ms, hm⟩ hlater

/-- What is shown stays right while nobody edits the key. -/
theorem IsDeclarative.showsInterval_run {s : Session Rat σ} (h : s.IsDeclarative)
    (hs : s.ShowsInterval) {ops : List (Op Rat)} (hops : s.Spares "speed" ops) :
    (s.run ops).ShowsInterval := by
  induction ops generalizing s with
  | nil => exact hs
  | cons op ops ih =>
    obtain ⟨hkey, hlater⟩ := hops
    rcases h.step_speed op with ⟨hkey', -⟩ | ⟨-, hspeed, hshown⟩
    · exact absurd hkey' hkey
    · refine ih (h.step op) ?_ hlater
      show (s.step op).state.effectNumber? "speed" = some ((s.step op).speed : Rat)
      rw [hshown hkey, hspeed]
      exact hs

/-- **The interval follows the edits that are taken, and the panel shows it.**  A session starts at
the whole number of milliseconds that its panel shows.  It keeps its interval until the first edit
of `speed` that is taken and is in the range of the panel from then on; an edit that is refused
changes nothing about it.  After an edit that is taken the state shows the interval of the machine,
until the key is edited again. -/
theorem interval_follows_edits {f : Factory Rat (Builtin Rat)} (hf : f ∈ Builtin.factories)
    {spec? : Option (PanelSpec Rat)} {options : SessionOptions Rat}
    {s : Session Rat (Builtin Rat)} (hs : create f (spec?.map .spec) options = .ok s)
    (hrange : s.range.hi ≤ 2 ^ 53) :
    (∀ n : Nat, 1 ≤ n → n ≤ 2 ^ 53 → s.state.effectNumber? "speed" = some (n : Rat) →
      s.speed = n) ∧
    ∀ ops : List (Op Rat),
      ((∀ ms, .ok (.speed ms) ∉ s.answers ops) → (s.run ops).speed = s.speed) ∧
      ((∃ ms, .ok (.speed ms) ∈ s.answers ops) →
        max 1 s.range.lo ≤ (s.run ops).speed ∧ (s.run ops).speed ≤ max 1 s.range.hi) ∧
      ∀ op : Op Rat,
        (∀ e, (s.run ops).answer? op = some (.error e) →
          ((s.run ops).step op).speed = (s.run ops).speed) ∧
        ∀ ms, (s.run ops).answer? op = some (.ok (.speed ms)) →
          ∀ more, ((s.run ops).step op).Spares "speed" more →
            (((s.run ops).step op).run more).ShowsInterval := by
  have hcreated := created_of_create hs
  have hdeclarative : s.IsDeclarative := hcreated.isDeclarative
  have hrange' : s.range.hi < 2 ^ 64 := by omega
  refine ⟨fun n hn hn' hshown => ?_, fun ops => ⟨fun hops => hdeclarative.speed_run hops,
    fun hops => hdeclarative.speed_run_bounds hrange' hops, fun op => ?_⟩⟩
  · obtain ⟨m, hm, hscheduler⟩ := hcreated.machine_eq
    have hn64 : n < 2 ^ 64 := by omega
    show s.scheduler.machine.speed = n
    rw [hscheduler]
    exact Builtin.speed_of_create hf hm hn (speed?_machineOptions hn hn64 hshown options)
  · have hrun : (s.run ops).IsDeclarative := (hdeclarative.run_setup ops).1
    refine ⟨fun e he => ?_, fun ms hms more hmore => ?_⟩
    · rcases hrun.step_speed op with ⟨-, ms, hms, -⟩ | ⟨-, hspeed, -⟩
      · rw [hms] at he
        cases he
      · exact hspeed
    · rcases hrun.step_speed op with ⟨-, _, -, -, hshown⟩ | ⟨hno, -⟩
      · exact (hrun.step op).showsInterval_run hshown hmore
      · exact absurd hms (hno ms)

/-- A panel whose range is written the wrong way around, and which shows an interval outside it. -/
def steadyPanel : PanelSpec Rat where
  root := "main"
  elements := [("main", { component := "Text", props := [("text", .str "Steady")] })]
  state := .obj [("effect", .obj [("speed", .int 15)])]
  speed := some ⟨500, 50, 200⟩

/-- The session starts at the interval shown.  A request for ten milliseconds is taken, and brought
into the range; the panel shows the interval also after the machine was started and has run for a
second. -/
theorem steady_shows_interval :
    ∃ s : Session Rat (Builtin Rat),
      create Builtin.chaseFactory (some (.spec steadyPanel)) {} = .ok s ∧ s.speed = 15 ∧
        (let request : Op Rat := .edit "/effect/speed" (.int 10)
         s.answers [request] = [.ok (.speed 10)] ∧
          50 ≤ (s.run [request]).speed ∧ (s.run [request]).speed ≤ 500 ∧
          ((s.step request).run [.start, .elapse 1000]).ShowsInterval) := by
  refine ⟨_, rfl, ?_⟩
  obtain ⟨hstart, hruns⟩ := @interval_follows_edits Builtin.chaseFactory
    (by simp [Builtin.factories]) (some steadyPanel) {} _ rfl (by decide)
  have hrequest := hruns [.edit "/effect/speed" (.int 10)]
  obtain ⟨-, hin, -⟩ := hrequest
  have hbounds := hin ⟨10, List.mem_singleton.mpr rfl⟩
  refine ⟨hstart 15 (by decide) (by decide) rfl, rfl, hbounds.1, hbounds.2, ?_⟩
  exact ((hruns []).2.2 _).2 10 rfl _ ⟨by decide, by decide, trivial⟩

end Session
end LedStrip
