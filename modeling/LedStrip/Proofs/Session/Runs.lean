import LedStrip.Proofs.Panel.Bridge
import LedStrip.Proofs.Scheduler.Control
import LedStrip.Session

/-!
# Runs of a session

A run is a list of operations: edits by path, steps of the interval, steps of a control, the keys
that start, stop and pause, and time that passes.  Three of them are edits in the end
(`Session.edit?`), and `EditsTo` says once all that an edit can come to.  Everything else calls the
machine and leaves the panel alone (`step_of_no_edit`).

Where the panel is data, an edit changes no more than the state and the scheduler
(`IsDeclarative.edit_eq`).
-/

namespace LedStrip

open Bridge (keyOf? shownColor scaled requestedInterval)

/-- The state with the interval of the machine, written where it shows another. -/
def PanelState.withInterval {R : Type} [Scalar R] (s : PanelState R) (ms : Nat) : PanelState R :=
  if ((s.effectNumber? "speed").map (· == Scalar.ofNat ms)).getD false then s
  else s.withEffectValue "speed" (.ofNat ms)

theorem PanelState.effectNumber?_withInterval_of_ne {R : Type} [Scalar R] {key : String}
    (h : key ≠ "speed") (s : PanelState R) (ms : Nat) :
    (s.withInterval ms).effectNumber? key = s.effectNumber? key := by
  unfold withInterval
  split
  · rfl
  · exact effectNumber?_withEffectValue_of_ne h s _

namespace Session

variable {R σ : Type} [Scalar R] [Effect R σ]

/-! ### Edits -/

/-- What an edit can come to: the answer, the state and the scheduler.  The state takes the value
even where the machine refuses it. -/
inductive EditsTo (s : Session R σ) (path : String) (v : Json R) :
    Except SessionError (EditAction R) → PanelState R → Scheduler R σ → Prop
  | ignored : keyOf? path = none → EditsTo s path v (.ok .ignored) s.state s.scheduler
  | refused {e : EffectError} : keyOf? path = some "speed" → requestedInterval v = .error e →
      EditsTo s path v (.error (.effect e)) (s.state.withEffectValue "speed" v) s.scheduler
  | speed {ms : R} : keyOf? path = some "speed" → requestedInterval v = .ok ms →
      EditsTo s path v (.ok (.speed ms))
        ((s.state.withEffectValue "speed" v).withInterval
          (s.scheduler.setSpeed (s.range.clamp ms)).speed)
        (s.scheduler.setSpeed (s.range.clamp ms))
  | color {key : String} {color : TaggedColor R} {answer : Except EffectError Unit}
      {scheduler : Scheduler R σ} :
      keyOf? path = some key → key ≠ "speed" → key ∈ s.bridge.config.colorKeys →
      color = shownColor (s.state.withEffectValue key v) →
      s.scheduler.setConfig "color" color.toJson = (answer, scheduler) →
      EditsTo s path v ((answer.map fun _ => .color color).mapError .effect)
        (s.state.withEffectValue key v) scheduler
  | config {key : String} {sent : Json R} {answer : Except EffectError Unit}
      {scheduler : Scheduler R σ} :
      keyOf? path = some key → key ≠ "speed" → key ∉ s.bridge.config.colorKeys →
      sent = scaled s.bridge.config key v →
      s.scheduler.setConfig key sent = (answer, scheduler) →
      EditsTo s path v ((answer.map fun _ => .config key sent).mapError .effect)
        (s.state.withEffectValue key v) scheduler

/-- What the machine does not do, the effect has refused. -/
theorem EditsTo.exists_effect {s : Session R σ} {path : String} {v : Json R}
    {answer : Except SessionError (EditAction R)} {state : PanelState R} {scheduler : Scheduler R σ}
    (h : s.EditsTo path v answer state scheduler) {err : SessionError} (he : answer = .error err) :
    ∃ e, err = .effect e := by
  cases h with
  | ignored _ => cases he
  | refused _ _ =>
    cases he
    exact ⟨_, rfl⟩
  | speed _ _ => cases he
  | @color _ _ reply _ _ _ _ _ _ =>
    cases reply with
    | ok _ => cases he
    | error e =>
      cases he
      exact ⟨e, rfl⟩
  | @config _ _ reply _ _ _ _ _ _ =>
    cases reply with
    | ok _ => cases he
    | error e =>
      cases he
      exact ⟨e, rfl⟩

section Interval

variable (b : Bridge R) (range : SpeedRange) (scheduler : Scheduler R σ) {v : Json R}

theorem call_speed_refused {e : EffectError} (h : requestedInterval v = .error e) :
    b.call (RangedScheduler.mk range scheduler) "speed" v = (.error e, ⟨range, scheduler⟩) := by
  unfold Bridge.call
  rw [if_pos rfl]
  unfold requestedInterval at h
  cases hv : finiteNumber (R := R) "speed" v with
  | error e' =>
    rw [hv] at h
    obtain rfl : e' = e := Except.error.inj h
    rfl
  | ok ms =>
    rw [hv] at h
    have hp : positiveInterval ms = .error e := h
    simp only [MachineControl.changeSpeed, hp, Except.map]

/-- An interval goes by the range of the panel. -/
theorem call_speed_taken {ms : R} (h : requestedInterval v = .ok ms) :
    b.call (RangedScheduler.mk range scheduler) "speed" v =
      (.ok (.speed ms), ⟨range, scheduler.setSpeed (range.clamp ms)⟩) := by
  unfold Bridge.call
  rw [if_pos rfl]
  unfold requestedInterval at h
  cases hv : finiteNumber (R := R) "speed" v with
  | error e =>
    rw [hv] at h
    cases h
  | ok ms' =>
    rw [hv] at h
    have hp : positiveInterval ms' = .ok ms := h
    obtain rfl := Bridge.positiveInterval_eq_ok hp
    simp only [MachineControl.changeSpeed, hp, Except.map]

end Interval

/-- The answer of an edit, once the widgets have followed the state. -/
def settle (answer : Except SessionError (EditAction R)) (s : Session R σ) :
    Except SessionError (EditAction R) × Session R σ :=
  match s.refreshPanel with
  | (.ok _, s) => (answer, s)
  | (.error e, s) => (.error (.panel e), s)

section OneEdit

variable {s : Session R σ} {path : String} {v : Json R} {bridge : Bridge R}
  {control : RangedScheduler R σ}

/-- An answer that sets no interval leaves the state as the bridge left it. -/
theorem edit_of_apply {answer : Except EffectError (EditAction R)}
    (h : s.bridge.apply (RangedScheduler.mk s.range s.scheduler) path v =
      (answer, bridge, control)) (hne : ∀ ms, answer ≠ .ok (.speed ms)) :
    s.edit path v =
      settle (answer.mapError .effect) { s with bridge, scheduler := control.scheduler } := by
  unfold edit settle
  rw [h]
  rcases answer with e | action
  · rfl
  · cases action with
    | speed ms => exact absurd rfl (hne ms)
    | _ => rfl

/-- An interval that is set is written back. -/
theorem edit_of_apply_speed {ms : R}
    (h : s.bridge.apply (RangedScheduler.mk s.range s.scheduler) path v =
      (.ok (.speed ms), bridge, control)) :
    s.edit path v =
      settle (.ok (.speed ms))
        { s with
          bridge := { bridge with state := bridge.state.withInterval control.scheduler.speed },
          scheduler := control.scheduler } := by
  have hwrite : ∀ t : Session R σ, t.writeBackSpeed =
      { t with bridge := { t.bridge with state := t.state.withInterval t.speed } } := by
    intro t
    unfold writeBackSpeed PanelState.withInterval
    split <;> rfl
  unfold edit settle
  rw [h]
  dsimp only
  rw [hwrite]
  rfl

end OneEdit

/-- **All that an edit can come to**, before the widgets follow. -/
theorem exists_editsTo (s : Session R σ) (path : String) (v : Json R) :
    ∃ answer state scheduler, s.EditsTo path v answer state scheduler ∧
      s.edit path v = settle answer { s with bridge := { s.bridge with state }, scheduler } := by
  let control := RangedScheduler.mk s.range s.scheduler
  rcases hkey : keyOf? path with _ | key
  · have happly : s.bridge.apply control path v = (.ok .ignored, s.bridge, control) :=
      Bridge.apply_of_ignored s.bridge control v hkey
    exact ⟨_, _, _, .ignored hkey, edit_of_apply happly (by simp)⟩
  let bridge : Bridge R := { s.bridge with state := s.state.withEffectValue key v }
  have happly : s.bridge.apply control path v =
      ((bridge.call control key v).1, bridge, (bridge.call control key v).2) :=
    Bridge.apply_of_key s.bridge control v hkey
  by_cases hspeed : key = "speed"
  · subst hspeed
    cases hv : requestedInterval v with
    | error e =>
      rw [call_speed_refused bridge s.range s.scheduler hv] at happly
      exact ⟨_, _, _, .refused hkey hv, edit_of_apply happly (by simp)⟩
    | ok ms =>
      rw [call_speed_taken bridge s.range s.scheduler hv] at happly
      have hedit := edit_of_apply_speed happly
      exact ⟨_, _, _, .speed hkey hv, hedit⟩
  by_cases hcolor : key ∈ s.bridge.config.colorKeys
  · rcases hset : s.scheduler.setConfig "color" (shownColor bridge.state).toJson
      with ⟨answer, scheduler⟩
    have hcontrol : MachineControl.setConfig control "color" (shownColor bridge.state).toJson =
        (answer, { control with scheduler }) := by
      simp only [MachineControl.setConfig, control, hset]
    rw [Bridge.call_color bridge control v hspeed hcolor, hcontrol] at happly
    refine ⟨_, _, _, .color hkey hspeed hcolor rfl hset, edit_of_apply happly fun ms => ?_⟩
    cases answer <;> simp [Except.map]
  · rcases hset : s.scheduler.setConfig key (scaled bridge.config key v)
      with ⟨answer, scheduler⟩
    have hcontrol : MachineControl.setConfig control key (scaled bridge.config key v) =
        (answer, { control with scheduler }) := by
      simp only [MachineControl.setConfig, control, hset]
    rw [Bridge.call_config bridge control v hspeed hcolor, hcontrol] at happly
    refine ⟨_, _, _, .config hkey hspeed hcolor rfl hset, edit_of_apply happly fun ms => ?_⟩
    cases answer <;> simp [Except.map]

/-! ### Panels that are data -/

/-- A session without a panel, or with one that is data. -/
def IsDeclarative (s : Session R σ) : Prop := ∀ p, s.panel = some p → p.rebuilds = false

omit [Effect R σ] in
/-- The widgets of such a panel stay. -/
theorem IsDeclarative.refreshPanel_eq {s : Session R σ} (h : s.IsDeclarative) :
    ∃ shown, s.refreshPanel = (.ok (), { s with shown }) := by
  unfold refreshPanel
  split
  · exact ⟨s.shown, rfl⟩
  · cases hp : s.panel with
    | none => exact ⟨s.state, rfl⟩
    | some p => exact ⟨s.state, by simp only [h p hp, Bool.false_eq_true, if_false]⟩

/-- **Where the panel is data**, an edit changes no more than the state and the scheduler. -/
theorem IsDeclarative.edit_eq {s : Session R σ} (h : s.IsDeclarative) (path : String)
    (v : Json R) :
    ∃ answer state scheduler shown, s.EditsTo path v answer state scheduler ∧
      s.edit path v =
        (answer, { s with bridge := { s.bridge with state }, scheduler, shown }) := by
  obtain ⟨answer, state, scheduler, hto, hedit⟩ := s.exists_editsTo path v
  have h' : IsDeclarative { s with bridge := { s.bridge with state }, scheduler } := h
  obtain ⟨shown, hrefresh⟩ := h'.refreshPanel_eq
  refine ⟨answer, state, scheduler, shown, hto, ?_⟩
  rw [hedit, settle, hrefresh]

/-! ### Operations -/

/-- What a user or the clock can do to a session. -/
inductive Op (R : Type) where
  | edit (path : String) (v : Json R)
  | nudgeSpeed (ms : Int)
  | adjustControl (index : Nat) (steps : Int)
  | toggleRun
  | togglePause
  | start
  | pause
  | resume
  | stop
  | elapse (ms : Nat)

/-- The session after an operation. -/
def step (s : Session R σ) : Op R → Session R σ
  | .edit path v => (s.edit path v).2
  | .nudgeSpeed ms => (s.nudgeSpeed ms).2
  | .adjustControl index steps => (s.adjustControl index steps).2
  | .toggleRun => s.toggleRun.2
  | .togglePause => s.togglePause.2
  | .start => { s with scheduler := s.scheduler.start.2 }
  | .pause => { s with scheduler := s.scheduler.pause.2 }
  | .resume => { s with scheduler := s.scheduler.resume.2 }
  | .stop => { s with scheduler := s.scheduler.stop.2 }
  | .elapse ms => s.elapse ms

/-- The session after some operations, in order. -/
def run (s : Session R σ) (ops : List (Op R)) : Session R σ := ops.foldl step s

/-- The answer to an operation that asks for an edit. -/
def answer? (s : Session R σ) : Op R → Option (Except SessionError (EditAction R))
  | .edit path v => some (s.edit path v).1
  | .nudgeSpeed ms => some (s.nudgeSpeed ms).1
  | .adjustControl index steps => some (s.adjustControl index steps).1
  | _ => none

/-- The answers along a run, in order. -/
def answers (s : Session R σ) : List (Op R) → List (Except SessionError (EditAction R))
  | [] => []
  | op :: ops => (s.answer? op).toList ++ (s.step op).answers ops

omit [Effect R σ] in
/-- The edit that an operation comes to. -/
def edit? (s : Session R σ) : Op R → Option (String × Json R)
  | .edit path v => some (path, v)
  | .nudgeSpeed ms =>
    some ("/effect/speed", .ofNat (s.range.clamp (Scalar.ofNat s.speed + Scalar.ofInt ms : R)))
  | .adjustControl index steps =>
    s.controls[index]?.map fun c => (c.path, numberValue (c.adjust (s.current c) steps))
  | _ => none

omit [Effect R σ] in
/-- The key of the effect that an operation edits. -/
def key? (s : Session R σ) (op : Op R) : Option String := (s.edit? op).bind fun e => keyOf? e.1

/-- No operation of a run edits a key. -/
def Spares (key : String) (s : Session R σ) : List (Op R) → Prop
  | [] => True
  | op :: ops => s.key? op ≠ some key ∧ (s.step op).Spares key ops

theorem run_cons (s : Session R σ) (op : Op R) (ops : List (Op R)) :
    s.run (op :: ops) = (s.step op).run ops := rfl

section OneStep

variable {s : Session R σ} {op : Op R}

/-- An operation with an edit is that edit. -/
theorem step_of_edit {path : String} {v : Json R} (h : s.edit? op = some (path, v)) :
    s.step op = (s.edit path v).2 ∧ s.answer? op = some (s.edit path v).1 := by
  cases op with
  | edit path' v' => cases h; exact ⟨rfl, rfl⟩
  | nudgeSpeed ms => cases h; exact ⟨rfl, rfl⟩
  | adjustControl index steps =>
    obtain ⟨c, hc, he⟩ := Option.map_eq_some_iff.mp h
    cases he
    have hadjust : s.adjustControl index steps =
        s.edit c.path (numberValue (c.adjust (s.current c) steps)) := by
      simp only [adjustControl, hc]
    exact ⟨congrArg Prod.snd hadjust, congrArg some (congrArg Prod.fst hadjust)⟩
  | _ => cases h

/-- **An operation without an edit** at most calls the machine, in ways that set nothing. -/
theorem step_of_no_edit (h : s.edit? op = none) :
    (∀ action, s.answer? op ≠ some (.ok action)) ∧
      ∃ scheduler, s.scheduler.machine.Controlled scheduler.machine ∧
        s.step op = { s with scheduler } := by
  have hstop : s.scheduler.machine.Controlled s.scheduler.stop.2.machine :=
    Machine.controlled_call s.scheduler.machine (c := .stop) trivial
  have hstart : s.scheduler.machine.Controlled s.scheduler.start.2.machine := by
    rw [Scheduler.machine_start]
    exact Machine.controlled_call s.scheduler.machine (c := .start) trivial
  cases op with
  | edit path v => cases h
  | nudgeSpeed ms => cases h
  | adjustControl index steps =>
    have hc : s.controls[index]? = none := Option.map_eq_none_iff.mp h
    have hadjust : s.adjustControl index steps = (.error (.noControl index), s) := by
      simp only [adjustControl, hc]
    refine ⟨fun action => ?_, s.scheduler, .refl _, congrArg Prod.snd hadjust⟩
    simp [answer?, hadjust]
  | toggleRun =>
    refine ⟨by simp [answer?], ?_⟩
    by_cases hidle : s.status = .idle
    · exact ⟨_, hstart, by simp only [step, toggleRun, if_pos hidle]⟩
    · exact ⟨_, hstop, by simp only [step, toggleRun, if_neg hidle]⟩
  | togglePause =>
    exact ⟨by simp [answer?], _, Scheduler.controlled_togglePause s.scheduler, rfl⟩
  | start => exact ⟨by simp [answer?], _, hstart, rfl⟩
  | pause =>
    refine ⟨by simp [answer?], _, ?_, rfl⟩
    rw [Scheduler.machine_pause]
    exact Machine.controlled_call s.scheduler.machine (c := .pause) trivial
  | resume =>
    refine ⟨by simp [answer?], _, ?_, rfl⟩
    rw [Scheduler.machine_resume]
    exact Machine.controlled_call s.scheduler.machine (c := .resume) trivial
  | stop => exact ⟨by simp [answer?], _, hstop, rfl⟩
  | elapse ms =>
    refine ⟨by simp [answer?], (s.scheduler.advance ms).collect.2, ?_, rfl⟩
    exact Scheduler.controlled_advance s.scheduler ms

/-- The setup of a session, which no operation touches where the panel is data. -/
theorem IsDeclarative.step_setup (h : s.IsDeclarative) (op : Op R) :
    (s.step op).panel = s.panel ∧ (s.step op).widgets = s.widgets ∧
      (s.step op).range = s.range ∧ (s.step op).bridge.config = s.bridge.config := by
  cases he : s.edit? op with
  | none =>
    obtain ⟨-, scheduler, -, hstep⟩ := step_of_no_edit he
    rw [hstep]
    exact ⟨rfl, rfl, rfl, rfl⟩
  | some e =>
    obtain ⟨_, _, _, _, -, hedit⟩ := h.edit_eq e.1 e.2
    rw [(step_of_edit he).1, hedit]
    exact ⟨rfl, rfl, rfl, rfl⟩

theorem IsDeclarative.step (h : s.IsDeclarative) (op : Op R) : (s.step op).IsDeclarative := by
  unfold IsDeclarative
  rw [(h.step_setup op).1]
  exact h

end OneStep

/-- The setup along a run. -/
theorem IsDeclarative.run_setup {s : Session R σ} (h : s.IsDeclarative) (ops : List (Op R)) :
    (s.run ops).IsDeclarative ∧ (s.run ops).widgets = s.widgets ∧
      (s.run ops).range = s.range ∧ (s.run ops).bridge.config = s.bridge.config := by
  induction ops generalizing s with
  | nil => exact ⟨h, rfl, rfl, rfl⟩
  | cons op ops ih =>
    obtain ⟨-, hwidgets, hrange, hconfig⟩ := h.step_setup op
    rw [run_cons, ← hwidgets, ← hrange, ← hconfig]
    exact ih (h.step op)

/-! ### New sessions -/

/-- A session that was created for a factory and a panel. -/
structure Created (f : Factory R σ) (panel : Option (EffectPanel R)) (options : SessionOptions R)
    (s : Session R σ) : Prop where
  machine_eq : ∃ m, f.create (machineOptions s.state options) = .ok m ∧
    s.scheduler = .create m options.policy
  bridge_eq : s.bridge =
    .create ((panel.map (·.initialState)).getD (.obj [])) (panel.bind (·.bridge))
  panel_eq : s.panel = panel
  widgets_eq : ∀ p, panel = some p → ∃ w, p.build s.state = .ok w ∧ s.widgets = some w
  range_eq : s.range = (panel.map (·.speedRange)).getD .standard

omit [Effect R σ] in
theorem created_of_create {f : Factory R σ} {panel : Option (EffectPanel R)}
    {options : SessionOptions R} {s : Session R σ} (h : create f panel options = .ok s) :
    Created f panel options s := by
  unfold create at h
  dsimp only at h
  cases hm : f.create (machineOptions
      { value := (panel.map (·.initialState)).getD (.obj []) } options) with
  | error e =>
    rw [hm] at h
    cases h
  | ok m =>
    rw [hm] at h
    cases panel with
    | none =>
      cases h
      exact ⟨⟨m, hm, rfl⟩, rfl, rfl, fun _ hp => (nomatch hp), rfl⟩
    | some p =>
      cases hw : p.build { value := p.initialState } with
      | error e =>
        simp only [Option.map_some, Option.getD_some, hw] at h
        cases h
      | ok w =>
        simp only [Option.map_some, Option.getD_some, hw] at h
        cases h
        refine ⟨⟨m, hm, rfl⟩, rfl, rfl, fun p' hp => ?_, rfl⟩
        cases hp
        exact ⟨w, hw, rfl⟩

omit [Effect R σ] in
/-- A session with a panel that is data, or with none. -/
theorem Created.isDeclarative {f : Factory R σ} {spec? : Option (PanelSpec R)}
    {options : SessionOptions R} {s : Session R σ}
    (h : Created f (spec?.map .spec) options s) : s.IsDeclarative := by
  intro p hp
  rw [h.panel_eq] at hp
  obtain ⟨spec, -, rfl⟩ := Option.map_eq_some_iff.mp hp
  rfl

end Session
end LedStrip
