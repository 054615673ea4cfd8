import Mathlib.Logic.Relation
import LedStrip.Proofs.Effect.Parameters

/-!
# Calls that make a difference

The frames of a machine around a built-in effect depend on some of its calls: the ticks while it
runs, the stops and the parameters that the effect takes (`Machine.essentials`).  An effect that
goes through just these on its own shows the same frames (`frames_eq_play`).  So other calls can be
left out or put in anywhere (`Machine.Trims`), and a machine that was stopped cannot be told from a
new one with the same parameters (`frames_follow_essentials`).
-/

namespace LedStrip

open Machine (Call)

variable {R : Type}

/-- A call that only sets something. -/
def Machine.Call.isSetting : Call R → Bool
  | .setSpeed _ => true
  | .setConfig _ _ => true
  | _ => false

variable [Scalar R]

/-! ### An effect on its own -/

namespace Builtin

/-- The frame that an effect answers to a call. -/
def frame? (n : Nat) (e : Builtin R) : Call R → Option Frame
  | .tick => (Effect.onTick R e n).1.toOption
  | _ => none

/-- The effect after a call. -/
def after (n : Nat) (e : Builtin R) : Call R → Builtin R
  | .tick => (Effect.onTick R e n).2
  | .stop => (Effect.onReset R e).2
  | .setConfig key v => (Effect.onSetConfig e key v).2
  | _ => e

/-- The frames of an effect that goes through some calls on a strip of `n` LEDs. -/
def play (n : Nat) (e : Builtin R) : List (Call R) → List Frame
  | [] => []
  | c :: cs => (e.frame? n c).toList ++ (e.after n c).play n cs

end Builtin

namespace Machine

/-- Whether a call matters for the frames: a tick while the machine runs, a stop, or a parameter
that the effect knows and takes. -/
def essential (m : Machine R (Builtin R)) : Call R → Bool
  | .tick => m.status = .running
  | .stop => true
  | .setConfig key v => key ∈ m.effect.keys && (m.setConfig key v).1.isOk
  | _ => false

/-- Those of some calls that matter, in order. -/
def essentials (m : Machine R (Builtin R)) : List (Call R) → List (Call R)
  | [] => []
  | c :: cs => (if m.essential c then [c] else []) ++ (m.call c).essentials cs

/-! ### One call -/

section Step

variable (m : Machine R (Builtin R)) (c : Call R)

theorem effect_call :
    (m.call c).effect = if m.essential c then m.effect.after m.ledCount c else m.effect := by
  cases c with
  | start => exact effect_transition m _ _
  | pause => exact effect_transition m _ _
  | resume => exact effect_transition m _ _
  | stop => rfl
  | setSpeed ms => rfl
  | tick =>
    show m.tick.2.effect = if decide (m.status = .running) then _ else _
    by_cases hr : m.status = .running
    · rcases tick_of_running hr with ⟨f, -, ht⟩ | ⟨e, ht⟩ <;> simp [ht, hr, Builtin.after]
    · simp [tick_of_not_running hr, hr]
  | setConfig key v =>
    by_cases hspeed : key = "speed"
    · subst hspeed
      have hkey : "speed" ∉ m.effect.keys := m.effect.speed_not_mem_keys
      have hkept : (m.setConfig "speed" v).2.effect = m.effect := by
        cases hv : speedValue v with
        | error e => rw [setConfig_speed_error m hv]
        | ok ms => rw [setConfig_speed_ok m hv]; rfl
      simp [call, essential, hkey, hkept]
    · have hset := setConfig_of_ne m hspeed v
      by_cases hkey : key ∈ m.effect.keys
      · cases ha : (Effect.onSetConfig m.effect key v).1 with
        | ok u => simp [call, essential, hset, hkey, ha, Except.isOk, Except.toBool, Builtin.after]
        | error e =>
          simp [call, essential, hset, ha, Except.isOk, Except.toBool,
            Builtin.onSetConfig_of_error ha]
      · simp [call, essential, hset, hkey, Builtin.onSetConfig_of_not_mem hkey]

/-- A running machine puts the frame of its effect on the strip. -/
theorem frame?_eq :
    m.frame? c = if m.essential c then m.effect.frame? m.ledCount c else none := by
  cases c with
  | tick =>
    rw [frame?]
    by_cases hr : m.status = .running
    · obtain ⟨f, hsize, hf⟩ := m.effect.exists_frame_onTick m.ledCount
      simp [tick_of_size_eq hr hf hsize, essential, hr, Builtin.frame?, hf, Except.toOption]
    · simp [tick_of_not_running hr, essential, hr]
  | _ => simp [frame?, Builtin.frame?]

end Step

/-- **The frames of a machine are those of its effect**, which needs to hear of the essential calls
only. -/
theorem frames_eq_play (m : Machine R (Builtin R)) (cs : List (Call R)) :
    m.frames cs = m.effect.play m.ledCount (m.essentials cs) := by
  induction cs generalizing m with
  | nil => rfl
  | cons c cs ih =>
    rw [frames, essentials, ih, ledCount_call, frame?_eq, effect_call]
    by_cases h : m.essential c
    · simp [h, Builtin.play]
    · simp [h]

theorem essentials_sublist (m : Machine R (Builtin R)) (cs : List (Call R)) :
    (m.essentials cs).Sublist cs := by
  induction cs generalizing m with
  | nil => exact List.Sublist.slnil
  | cons c cs ih =>
    rw [essentials]
    split
    · exact (ih _).cons_cons c
    · exact (ih _).cons c

theorem essentials_append (m : Machine R (Builtin R)) (cs ds : List (Call R)) :
    m.essentials (cs ++ ds) = m.essentials cs ++ (m.calls cs).essentials ds := by
  induction cs generalizing m with
  | nil => rfl
  | cons c cs ih => simp only [List.cons_append, essentials, calls_cons, ih, List.append_assoc]

/-! ### Machines with the same future -/

/-- Machines on equal strips whose effects are in the same state. -/
structure SameEffect (m m' : Machine R (Builtin R)) : Prop where
  ledCount : m.ledCount = m'.ledCount
  effect : m.effect = m'.effect

/-- Machines that differ in their names, intervals and present frames at most. -/
structure Abreast (m m' : Machine R (Builtin R)) : Prop extends SameEffect m m' where
  status : m.status = m'.status

section Future

variable {m m' : Machine R (Builtin R)} {c : Call R}

/-- A setting matters in any status, and it does not matter to the status. -/
theorem SameEffect.essential (h : SameEffect m m') (hc : c.isSetting) :
    m.essential c = m'.essential c := by
  cases c with
  | setConfig key v =>
    show (decide (key ∈ m.effect.keys) && (m.setConfig key v).1.isOk) =
      (decide (key ∈ m'.effect.keys) && (m'.setConfig key v).1.isOk)
    by_cases hspeed : key = "speed"
    · subst hspeed
      simp [Builtin.speed_not_mem_keys]
    · rw [setConfig_of_ne m hspeed, setConfig_of_ne m' hspeed, h.effect]
  | setSpeed ms => rfl
  | _ => cases hc

theorem SameEffect.call (h : SameEffect m m') (hc : m.essential c = m'.essential c) :
    SameEffect (m.call c) (m'.call c) where
  ledCount := by rw [ledCount_call, ledCount_call, h.ledCount]
  effect := by rw [effect_call, effect_call, hc, h.ledCount, h.effect]

theorem Abreast.essential (h : Abreast m m') (c : Call R) : m.essential c = m'.essential c := by
  cases c with
  | tick => simp only [Machine.essential, h.status]
  | setConfig key v => exact h.toSameEffect.essential rfl
  | _ => rfl

theorem Abreast.call (h : Abreast m m') (c : Call R) : Abreast (m.call c) (m'.call c) where
  toSameEffect := h.toSameEffect.call (h.essential c)
  status := by rw [status_call, status_call, h.status]

theorem Abreast.essentials (h : Abreast m m') (cs : List (Call R)) :
    m.essentials cs = m'.essentials cs := by
  induction cs generalizing m m' with
  | nil => rfl
  | cons c cs ih => rw [Machine.essentials, Machine.essentials, h.essential c, ih (h.call c)]

theorem Abreast.frames (h : Abreast m m') (cs : List (Call R)) : m.frames cs = m'.frames cs := by
  rw [frames_eq_play, frames_eq_play, h.ledCount, h.effect, h.essentials cs]

end Future

/-! ### Calls without an effect -/

/-- A call that changes no frame: a transition that does not take place, a tick while the machine
does not run, another interval, a key that the effect does not know, or a value that is refused. -/
inductive Idles (m : Machine R (Builtin R)) : Call R → Prop where
  | transition {c} : m.answer c = .moved false → Idles m c
  | tick : m.status ≠ .running → Idles m .tick
  | setSpeed (ms : Nat) : Idles m (.setSpeed ms)
  | unknown {key} (v : Json R) : key ∉ m.effect.keys → Idles m (.setConfig key v)
  | refused {key v e} : (m.setConfig key v).1 = .error e → Idles m (.setConfig key v)

/-- To leave out a call that changes no frame, or a pause together with its resume.  Between the two
are settings; anything else there changes no frame itself and can be left out before. -/
inductive Trims (m : Machine R (Builtin R)) : List (Call R) → List (Call R) → Prop where
  | idle (cs : List (Call R)) {c} (ds : List (Call R)) : (m.calls cs).Idles c →
      Trims m (cs ++ c :: ds) (cs ++ ds)
  | pause (cs : List (Call R)) {xs} (ds : List (Call R)) : (m.calls cs).status = .running →
      (∀ c ∈ xs, c.isSetting) → Trims m (cs ++ .pause :: (xs ++ .resume :: ds)) (cs ++ (xs ++ ds))

theorem Idles.not_essential {m : Machine R (Builtin R)} {c : Call R} (h : m.Idles c) :
    m.essential c = false := by
  cases h with
  | transition h =>
    cases c with
    | start => rfl
    | pause => rfl
    | resume => rfl
    | _ => cases h
  | tick h => exact decide_eq_false h
  | setSpeed ms => rfl
  | unknown v h => simp [essential, h]
  | refused h => simp [essential, h, Except.isOk, Except.toBool]

theorem Idles.status_call {m : Machine R (Builtin R)} {c : Call R} (h : m.Idles c) :
    (m.call c).status = m.status := by
  have kept (source target : Status) (hne : target ≠ source)
      (h : Answer.moved (m.transition source target).1 = .moved false) :
      (m.transition source target).2.status = m.status := by
    have hfalse : (m.transition source target).1 = false := Answer.moved.inj h
    by_contra hmoved
    rw [(m.transition_answer hne).mpr hmoved] at hfalse
    cases hfalse
  cases h with
  | transition h =>
    cases c with
    | start => exact kept _ _ (by decide) h
    | pause => exact kept _ _ (by decide) h
    | resume => exact kept _ _ (by decide) h
    | _ => cases h
  | tick h => exact status_tick m
  | setSpeed ms => rfl
  | unknown v h => exact status_setConfig m _ v
  | refused h => exact status_setConfig m _ _

theorem Idles.abreast {m : Machine R (Builtin R)} {c : Call R} (h : m.Idles c) :
    Abreast (m.call c) m where
  ledCount := ledCount_call m c
  effect := by rw [effect_call, h.not_essential]; rfl
  status := h.status_call

theorem status_calls_settings (m : Machine R (Builtin R)) {xs : List (Call R)}
    (hxs : ∀ c ∈ xs, c.isSetting) : (m.calls xs).status = m.status := by
  induction xs generalizing m with
  | nil => rfl
  | cons c xs ih =>
    have hc : c.next m.status = m.status := by
      have := hxs c List.mem_cons_self
      cases c <;> first | rfl | cases this
    rw [calls_cons, ih _ fun d hd => hxs d (List.mem_cons_of_mem c hd), status_call, hc]

/-- Settings do the same whatever the status is. -/
theorem SameEffect.settings {m m' : Machine R (Builtin R)} (h : SameEffect m m')
    {xs : List (Call R)} (hxs : ∀ c ∈ xs, c.isSetting) :
    m.essentials xs = m'.essentials xs ∧ SameEffect (m.calls xs) (m'.calls xs) := by
  induction xs generalizing m m' with
  | nil => exact ⟨rfl, h⟩
  | cons c xs ih =>
    have hc := h.essential (hxs c List.mem_cons_self)
    obtain ⟨hrest, hafter⟩ := ih (h.call hc) fun d hd => hxs d (List.mem_cons_of_mem c hd)
    exact ⟨by rw [Machine.essentials, Machine.essentials, hc, hrest], hafter⟩

/-- What is left out was not essential. -/
theorem Trims.essentials_eq {m : Machine R (Builtin R)} {cs ds : List (Call R)}
    (h : m.Trims cs ds) : m.essentials cs = m.essentials ds := by
  cases h with
  | idle cs ds hc =>
    rw [essentials_append, essentials_append, essentials, hc.not_essential, hc.abreast.essentials]
    rfl
  | @pause cs xs ds hr hxs =>
    have hpause : SameEffect ((m.calls cs).call .pause) (m.calls cs) :=
      ⟨ledCount_call _ _, effect_transition _ _ _⟩
    obtain ⟨hsame, hafter⟩ := hpause.settings hxs
    have hpaused : (((m.calls cs).call .pause).calls xs).status = .paused := by
      rw [status_calls_settings _ hxs, status_call, hr]
      rfl
    have hresumed : Abreast ((((m.calls cs).call .pause).calls xs).call .resume)
        ((m.calls cs).calls xs) :=
      { ledCount := (ledCount_call _ _).trans hafter.ledCount
        effect := (effect_transition _ _ _).trans hafter.effect
        status := by rw [status_call, hpaused, status_calls_settings _ hxs, hr]; rfl }
    rw [essentials_append, essentials_append, essentials_append, essentials, essentials_append,
      essentials, hresumed.essentials, hsame]
    rfl

/-! ### Stopped machines -/

theorem effect_stop (m : Machine R (Builtin R)) :
    (m.call .stop).effect = m.effect.parameters.effect := congrArg Prod.snd m.effect.onReset_eq

/-- Stopped and started again, a machine is where a new one with its parameters is. -/
theorem abreast_restarted (m : Machine R (Builtin R)) (id : String) (speed : Nat) :
    Abreast (m.calls [.stop, .start])
      ((create id m.ledCount speed m.effect.parameters.effect).calls [.start]) :=
  ⟨⟨rfl, m.effect_stop⟩, rfl⟩

end Machine

/-- Factories make effects that have shown no frame yet. -/
theorem Builtin.effect_of_create {f : Factory R (Builtin R)} (hf : f ∈ factories)
    {o : EffectOptions R} {m : Machine R (Builtin R)} (h : f.create o = .ok m) :
    m.effect = m.effect.parameters.effect := by
  simp only [factories, List.mem_cons, List.not_mem_nil, or_false] at hf
  rcases hf with rfl | rfl | rfl | rfl
  all_goals
    obtain ⟨e, he, rfl⟩ := eq_create_of_factory h
    obtain ⟨s, hs, rfl⟩ := Except.map_eq_ok he
  · obtain ⟨color, -, hs⟩ := Except.bind_eq_ok hs
    cases hs
    rfl
  · obtain ⟨color, -, hs⟩ := Except.bind_eq_ok hs
    obtain ⟨count, -, hs⟩ := Except.bind_eq_ok hs
    cases hs
    rfl
  · obtain ⟨hueStep, -, hs⟩ := Except.bind_eq_ok hs
    obtain ⟨hueSpread, -, hs⟩ := Except.bind_eq_ok hs
    obtain ⟨saturation, -, hs⟩ := Except.bind_eq_ok hs
    obtain ⟨brightness, -, hs⟩ := Except.bind_eq_ok hs
    cases hs
    rfl
  · obtain ⟨color, -, hs⟩ := Except.bind_eq_ok hs
    obtain ⟨width, -, hs⟩ := Except.bind_eq_ok hs
    cases hs
    rfl

namespace Machine

/-- **Only the essential calls matter for the frames**: the ticks while the machine runs, the
stops, and the parameters that the effect knows and takes.

* The essential calls are some of all calls, and histories with the same ones show the same frames.
* So do histories that differ by calls without an effect, or by pauses and their resumes, left out
  or put in anywhere and any number of times.
* After any history, stopped and started again, the machine shows the frames of a new one on as
  many LEDs with the parameters that it had when it was stopped.
* A new machine is what a factory makes: its effect has its parameters and nothing else. -/
theorem frames_follow_essentials {f : Factory R (Builtin R)} (hf : f ∈ Builtin.factories)
    {o : EffectOptions R} {m : Machine R (Builtin R)} (h : f.create o = .ok m) :
    (∀ cs, (m.essentials cs).Sublist cs) ∧
      (∀ cs ds, m.essentials cs = m.essentials ds → m.frames cs = m.frames ds) ∧
      (∀ cs ds, Relation.EqvGen m.Trims cs ds → m.frames cs = m.frames ds) ∧
      (∀ cs id speed ds, (m.calls (cs ++ [.stop, .start])).frames ds =
        ((create id m.ledCount speed (m.calls cs).effect.parameters.effect).calls
          [.start]).frames ds) ∧
      m = create f.id m.ledCount m.speed m.effect.parameters.effect := by
  have hframes : ∀ cs ds, m.essentials cs = m.essentials ds → m.frames cs = m.frames ds := by
    intro cs ds hsame
    rw [frames_eq_play, frames_eq_play, hsame]
  refine ⟨m.essentials_sublist, hframes, fun cs ds htrims => hframes cs ds ?_,
    fun cs id speed ds => ?_, ?_⟩
  · induction htrims with
    | rel _ _ htrim => exact htrim.essentials_eq
    | refl _ => rfl
    | symm _ _ _ ih => exact ih.symm
    | trans _ _ _ _ _ ih₁ ih₂ => exact ih₁.trans ih₂
  · rw [calls_append]
    have hrestarted := abreast_restarted (m.calls cs) id speed
    rw [ledCount_calls] at hrestarted
    exact hrestarted.frames ds
  · rw [← Builtin.effect_of_create hf h]
    exact (Builtin.fresh_of_create hf h).created

/-- A pause with a tick and a refused count in it does not show: three LEDs chase on as if nothing
had happened. -/
theorem pause_does_not_show :
    ∃ m : Machine Rat (Builtin Rat), Builtin.chaseFactory ∈ Builtin.factories (R := Rat) ∧
      Builtin.chaseFactory.create (.withLedCount 3) = .ok m ∧
      m.frames [.start, .tick, .pause, .tick, .setConfig "chaseCount" (.int 0), .resume, .tick] =
        m.frames [.start, .tick, .tick] := by
  have hf : Builtin.chaseFactory ∈ Builtin.factories (R := Rat) := .tail _ (.head _)
  have hm : Builtin.chaseFactory.create (.withLedCount 3) =
      .ok (create "chase" 3 80 (.chase { color := Chase.defaultColor, count := 2 }) :
        Machine Rat (Builtin Rat)) := by rfl
  exact ⟨_, hf, hm, (frames_follow_essentials hf hm).2.1 _ _ (by rfl)⟩

end Machine
end LedStrip
