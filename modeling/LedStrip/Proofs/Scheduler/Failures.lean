import LedStrip.Proofs.Effect.Lifecycle
import LedStrip.Proofs.Scheduler.Clockwork

/-!
# Runs in which ticks fail

Over a history, the recorded error is the one of the latest failing tick since the machine was last
started or resumed (`lastError_run`), each receiver gets the errors of the ticks that failed under
`propagate` while it listened (`errorsTo_during`, `errorsTo_after`), and after a halt no tick happens
until the machine is revived (`revived_of_tick`).  Together they make `failures_by_policy`.
-/

namespace LedStrip.Scheduler.History

variable {R σ : Type}

/-! ### One failing tick -/

section OneFailure

variable [Scalar R] [Effect R σ] {h : History R σ} {a : Step R} {e : EffectError}

/-- A failing tick puts no frame on the strip, and sends none. -/
theorem strip_of_failure (hs : h.Sound) (hf : h.failure? a = some e) :
    (h.step a).scheduler.leds = h.scheduler.leds ∧
      (h.step a).scheduler.speed = h.scheduler.speed ∧
      ∀ id, (h.step a).scheduler.received id = h.scheduler.received id := by
  obtain ⟨t, hg, hr, he, hstep⟩ := hs.fire_of_failure hf
  have hleds : h.scheduler.machine.tick.2.leds = h.scheduler.machine.leds :=
    congrArg Machine.Snapshot.leds (Machine.snapshot_tick_of_ne fun ht => by cases he.symm.trans ht)
  have hspeed : h.scheduler.machine.tick.2.speed = h.scheduler.machine.speed :=
    Machine.speed_tick h.scheduler.machine
  rw [hstep]
  rcases hp : h.scheduler.policy with _ | _ | _
  · show ((h.scheduler.fire t).leds = _ ∧ (h.scheduler.fire t).speed = _ ∧
      ∀ id, (h.scheduler.fire t).received id = _)
    rw [fire_of_error_halt hr hg hp he]
    exact ⟨hleds, hspeed, received_of_outbox_push (e := .status _) rfl rfl⟩
  · show ((h.scheduler.fire t).leds = _ ∧ (h.scheduler.fire t).speed = _ ∧
      ∀ id, (h.scheduler.fire t).received id = _)
    rw [fire_of_error_skip hg hp he]
    exact ⟨hleds, hspeed, fun _ => rfl⟩
  · show ((h.scheduler.fire t).leds = _ ∧ (h.scheduler.fire t).speed = _ ∧
      ∀ id, (h.scheduler.fire t).received id = _)
    obtain ⟨receiver, outbox, hsend, ho⟩ := sendError_eq h.scheduler e
    rw [fire_of_error_propagate hg hp he, hsend]
    refine ⟨hleds, hspeed, fun id => ?_⟩
    rcases ho with ho | ⟨r, ho⟩
    · exact received_of_outbox_eq ho id
    · exact received_of_outbox_push ho rfl id

/-- A failing tick under `halt` leaves the machine paused without a timer, and says so once. -/
theorem halted_of_failure (hs : h.Sound) (hf : h.failure? a = some e)
    (hp : h.scheduler.policy = .halt) :
    (h.step a).scheduler.status = .paused ∧ (h.step a).scheduler.timer = none ∧
      (h.step a).scheduler.outbox = h.scheduler.outbox.push (.status .paused) := by
  obtain ⟨t, hg, hr, he, hstep⟩ := hs.fire_of_failure hf
  rw [hstep]
  show (h.scheduler.fire t).status = _ ∧ (h.scheduler.fire t).timer = _ ∧
    (h.scheduler.fire t).outbox = _
  rw [fire_of_error_halt hr hg hp he]
  exact ⟨rfl, rfl, rfl⟩

/-- A failing tick under another policy leaves the clockwork as any frame would have. -/
theorem sameClockwork_of_failure (hs : h.Sound) (hf : h.failure? a = some e)
    (hp : h.scheduler.policy ≠ .halt) (f : Frame) :
    SameClockwork (h.step a).scheduler (h.scheduler.firedWith f) := by
  obtain ⟨t, hg, hr, he, hstep⟩ := hs.fire_of_failure hf
  rw [hstep]
  show SameClockwork (h.scheduler.fire t) _
  rcases hpol : h.scheduler.policy with _ | _ | _
  · exact absurd hpol hp
  · rw [fire_of_error_skip hg hpol he]
    exact ⟨rfl, rfl, rfl, rfl, rfl⟩
  · obtain ⟨receiver, outbox, hsend, -⟩ := sendError_eq h.scheduler e
    rw [fire_of_error_propagate hg hpol he, hsend]
    exact ⟨rfl, rfl, rfl, rfl, rfl⟩

end OneFailure

/-! ### The recorded error -/

section Recorded

variable [Scalar R] [Effect R σ]

/-- Steps none of which fails, starts or resumes. -/
def Calm (h : History R σ) : List (Step R) → Prop
  | [] => True
  | a :: steps => h.failure? a = none ∧ ¬ h.Revives a ∧ (h.step a).Calm steps

/-- The latest tick that failed since the machine was last started or resumed failed with `e`. -/
def LatestFailure (h : History R σ) (steps : List (Step R)) (e : EffectError) : Prop :=
  ∃ before a after, steps = before ++ a :: after ∧ (h.run before).failure? a = some e ∧
    ((h.run before).step a).Calm after

theorem calm_concat (h : History R σ) (steps : List (Step R)) (a : Step R) :
    h.Calm (steps ++ [a]) ↔
      h.Calm steps ∧ (h.run steps).failure? a = none ∧ ¬ (h.run steps).Revives a := by
  induction steps generalizing h with
  | nil => simp [Calm]
  | cons b steps ih => simp only [List.cons_append, Calm, ih, run_cons, and_assoc]

theorem latestFailure_concat (h : History R σ) (steps : List (Step R)) (a : Step R)
    (e : EffectError) : h.LatestFailure (steps ++ [a]) e ↔
      (h.run steps).failure? a = some e ∨ (h.LatestFailure steps e ∧
        (h.run steps).failure? a = none ∧ ¬ (h.run steps).Revives a) := by
  constructor
  · rintro ⟨before, b, after, hsplit, hf, hcalm⟩
    rcases List.eq_nil_or_concat after with rfl | ⟨after, c, rfl⟩
    · obtain ⟨rfl, hab⟩ := List.append_inj' hsplit rfl
      cases hab
      exact .inl hf
    · rw [List.concat_eq_append] at hsplit hcalm
      rw [← List.cons_append, ← List.append_assoc] at hsplit
      obtain ⟨rfl, hab⟩ := List.append_inj' hsplit rfl
      cases hab
      obtain ⟨hcalm, hlast⟩ := (calm_concat _ after a).mp hcalm
      rw [run_append, run_cons]
      exact .inr ⟨⟨before, b, after, rfl, hf, hcalm⟩, hlast⟩
  · rintro (hf | ⟨⟨before, b, after, rfl, hf, hcalm⟩, hlast⟩)
    · exact ⟨steps, a, [], rfl, hf, trivial⟩
    · refine ⟨before, b, after ++ [a], by simp, hf, (calm_concat _ after a).mpr ⟨hcalm, ?_⟩⟩
      rwa [run_append, run_cons] at hlast

/-- **The recorded error** is the one of the latest failing tick since the last start or resume. -/
theorem lastError_run {m : Machine R σ} (hm : m.status = .idle) (policy : TickPolicy)
    (steps : List (Step R)) (e : EffectError) :
    ((init m policy).run steps).scheduler.lastError = some e ↔
      (init m policy).LatestFailure steps e := by
  induction steps using List.reverseRecOn with
  | nil =>
    refine ⟨fun h => (nomatch h), ?_⟩
    rintro ⟨before, a, after, hsplit, -⟩
    exact absurd hsplit (by simp)
  | append_singleton steps a ih =>
    have hs : ((init m policy).run steps).Sound := (sound_init hm policy).run steps
    rw [run_append, run_cons, run_nil, latestFailure_concat]
    cases hf : ((init m policy).run steps).failure? a with
    | some e' =>
      rw [lastError_of_failure hs hf]
      simp
    | none =>
      by_cases ha : ((init m policy).run steps).Revives a
      · rw [lastError_of_revives ha]
        simp [ha]
      · rw [lastError_of_calm hs hf ha, ih]
        simp [ha]

end Recorded

/-! ### Receivers -/

section Receivers

variable [Scalar R] [Effect R σ] {h : History R σ}

/-- The errors of the ticks that fail under `propagate`, in order. -/
def propagated (h : History R σ) : List (Step R) → List EffectError
  | [] => []
  | a :: steps =>
    (if h.scheduler.policy = .propagate then (h.failure? a).toList else []) ++
      (h.step a).propagated steps

/-- While it listens, a receiver gets the errors that are propagated. -/
theorem errorsTo_run (hs : h.Sound) {r : Nat} (hr : h.scheduler.Listening r)
    {steps : List (Step R)} (htake : .op .takeErrors ∉ steps)
    (hdrop : .op (.dropReceiver r) ∉ steps) :
    (h.run steps).scheduler.Listening r ∧
      (h.run steps).scheduler.errorsTo r = h.scheduler.errorsTo r ++ h.propagated steps := by
  induction steps generalizing h with
  | nil => exact ⟨hr, (List.append_nil _).symm⟩
  | cons a steps ih =>
    obtain ⟨ht, htake⟩ := not_or.mp (mt List.mem_cons.mpr htake)
    obtain ⟨hd, hdrop⟩ := not_or.mp (mt List.mem_cons.mpr hdrop)
    have hr' := listening_step hs hr (Ne.symm ht) (Ne.symm hd)
    obtain ⟨hl, herrors⟩ := ih (hs.step a) hr' htake hdrop
    refine ⟨hl, ?_⟩
    rw [run_cons, herrors, errorsTo_step hs a r, propagated, List.append_assoc]
    simp only [hr, and_true]

/-- Once it does not listen any more, it gets nothing. -/
theorem errorsTo_run_of_deaf (hs : h.Sound) {r : Nat} (hr : ¬ h.scheduler.Listening r)
    (hlt : r < h.scheduler.nextReceiver) (steps : List (Step R)) :
    (h.run steps).scheduler.errorsTo r = h.scheduler.errorsTo r := by
  induction steps generalizing h with
  | nil => rfl
  | cons a steps ih =>
    obtain ⟨hr', hlt'⟩ := deaf_step hs a hr hlt
    rw [run_cons, ih (hs.step a) hr' hlt', errorsTo_step hs a r]
    simp [hr]

/-- Who listens was taken, and a receiver that was not taken yet got nothing. -/
structure Issued (s : Scheduler R σ) : Prop where
  listening : ∀ r, s.Listening r → r < s.nextReceiver
  silent : ∀ r, s.nextReceiver ≤ r → s.errorsTo r = []

theorem nextReceiver_le_step (hs : h.Sound) (a : Step R) :
    h.scheduler.nextReceiver ≤ (h.step a).scheduler.nextReceiver := by
  rcases receivers_step hs a with ⟨-, h1, -⟩ | ⟨_, -, h1, -⟩ | ⟨-, -, h1, -⟩ <;> omega

theorem nextReceiver_le_run (hs : h.Sound) (steps : List (Step R)) :
    h.scheduler.nextReceiver ≤ (h.run steps).scheduler.nextReceiver := by
  induction steps generalizing h with
  | nil => exact Nat.le_refl _
  | cons a steps ih => exact Nat.le_trans (nextReceiver_le_step hs a) (ih (hs.step a))

theorem mem_dropped_run (hs : h.Sound) {r : Nat} {steps : List (Step R)}
    (hr : r ∈ (h.run steps).scheduler.dropped) (h0 : r ∉ h.scheduler.dropped) :
    .op (.dropReceiver r) ∈ steps := by
  induction steps generalizing h with
  | nil => exact absurd hr h0
  | cons a steps ih =>
    by_cases ha : r ∈ (h.step a).scheduler.dropped
    · rcases receivers_step hs a with ⟨-, -, -, hd⟩ | ⟨r', rfl, -, -, hd⟩ | ⟨-, -, -, hd, -⟩
      · exact absurd (hd ▸ ha) h0
      · rw [hd] at ha
        rcases List.mem_cons.mp ha with rfl | ha
        · exact List.mem_cons_self
        · exact absurd ha h0
      · exact absurd (hd ▸ ha) h0
    · exact List.mem_cons_of_mem a (ih (hs.step a) hr ha)

theorem Issued.step (hs : h.Sound) (hi : Issued h.scheduler) (a : Step R) :
    Issued (h.step a).scheduler := by
  refine ⟨fun r hr => ?_, fun r hlt => ?_⟩
  · rcases receivers_step hs a with ⟨-, h1, h2, -⟩ | ⟨r', -, h1, h2, h3⟩ | ⟨-, -, h1, -, hl⟩
    · have := Option.some.inj (h2.symm.trans hr.1)
      omega
    · have hr' : h.scheduler.Listening r :=
        ⟨h2.symm.trans hr.1, fun hm => hr.2 (h3 ▸ List.mem_cons_of_mem r' hm)⟩
      exact h1 ▸ hi.listening r hr'
    · exact h1 ▸ hi.listening r ((hl r).mp hr)
  · have hle : h.scheduler.nextReceiver ≤ r := Nat.le_trans (nextReceiver_le_step hs a) hlt
    have hno : ¬ h.scheduler.Listening r := fun hl => by
      have := hi.listening r hl
      omega
    rw [errorsTo_step hs a r, hi.silent r hle]
    simp [hno]

theorem Issued.run (hs : h.Sound) (hi : Issued h.scheduler) (steps : List (Step R)) :
    Issued (h.run steps).scheduler := by
  induction steps generalizing h with
  | nil => exact hi
  | cons a steps ih => exact ih (hs.step a) (hi.step hs a)

section Taken

variable {m : Machine R σ} (hm : m.status = .idle) (policy : TickPolicy)
include hm

/-- A receiver that was just taken listens and got nothing yet, unless it was dropped beforehand. -/
theorem listening_of_taken (before : List (Step R))
    (hno : .op (.dropReceiver ((init m policy).run before).scheduler.takeErrors.1) ∉ before) :
    let taken := ((init m policy).run before).step (.op .takeErrors)
    let r := ((init m policy).run before).scheduler.takeErrors.1
    taken.scheduler.Listening r ∧ taken.scheduler.errorsTo r = [] := by
  intro taken r
  have hs : ((init m policy).run before).Sound := (sound_init hm policy).run before
  have hi : Issued (init m policy).scheduler := ⟨fun r hr => (nomatch hr.1), fun _ _ => rfl⟩
  have hdropped : r ∉ ((init m policy).run before).scheduler.dropped := fun hr =>
    hno (mem_dropped_run (sound_init hm policy) hr (fun h => (nomatch h)))
  refine ⟨⟨rfl, hdropped⟩, ?_⟩
  exact (Issued.run (sound_init hm policy) hi before).silent r (Nat.le_refl _)

/-- **A receiver gets the errors that are propagated while it listens**, each once and in order. -/
theorem errorsTo_during (before : List (Step R)) {during : List (Step R)}
    (hno : .op (.dropReceiver ((init m policy).run before).scheduler.takeErrors.1) ∉
      before ++ during)
    (htake : .op .takeErrors ∉ during) :
    let taken := ((init m policy).run before).step (.op .takeErrors)
    let r := ((init m policy).run before).scheduler.takeErrors.1
    (taken.run during).scheduler.Listening r ∧
      (taken.run during).scheduler.errorsTo r = taken.propagated during := by
  intro taken r
  obtain ⟨hno, hno'⟩ := not_or.mp (mt List.mem_append.mpr hno)
  obtain ⟨hl, hnothing⟩ := listening_of_taken hm policy before hno
  have hs : taken.Sound := ((sound_init hm policy).run before).step _
  have hrun := errorsTo_run hs hl htake hno'
  rw [hnothing, List.nil_append] at hrun
  exact hrun

/-- Once another receiver is taken or this one is dropped, it gets nothing more. -/
theorem errorsTo_after (before : List (Step R)) {during : List (Step R)} {last : Step R}
    (hlast : last = .op .takeErrors ∨
      last = .op (.dropReceiver ((init m policy).run before).scheduler.takeErrors.1))
    (after : List (Step R)) :
    let taken := ((init m policy).run before).step (.op .takeErrors)
    let r := ((init m policy).run before).scheduler.takeErrors.1
    (((taken.run during).step last).run after).scheduler.errorsTo r =
      (taken.run during).scheduler.errorsTo r := by
  intro taken r
  have hs : (taken.run during).Sound := (((sound_init hm policy).run before).step _).run during
  have hlt : r < (taken.run during).scheduler.nextReceiver :=
    nextReceiver_le_run (h := taken) (((sound_init hm policy).run before).step _) during
  have hdeaf : ¬ ((taken.run during).step last).scheduler.Listening r ∧
      r < ((taken.run during).step last).scheduler.nextReceiver := by
    rcases hlast with rfl | rfl
    · refine ⟨fun hl => ?_, Nat.lt_succ_of_lt hlt⟩
      have : (taken.run during).scheduler.nextReceiver = r := Option.some.inj hl.1
      omega
    · exact ⟨fun hl => hl.2 List.mem_cons_self, hlt⟩
  rw [errorsTo_run_of_deaf (hs.step last) hdeaf.1 hdeaf.2 after, errorsTo_step hs last r]
  rcases hlast with rfl | rfl <;> simp [failure?]

end Taken

end Receivers

/-! ### After a halt -/

section Revival

variable [Scalar R] [Effect R σ] {h : History R σ}

/-- In the course of some steps the machine was resumed, or stopped and then started, and no tick
happened before that. -/
def Revived (h : History R σ) (steps : List (Step R)) : Prop :=
  ∃ before op after, steps = before ++ .op op :: after ∧
    .tick ∉ h.calls (before ++ [.op op]) ∧
    (op.Resumes (h.run before).scheduler ∨
      .op .stop ∈ before ∧ op.Starts (h.run before).scheduler)

theorem calls_concat (h : History R σ) (steps : List (Step R)) (a : Step R) :
    h.calls (steps ++ [a]) = h.calls steps ++ (h.run steps).stepCalls a := by
  induction steps generalizing h with
  | nil => exact (List.append_nil _).trans (List.nil_append _).symm
  | cons b steps ih => rw [List.cons_append, calls, calls, ih, run_cons, List.append_assoc]

theorem Revived.concat {steps : List (Step R)} (hr : h.Revived steps) (a : Step R) :
    h.Revived (steps ++ [a]) := by
  obtain ⟨before, op, after, rfl, hticks, hop⟩ := hr
  exact ⟨before, op, after ++ [a], by simp, hticks, hop⟩

/-- An operation that neither starts nor resumes a machine leaves it where it was, or stops it. -/
theorem status_apply_of_not_running {s : Scheduler R σ} (hr : s.status ≠ .running) {op : Op R}
    (hstarts : ¬ op.Starts s) (hresumes : ¬ op.Resumes s) :
    (s.apply op).status = s.status ∨ op = .stop ∧ (s.apply op).status = .idle := by
  have hchange : Change s op (s.apply op) := change_apply s op
  generalize s.apply op = s' at hchange ⊢
  cases hchange with
  | run hop hs => exact absurd (starts_or_resumes_iff.mpr ⟨hop, hs⟩) (not_or.mpr ⟨hstarts, hresumes⟩)
  | pause hop hc => exact absurd (hc.running hop) hr
  | stop => exact .inr ⟨rfl, rfl⟩
  | adjust hop | reschedule hop => exact .inl (status_setting hop s.machine)
  | _ => exact .inl rfl

/-- While a machine that was paused is not revived, it makes no tick and does not run. -/
theorem revived_or_still (hs : h.Sound) (hp : h.scheduler.status = .paused)
    (steps : List (Step R)) : h.Revived steps ∨
      (.tick ∉ h.calls steps ∧ (h.run steps).scheduler.status ≠ .running ∧
        ((h.run steps).scheduler.status = .idle → .op .stop ∈ steps)) := by
  induction steps using List.reverseRecOn with
  | nil =>
    refine .inr ⟨List.not_mem_nil, ?_, ?_⟩
    · rw [run_nil, hp]
      decide
    · rw [run_nil, hp]
      exact fun h => (nomatch h)
  | append_singleton steps a ih =>
    rcases ih with hrev | ⟨hticks, hr, hstop⟩
    · exact .inl (hrev.concat a)
    · have hs' : (h.run steps).Sound := hs.run steps
      have hcalls (hno : .tick ∉ (h.run steps).stepCalls a) : .tick ∉ h.calls (steps ++ [a]) := by
        rw [calls_concat]
        exact fun hm => (List.mem_append.mp hm).elim hticks hno
      have still (hno : .tick ∉ (h.run steps).stepCalls a)
          (hst : ((h.run steps).step a).scheduler.status = (h.run steps).scheduler.status) :
          h.Revived (steps ++ [a]) ∨ (.tick ∉ h.calls (steps ++ [a]) ∧
            (h.run (steps ++ [a])).scheduler.status ≠ .running ∧
            ((h.run (steps ++ [a])).scheduler.status = .idle → .op .stop ∈ steps ++ [a])) := by
        rw [run_append, run_cons, run_nil, hst]
        exact .inr ⟨hcalls hno, hr, fun hi => List.mem_append_left _ (hstop hi)⟩
      cases a with
      | op op =>
        have hno : .tick ∉ (h.run steps).stepCalls (.op op) := tick_notMem_opCalls _ op
        by_cases hresumes : op.Resumes (h.run steps).scheduler
        · exact .inl ⟨steps, op, [], rfl, hcalls hno, .inl hresumes⟩
        · by_cases hstarts : op.Starts (h.run steps).scheduler
          · exact .inl ⟨steps, op, [], rfl, hcalls hno, .inr ⟨hstop hstarts.status, hstarts⟩⟩
          · rcases status_apply_of_not_running hr hstarts hresumes with hst | ⟨rfl, hst⟩
            · exact still hno hst
            · refine .inr ⟨hcalls hno, ?_, fun _ => by simp⟩
              rw [run_append, run_cons, run_nil]
              show ((h.run steps).scheduler.apply .stop).status ≠ .running
              rw [hst]
              decide
      | elapse ms => exact still List.not_mem_nil rfl
      | wake i =>
        rcases hs'.wake_outcomes i with ⟨hstep, -, hnone⟩ | ⟨t, -, hrun, -⟩
        · exact still (by rw [hnone]; exact List.not_mem_nil) (by rw [hstep])
        · exact absurd hrun hr

end Revival

/-- **What a failing tick does under each policy.**  For a scheduler that begins with an idle
machine:

* a failing tick puts no frame on the strip, sends none, and leaves the interval alone;
* under `halt` it leaves the machine paused without a timer and says so once, and no tick happens
  before the machine is resumed, or stopped and then started;
* under another policy status, timer and all later ticks are what they would be had the tick had a
  frame (`firedWith`, which is what a tick that succeeds does);
* the recorded error is the one of the latest failing tick since the last start or resume;
* a receiver gets the errors of the ticks that fail under `propagate` from when it was taken until
  the next is taken or it is dropped, each once and in order, and nothing else; and no two receivers
  have the same number. -/
theorem failures_by_policy [Scalar R] [Effect R σ] (m : Machine R σ) (hm : m.status = .idle)
    (policy : TickPolicy) :
    let start := init m policy
    (∀ steps a e,
      let h := start.run steps
      let s := h.scheduler
      let s' := (h.step a).scheduler
      h.failure? a = some e →
        (s'.leds = s.leds ∧ s'.speed = s.speed ∧ ∀ id, s'.received id = s.received id) ∧
          (s.policy = .halt →
            (s'.status = .paused ∧ s'.timer = none ∧ s'.outbox = s.outbox.push (.status .paused)) ∧
              ∀ later, .tick ∈ (h.step a).calls later → (h.step a).Revived later) ∧
          (s.policy ≠ .halt → ∀ f,
            s'.status = (s.firedWith f).status ∧ s'.timer = (s.firedWith f).timer ∧
              ∀ later, s'.ticks later = (s.firedWith f).ticks later)) ∧
      (∀ steps i t,
        let h := start.run steps
        let s := h.scheduler
        h.timers[i]? = some t → t.generation = s.generation → s.machine.tick.1 = .ok true →
          (h.step (.wake i)).scheduler = s.firedWith s.machine.tick.2.leds) ∧
      (∀ steps e, (start.run steps).scheduler.lastError = some e ↔ start.LatestFailure steps e) ∧
      ∀ before during,
        let taken := (start.run before).step (.op .takeErrors)
        let r := (start.run before).scheduler.takeErrors.1
        r < (taken.run during).scheduler.takeErrors.1 ∧
          (.op (.dropReceiver r) ∉ before ++ during → .op .takeErrors ∉ during →
            (taken.run during).scheduler.errorsTo r = taken.propagated during ∧
              ∀ last after, last = .op .takeErrors ∨ last = .op (.dropReceiver r) →
                (((taken.run during).step last).run after).scheduler.errorsTo r =
                  taken.propagated during) := by
  intro start
  have hs : start.Sound := sound_init hm policy
  refine ⟨?_, ?_, lastError_run hm policy, fun before during => ?_⟩
  · intro steps a e h s s' hf
    refine ⟨strip_of_failure (hs.run steps) hf, fun hp => ?_, fun hp f => ?_⟩
    · have hhalted := halted_of_failure (hs.run steps) hf hp
      refine ⟨hhalted, fun later htick => ?_⟩
      rcases revived_or_still ((hs.run steps).step a) hhalted.1 later with hrev | ⟨hno, -⟩
      · exact hrev
      · exact absurd htick hno
    · have hsame := sameClockwork_of_failure (hs.run steps) hf hp f
      exact ⟨hsame.status, hsame.timer, hsame.ticks_eq⟩
  · intro steps i t h s hi hg ht
    rw [step_wake hi, wakeUp_of_current hg]
    exact fire_of_ok hg ht
  · intro taken r
    refine ⟨?_, fun hno htake => ?_⟩
    · exact nextReceiver_le_run (h := taken) ((hs.run before).step _) during
    · have hduring := (errorsTo_during hm policy before hno htake).2
      exact ⟨hduring, fun last after hlast =>
        (errorsTo_after hm policy before hlast after).trans hduring⟩

/-- Both failures of a faltering strip reach the receiver, and the later one is on record. -/
theorem faltering_errors_received :
    let taken := ((init Machine.faltering .propagate).run [.op .start]).step (.op .takeErrors)
    let during := [.wake 0, .wake 0, .wake 0]
    Machine.faltering.status = .idle ∧ .op (.dropReceiver 0) ∉ [.op .start] ++ during ∧
      .op .takeErrors ∉ during ∧
      (taken.run during).scheduler.errorsTo 0 =
        [.frameSize 6 1, Machine.Replay.refusal .tick] ∧
      (taken.run during).scheduler.lastError = some (Machine.Replay.refusal .tick) := by
  intro taken during
  have hdrop : .op (.dropReceiver 0) ∉ [.op .start] ++ during := by simp [during]
  have htake : .op .takeErrors ∉ during := by simp [during]
  obtain ⟨-, -, hlast, hreceivers⟩ := failures_by_policy Machine.faltering rfl .propagate
  have hpropagated : taken.propagated during =
      [.frameSize 6 1, Machine.Replay.refusal .tick] := by decide
  have hlatest : (init Machine.faltering .propagate).LatestFailure
      ([.op .start, .op .takeErrors] ++ during) (Machine.Replay.refusal .tick) :=
    ⟨[.op .start, .op .takeErrors, .wake 0, .wake 0], .wake 0, [], rfl, by decide, trivial⟩
  exact ⟨rfl, hdrop, htake, ((hreceivers [.op .start] during).2 hdrop htake).1.trans hpropagated,
    (hlast _ _).mpr hlatest⟩

end LedStrip.Scheduler.History
