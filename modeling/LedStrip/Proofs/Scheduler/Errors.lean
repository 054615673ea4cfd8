import LedStrip.Proofs.Scheduler.Frames

/-!
# Ticks that fail

What a failing tick does under each policy (`fire_of_error_halt`, `fire_of_error_skip`,
`fire_of_error_propagate`), and what a step means to the recorded error (`lastError_step`) and to a
receiver of errors (`errorsTo_step`).  Errors are sent to one receiver at a time: the one that was
taken last, while it listens.
-/

namespace LedStrip

/-- The error of a message to the receiver `r`. -/
def Event.errorFor? (r : Nat) (e : Event) : Option EffectError :=
  e.error?.bind fun p => if p.1 = r then some p.2 else none

/-- The error of the tick that a machine makes now, if it fails. -/
def Machine.tickError? {R σ : Type} [Effect R σ] (m : Machine R σ) : Option EffectError :=
  match m.tick.1 with
  | .error e => some e
  | .ok _ => none

namespace Scheduler

variable {R σ : Type}

/-- The errors that the receiver `r` was ever sent, in order. -/
def errorsTo (s : Scheduler R σ) (r : Nat) : List EffectError :=
  s.outbox.toList.filterMap (Event.errorFor? r)

/-- The receiver `r` is the one that was taken last, and it was not dropped. -/
def Listening (s : Scheduler R σ) (r : Nat) : Prop := s.receiver = some r ∧ r ∉ s.dropped

instance (s : Scheduler R σ) (r : Nat) : Decidable (s.Listening r) :=
  inferInstanceAs (Decidable (_ ∧ _))

/-- The operation starts an idle machine. -/
def Op.Starts (s : Scheduler R σ) : Op R → Prop
  | .start => s.status = .idle
  | _ => False

/-- The operation resumes a paused machine. -/
def Op.Resumes (s : Scheduler R σ) : Op R → Prop
  | .resume | .togglePause => s.status = .paused
  | _ => False

theorem Op.Starts.status {s : Scheduler R σ} {op : Op R} (h : op.Starts s) : s.status = .idle := by
  cases op with
  | start => exact h
  | _ => exact h.elim

theorem Op.Resumes.status {s : Scheduler R σ} {op : Op R} (h : op.Resumes s) :
    s.status = .paused := by
  cases op with
  | resume | togglePause => exact h
  | _ => exact h.elim

/-- Whether an operation takes or drops a receiver of errors. -/
def Op.isReception : Op R → Bool
  | .takeErrors | .dropReceiver _ => true
  | _ => false

/-! ### Operations -/

section Operations

variable {s s' : Scheduler R σ}

theorem errorsTo_of_outbox_push {e : Event} (h : s'.outbox = s.outbox.push e) (he : e.error? = none)
    (r : Nat) : s'.errorsTo r = s.errorsTo r := by
  unfold errorsTo
  rw [h, Array.toList_push, List.filterMap_append]
  simp [Event.errorFor?, he]

/-- Nobody is sent an error, and the receivers stay. -/
structure SameReceivers (s s' : Scheduler R σ) : Prop where
  receiver : s'.receiver = s.receiver
  nextReceiver : s'.nextReceiver = s.nextReceiver
  dropped : s'.dropped = s.dropped
  errorsTo : ∀ r, s'.errorsTo r = s.errorsTo r

theorem SameReceivers.refl (s : Scheduler R σ) : SameReceivers s s := ⟨rfl, rfl, rfl, fun _ => rfl⟩

theorem SameReceivers.listening_iff (h : SameReceivers s s') (r : Nat) :
    s'.Listening r ↔ s.Listening r := by
  unfold Listening
  rw [h.receiver, h.dropped]

variable [Scalar R] [Effect R σ]

/-- To start or to resume is to be granted a request to run. -/
theorem starts_or_resumes_iff {op : Op R} :
    op.Starts s ∨ op.Resumes s ↔ op.isRequest = true ∧ op.Sets s := by
  cases op <;> simp [Op.Starts, Op.Resumes, Op.isRequest, Op.Sets]

/-- An operation other than a start or a resume leaves the recorded error alone. -/
theorem lastError_apply {op : Op R} (h : ¬ (op.Starts s ∨ op.Resumes s)) :
    (s.apply op).lastError = s.lastError := by
  have hchange : Change s op (s.apply op) := change_apply s op
  generalize s.apply op = s' at hchange ⊢
  cases hchange with
  | run hop hs => exact absurd (starts_or_resumes_iff.mpr ⟨hop, hs⟩) h
  | _ => rfl

/-- A start or a resume clears the recorded error. -/
theorem lastError_apply_of_starts {op : Op R} (h : op.Starts s ∨ op.Resumes s) :
    (s.apply op).lastError = none := by
  obtain ⟨hop, hs⟩ := starts_or_resumes_iff.mp h
  rw [apply_of_run hop hs]
  rfl

/-- Only `takeErrors` and `dropReceiver` change who receives errors. -/
theorem apply_receivers {op : Op R} (h : op.isReception = false) : SameReceivers s (s.apply op) := by
  have told {t : Scheduler R σ} {st : Status} (h1 : t.receiver = s.receiver)
      (h2 : t.nextReceiver = s.nextReceiver) (h3 : t.dropped = s.dropped)
      (h4 : t.outbox = s.outbox.push (.status st)) : SameReceivers s t :=
    ⟨h1, h2, h3, errorsTo_of_outbox_push h4 rfl⟩
  have hchange : Change s op (s.apply op) := change_apply s op
  generalize s.apply op = s' at hchange ⊢
  cases hchange with
  | run | pause | stop => exact told rfl rfl rfl rfl
  | takeErrors | dropReceiver => cases h
  | _ => exact ⟨rfl, rfl, rfl, fun _ => rfl⟩

/-- An operation sends nobody an error. -/
theorem errorsTo_apply (s : Scheduler R σ) (op : Op R) (r : Nat) :
    (s.apply op).errorsTo r = s.errorsTo r := by
  rcases h : op.isReception with _ | _
  · exact (apply_receivers h).errorsTo r
  · cases op with
    | takeErrors => rfl
    | dropReceiver r' => rfl
    | _ => cases h

end Operations

/-! ### Sending an error -/

section Sending

variable {s : Scheduler R σ} {r : Nat}

theorem sendError_of_none (h : s.receiver = none) (e : EffectError) : s.sendError e = s := by
  unfold sendError
  rw [h]

theorem sendError_of_dropped (h : s.receiver = some r) (hd : r ∈ s.dropped) (e : EffectError) :
    s.sendError e = { s with receiver := none } := by
  unfold sendError
  rw [h]
  exact if_pos hd

theorem sendError_of_listening (h : s.Listening r) (e : EffectError) :
    s.sendError e = { s with outbox := s.outbox.push (.error r e) } := by
  unfold sendError
  rw [h.1]
  exact if_neg h.2

/-- Either somebody listens, or an error gets lost and with it whoever does not listen any more. -/
theorem listening_or_lost (s : Scheduler R σ) (e : EffectError) :
    (∃ r, s.Listening r) ∨
      (∀ r, ¬ s.Listening r) ∧ s.sendError e = { s with receiver := none } := by
  rcases hr : s.receiver with _ | r
  · refine .inr ⟨fun r h => ?_, ?_⟩
    · cases hr.symm.trans h.1
    · rw [sendError_of_none hr, ← hr]
  · by_cases hd : r ∈ s.dropped
    · refine .inr ⟨fun r' h => ?_, sendError_of_dropped hr hd e⟩
      cases hr.symm.trans h.1
      exact h.2 hd
    · exact .inl ⟨r, hr, hd⟩

/-- Sending an error does not depend on the machine. -/
theorem sendError_machine (s : Scheduler R σ) (m : Machine R σ) (e : EffectError) :
    { s with machine := m }.sendError e = { s.sendError e with machine := m } := by
  rcases listening_or_lost s e with ⟨r, hr⟩ | ⟨hno, hs⟩
  · rw [sendError_of_listening hr, sendError_of_listening (s := { s with machine := m }) hr]
  · rcases listening_or_lost { s with machine := m } e with ⟨r, hr⟩ | ⟨-, hs'⟩
    · exact absurd hr (hno r)
    · rw [hs, hs']

/-- An error is sent to a receiver that listens and to no other. -/
theorem errorsTo_sendError (s : Scheduler R σ) (e : EffectError) (r : Nat) :
    (s.sendError e).errorsTo r = s.errorsTo r ++ if s.Listening r then [e] else [] := by
  rcases listening_or_lost s e with ⟨r', hr'⟩ | ⟨hno, hs⟩
  · rw [sendError_of_listening hr']
    unfold errorsTo
    rw [Array.toList_push, List.filterMap_append]
    by_cases hrr : r' = r
    · subst hrr
      simp [Event.errorFor?, Event.error?, hr']
    · have hno : ¬ s.Listening r := fun h => hrr (Option.some.inj (hr'.1.symm.trans h.1))
      simp [Event.errorFor?, Event.error?, hrr, hno]
  · rw [hs, if_neg (hno r), List.append_nil]
    rfl

/-- Whoever listens goes on listening while errors are sent, and nobody else begins to. -/
theorem listening_sendError (s : Scheduler R σ) (e : EffectError) (r : Nat) :
    (s.sendError e).Listening r ↔ s.Listening r := by
  rcases listening_or_lost s e with ⟨r', hr'⟩ | ⟨hno, hs⟩
  · rw [sendError_of_listening hr']
    rfl
  · rw [hs]
    exact ⟨fun h => (nomatch h.1), fun h => absurd h (hno r)⟩

end Sending

/-! ### Ticks -/

section Ticks

variable [Effect R σ] {s : Scheduler R σ} {t : Timer} {e : EffectError}

/-- The scheduler after the current timer fired and its tick had the frame `f`. -/
def firedWith (s : Scheduler R σ) (f : Frame) : Scheduler R σ :=
  { { s with machine := { s.machine.tick.2 with leds := f } }.deliverFrame with
    timer := s.timer.map fun t => { t with due := some (s.now + t.period) } }

/-- A tick that succeeds leaves the scheduler as `firedWith` says. -/
theorem fire_of_ok (hg : t.generation = s.generation) (ht : s.machine.tick.1 = .ok true) :
    s.fire t = s.firedWith s.machine.tick.2.leds := by
  rw [fire_eq hg, runTick_of_ok (m := s.machine.tick.2) (Prod.ext ht rfl)]
  rfl

/-- A failing tick under `halt` cancels the timer, pauses the machine and says so. -/
theorem fire_of_error_halt (hr : s.status = .running) (hg : t.generation = s.generation)
    (hp : s.policy = .halt) (he : s.machine.tick.1 = .error e) : s.fire t =
      { s.cancelTimer with
        machine := { s.machine.tick.2 with status := .paused },
        lastError := some e }.notifyStatus := by
  obtain ⟨e', he', h⟩ := fire_of_halts hr ⟨hp, e, he⟩ hg
  cases he.symm.trans he'
  exact h

omit [Effect R σ] in
theorem onTickError_of_skip (h : s.policy = .skipFrame) (e : EffectError) :
    s.onTickError e = (true, { s with lastError := some e }) := by
  unfold onTickError; rw [h]

omit [Effect R σ] in
theorem onTickError_of_propagate (h : s.policy = .propagate) (e : EffectError) :
    s.onTickError e = (true, { s.sendError e with lastError := some e }) := by
  unfold onTickError; rw [h]

/-- A failing tick under `skipFrame` is recorded, and the timer goes on. -/
theorem fire_of_error_skip (hg : t.generation = s.generation) (hp : s.policy = .skipFrame)
    (he : s.machine.tick.1 = .error e) : s.fire t =
      { s with machine := s.machine.tick.2, lastError := some e,
               timer := s.timer.map fun t => { t with due := some (s.now + t.period) } } := by
  rw [fire_eq hg, runTick_of_error (m := s.machine.tick.2) (Prod.ext he rfl),
    onTickError_of_skip (s := { s with machine := s.machine.tick.2 }) hp]
  rfl

/-- A failing tick under `propagate` is recorded and sent, and the timer goes on. -/
theorem fire_of_error_propagate (hg : t.generation = s.generation) (hp : s.policy = .propagate)
    (he : s.machine.tick.1 = .error e) : s.fire t =
      { s.sendError e with
        machine := s.machine.tick.2, lastError := some e,
        timer := s.timer.map fun t => { t with due := some (s.now + t.period) } } := by
  obtain ⟨receiver, outbox, hs, -⟩ := sendError_eq s e
  rw [fire_eq hg, runTick_of_error (m := s.machine.tick.2) (Prod.ext he rfl),
    onTickError_of_propagate (s := { s with machine := s.machine.tick.2 }) hp,
    sendError_machine s, hs]
  rfl

/-- A tick that succeeds sends nobody an error and records none. -/
theorem fire_of_ok_receivers (hg : t.generation = s.generation)
    (ht : s.machine.tick.1 = .ok true) :
    SameReceivers s (s.fire t) ∧ (s.fire t).lastError = s.lastError := by
  rw [fire_of_ok hg ht]
  refine ⟨⟨rfl, rfl, rfl, fun r => ?_⟩, rfl⟩
  unfold errorsTo firedWith deliverFrame
  rw [List.foldl_push_eq_append, Array.toList_append, List.filterMap_append]
  have hnone : (s.subscribers.map fun id => Event.frame id s.machine.tick.2.leds).filterMap
      (Event.errorFor? r) = [] :=
    List.filterMap_eq_nil_iff.mpr (by simp [Event.errorFor?, Event.error?])
  exact (congrArg _ hnone).trans (List.append_nil _)

/-- A tick that fails is recorded whatever the policy. -/
theorem fire_of_error_lastError (hr : s.status = .running) (hg : t.generation = s.generation)
    (he : s.machine.tick.1 = .error e) : (s.fire t).lastError = some e := by
  rcases hp : s.policy with _ | _ | _
  · rw [fire_of_error_halt hr hg hp he]; rfl
  · rw [fire_of_error_skip hg hp he]
  · rw [fire_of_error_propagate hg hp he]

/-- A tick that fails is sent to the receiver that listens under `propagate`, and to nobody under
another policy. -/
theorem fire_of_error_receivers (hr : s.status = .running) (hg : t.generation = s.generation)
    (he : s.machine.tick.1 = .error e) (r : Nat) :
    ((s.fire t).errorsTo r =
        s.errorsTo r ++ if s.policy = .propagate ∧ s.Listening r then [e] else []) ∧
      (s.fire t).nextReceiver = s.nextReceiver ∧ (s.fire t).dropped = s.dropped ∧
      ((s.fire t).Listening r ↔ s.Listening r) := by
  rcases hp : s.policy with _ | _ | _
  · rw [fire_of_error_halt hr hg hp he]
    refine ⟨?_, rfl, rfl, Iff.rfl⟩
    simpa using errorsTo_of_outbox_push (e := .status _) rfl rfl r
  · rw [fire_of_error_skip hg hp he]
    exact ⟨by simp [errorsTo], rfl, rfl, Iff.rfl⟩
  · obtain ⟨receiver, outbox, hs, -⟩ := sendError_eq s e
    have herrors := errorsTo_sendError s e r
    have hlisten := listening_sendError s e r
    rw [fire_of_error_propagate hg hp he]
    rw [hs] at herrors hlisten ⊢
    refine ⟨?_, rfl, rfl, hlisten⟩
    simp only [true_and]
    exact herrors

end Ticks

/-! ### Steps -/

namespace History

variable [Effect R σ] {h : History R σ}

/-- The error of the tick that a step makes, if it makes one and it fails. -/
def failure? (h : History R σ) : Step R → Option EffectError
  | .wake i =>
    match h.timers[i]? with
    | some t => if t.generation = h.scheduler.generation then h.scheduler.machine.tickError? else none
    | none => none
  | _ => none

omit [Effect R σ] in
/-- Whether a step starts or resumes the machine. -/
def Revives (h : History R σ) : Step R → Prop
  | .op op => op.Starts h.scheduler ∨ op.Resumes h.scheduler
  | _ => False

variable [Scalar R]

/-- **What a wake-up can lead to**: nothing, a tick that succeeds or a tick that fails. -/
theorem Sound.wake_outcomes (hs : h.Sound) (i : Nat) :
    (h.step (.wake i) = h ∧ h.failure? (.wake i) = none ∧ h.stepCalls (.wake i) = []) ∨
      ∃ t, t.generation = h.scheduler.generation ∧ h.scheduler.status = .running ∧
        h.step (.wake i) = h.goOn (h.scheduler.fire t) ∧
        (h.scheduler.machine.tick.1 = .ok true ∧ h.failure? (.wake i) = none ∨
          ∃ e, h.scheduler.machine.tick.1 = .error e ∧ h.failure? (.wake i) = some e) := by
  rcases hi : h.timers[i]? with _ | t
  · exact .inl ⟨step_wake_none hi, by simp only [failure?, hi], by simp only [stepCalls, hi]⟩
  · by_cases hg : t.generation = h.scheduler.generation
    · have hr := hs.running_of_current hi hg
      refine .inr ⟨t, hg, hr, by rw [step_wake hi, wakeUp_of_current hg], ?_⟩
      have hfail : h.failure? (.wake i) = h.scheduler.machine.tickError? := by
        simp only [failure?, hi, if_pos hg]
      rw [hfail]
      rcases Machine.tick_of_running hr with ⟨f, -, ht⟩ | ⟨e, ht⟩
      · exact .inl ⟨by rw [ht], by simp only [Machine.tickError?, ht]⟩
      · exact .inr ⟨e, by rw [ht], by simp only [Machine.tickError?, ht]⟩
    · exact .inl ⟨step_wake_of_stale hi hg, by simp only [failure?, hi, if_neg hg],
        stepCalls_of_stale hi hg⟩

/-- A step that fails is the firing of the current timer, and its tick fails. -/
theorem Sound.fire_of_failure (hs : h.Sound) {a : Step R} {e : EffectError}
    (hf : h.failure? a = some e) :
    ∃ t, t.generation = h.scheduler.generation ∧ h.scheduler.status = .running ∧
      h.scheduler.machine.tick.1 = .error e ∧ h.step a = h.goOn (h.scheduler.fire t) := by
  cases a with
  | op op => cases hf
  | elapse ms => cases hf
  | wake i =>
    rcases hs.wake_outcomes i with ⟨-, hno, -⟩ | ⟨t, hg, hr, hstep, ⟨-, hno⟩ | ⟨e', he, hf'⟩⟩
    · cases hno.symm.trans hf
    · cases hno.symm.trans hf
    · cases hf'.symm.trans hf
      exact ⟨t, hg, hr, he, hstep⟩

/-- A failing tick is recorded. -/
theorem lastError_of_failure (hs : h.Sound) {a : Step R} {e : EffectError}
    (hf : h.failure? a = some e) : (h.step a).scheduler.lastError = some e := by
  obtain ⟨t, hg, hr, he, hstep⟩ := hs.fire_of_failure hf
  rw [hstep]
  exact fire_of_error_lastError hr hg he

/-- A start or a resume clears the record. -/
theorem lastError_of_revives {a : Step R} (ha : h.Revives a) :
    (h.step a).scheduler.lastError = none := by
  cases a with
  | op op => exact lastError_apply_of_starts ha
  | elapse ms => exact ha.elim
  | wake i => exact ha.elim

/-- Nothing else touches the record. -/
theorem lastError_of_calm (hs : h.Sound) {a : Step R} (hf : h.failure? a = none)
    (ha : ¬ h.Revives a) : (h.step a).scheduler.lastError = h.scheduler.lastError := by
  cases a with
  | op op => exact lastError_apply ha
  | elapse ms => rfl
  | wake i =>
    rcases hs.wake_outcomes i with ⟨hstep, -⟩ | ⟨t, hg, -, hstep, ⟨ht, -⟩ | ⟨e, -, hf'⟩⟩
    · rw [hstep]
    · rw [hstep]
      exact (fire_of_ok_receivers hg ht).2
    · cases hf'.symm.trans hf

/-- **What a step sends to a receiver**: the error of its tick, if it fails under `propagate` and
the receiver listens. -/
theorem errorsTo_step (hs : h.Sound) (a : Step R) (r : Nat) :
    (h.step a).scheduler.errorsTo r = h.scheduler.errorsTo r ++
      if h.scheduler.policy = .propagate ∧ h.scheduler.Listening r then (h.failure? a).toList
      else [] := by
  have nothing (hf : h.failure? a = none) : h.scheduler.errorsTo r = h.scheduler.errorsTo r ++
      if h.scheduler.policy = .propagate ∧ h.scheduler.Listening r then (h.failure? a).toList
      else [] := by
    rw [hf, Option.toList_none, ite_self, List.append_nil]
  cases a with
  | op op => exact (errorsTo_apply h.scheduler op r).trans (nothing rfl)
  | elapse ms => exact nothing rfl
  | wake i =>
    rcases hs.wake_outcomes i with ⟨hstep, hf, -⟩ | ⟨t, hg, hr, hstep, ⟨ht, hf⟩ | ⟨e, he, hf⟩⟩
    · rw [hstep]
      exact nothing hf
    · rw [hstep]
      exact ((fire_of_ok_receivers hg ht).1.errorsTo r).trans (nothing hf)
    · rw [hstep, hf]
      exact (fire_of_error_receivers hr hg he r).1

/-- Who receives errors after a step: a receiver that is taken replaces the one before, and one that
is dropped is out for good. -/
theorem receivers_step (hs : h.Sound) (a : Step R) :
    (a = .op .takeErrors ∧ (h.step a).scheduler.nextReceiver = h.scheduler.nextReceiver + 1 ∧
        (h.step a).scheduler.receiver = some h.scheduler.nextReceiver ∧
        (h.step a).scheduler.dropped = h.scheduler.dropped) ∨
      (∃ r, a = .op (.dropReceiver r) ∧
        (h.step a).scheduler.nextReceiver = h.scheduler.nextReceiver ∧
        (h.step a).scheduler.receiver = h.scheduler.receiver ∧
        (h.step a).scheduler.dropped = r :: h.scheduler.dropped) ∨
      (a ≠ .op .takeErrors ∧ (∀ r, a ≠ .op (.dropReceiver r)) ∧
        (h.step a).scheduler.nextReceiver = h.scheduler.nextReceiver ∧
        (h.step a).scheduler.dropped = h.scheduler.dropped ∧
        ∀ r, (h.step a).scheduler.Listening r ↔ h.scheduler.Listening r) := by
  have same {s : Scheduler R σ} (hr : SameReceivers h.scheduler s) :
      s.nextReceiver = h.scheduler.nextReceiver ∧ s.dropped = h.scheduler.dropped ∧
        ∀ r, s.Listening r ↔ h.scheduler.Listening r :=
    ⟨hr.nextReceiver, hr.dropped, hr.listening_iff⟩
  cases a with
  | op op =>
    rcases hop : op.isReception with _ | _
    · refine .inr (.inr ⟨?_, ?_, same (apply_receivers hop)⟩)
      · rintro ⟨⟩
        cases hop
      · rintro r ⟨⟩
        cases hop
    · cases op with
      | takeErrors => exact .inl ⟨rfl, rfl, rfl, rfl⟩
      | dropReceiver r => exact .inr (.inl ⟨r, rfl, rfl, rfl, rfl⟩)
      | _ => cases hop
  | elapse ms => exact .inr (.inr ⟨nofun, nofun, rfl, rfl, fun _ => Iff.rfl⟩)
  | wake i =>
    refine .inr (.inr ⟨nofun, nofun, ?_⟩)
    rcases hs.wake_outcomes i with ⟨hstep, -⟩ | ⟨t, hg, hr, hstep, ⟨ht, -⟩ | ⟨e, he, -⟩⟩
    · rw [hstep]
      exact ⟨rfl, rfl, fun _ => Iff.rfl⟩
    · rw [hstep]
      exact same (fire_of_ok_receivers hg ht).1
    · rw [hstep]
      have hfire := fire_of_error_receivers hr hg he
      exact ⟨(hfire 0).2.1, (hfire 0).2.2.1, fun r => (hfire r).2.2.2⟩

/-- A receiver listens until another one is taken or it is dropped. -/
theorem listening_step (hs : h.Sound) {a : Step R} {r : Nat} (hr : h.scheduler.Listening r)
    (ht : a ≠ .op .takeErrors) (hd : a ≠ .op (.dropReceiver r)) :
    (h.step a).scheduler.Listening r := by
  rcases receivers_step hs a with ⟨ha, -⟩ | ⟨r', rfl, -, h2, h3⟩ | ⟨-, -, -, -, hl⟩
  · exact absurd ha ht
  · refine ⟨h2.trans hr.1, fun hm => ?_⟩
    rw [h3] at hm
    rcases List.mem_cons.mp hm with rfl | hm
    · exact hd rfl
    · exact hr.2 hm
  · exact (hl r).mpr hr

/-- A receiver that was taken and does not listen never will. -/
theorem deaf_step (hs : h.Sound) (a : Step R) {r : Nat} (hr : ¬ h.scheduler.Listening r)
    (hlt : r < h.scheduler.nextReceiver) :
    ¬ (h.step a).scheduler.Listening r ∧ r < (h.step a).scheduler.nextReceiver := by
  rcases receivers_step hs a with ⟨-, h1, h2, -⟩ | ⟨r', -, h1, h2, h3⟩ | ⟨-, -, h1, -, hl⟩
  · refine ⟨fun hl => ?_, by omega⟩
    have := Option.some.inj (h2.symm.trans hl.1)
    omega
  · refine ⟨fun hl => hr ⟨h2.symm.trans hl.1, fun hm => hl.2 ?_⟩, by omega⟩
    rw [h3]
    exact List.mem_cons_of_mem r' hm
  · exact ⟨fun hl' => hr ((hl r).mp hl'), by omega⟩

end History

end Scheduler
end LedStrip
