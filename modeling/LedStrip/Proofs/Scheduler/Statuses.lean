import Mathlib.Data.List.Chain
import LedStrip.Proofs.Effect.Lifecycle
import LedStrip.Proofs.Scheduler.Errors

/-!
# The status that watchers see

Watchers read a copy of the status.  A step either tells them the status in which it leaves the
machine (`Told`) or leaves status and copy alone (`Untold`); `History.Notifies` says which
(`told_step`, `untold_step`).  So the copy never falls behind, and what is sent is the way that the
status takes (`watchers_follow_machine`).
-/

namespace LedStrip

/-- The status of a message to watchers. -/
def Event.status? : Event → Option Status
  | status s => some s
  | _ => none

/-- From one status to the next. -/
inductive Status.Moves : Status → Status → Prop
  | start : Moves idle running
  | pause : Moves running paused
  | resume : Moves paused running
  | stop (s : Status) : Moves s idle

namespace Scheduler

variable {R σ : Type}

/-- The statuses that were ever sent, in order. -/
def statuses (s : Scheduler R σ) : List Status := s.outbox.toList.filterMap Event.status?

/-- Whether an operation tells watchers the status: a transition that succeeds, and any stop. -/
def Op.Notifies [Effect R σ] (s : Scheduler R σ) : Op R → Prop
  | .start => s.start.1 = true
  | .pause => s.pause.1 = true
  | .resume => s.resume.1 = true
  | .togglePause => s.togglePause.1 = true
  | .stop => True
  | _ => False

/-- Watchers are told the status, once. -/
structure Told (s s' : Scheduler R σ) : Prop where
  shown : s'.shownStatus = s'.status
  statuses : s'.statuses = s.statuses ++ [s'.status]
  moves : s.status.Moves s'.status

/-- Watchers are told nothing, and there is nothing to tell. -/
structure Untold (s s' : Scheduler R σ) : Prop where
  shown : s'.shownStatus = s.shownStatus
  statuses : s'.statuses = s.statuses
  status : s'.status = s.status

/-! ### Operations -/

section Operations

variable {s s' : Scheduler R σ}

theorem Untold.refl (s : Scheduler R σ) : Untold s s := ⟨rfl, rfl, rfl⟩

theorem Untold.of_outbox_eq (hshown : s'.shownStatus = s.shownStatus) (hout : s'.outbox = s.outbox)
    (hstatus : s'.status = s.status) : Untold s s' := by
  refine ⟨hshown, ?_, hstatus⟩
  unfold Scheduler.statuses
  rw [hout]

/-- A notification tells the status as it is then. -/
theorem told_notifyStatus (hout : s'.outbox = s.outbox) (hmoves : s.status.Moves s'.status) :
    Told s s'.notifyStatus := by
  refine ⟨rfl, ?_, hmoves⟩
  have hpush : s'.notifyStatus.outbox = s.outbox.push (.status s'.status) := by
    rw [← hout]
    rfl
  unfold Scheduler.statuses
  rw [hpush, Array.toList_push, List.filterMap_append]
  rfl

theorem start_answer (s : Scheduler R σ) : s.start.1 = true ↔ s.status = .idle := by
  by_cases h : s.status = .idle
  · simp [start_of_idle h, h]
  · simp [start_of_not_idle h, h]

theorem pause_answer (s : Scheduler R σ) : s.pause.1 = true ↔ s.status = .running := by
  by_cases h : s.status = .running
  · simp [pause_of_running h, h]
  · simp [pause_of_not_running h, h]

theorem resume_answer (s : Scheduler R σ) : s.resume.1 = true ↔ s.status = .paused := by
  by_cases h : s.status = .paused
  · simp [resume_of_paused h, h]
  · simp [resume_of_not_paused h, h]

theorem togglePause_answer (s : Scheduler R σ) :
    s.togglePause.1 = true ↔ s.status = .paused ∨ s.status = .running := by
  rcases h : s.status with _ | _ | _
  · simp [togglePause_of_idle h]
  · simp [togglePause_of_running h, pause_answer, h]
  · simp [togglePause_of_paused h, resume_answer, h]

variable [Scalar R] [Effect R σ]

/-- Watchers hear of a request that is granted and of a stop. -/
theorem notifies_iff {op : Op R} :
    op.Notifies s ↔ op.isRequest = true ∧ (op.Sets s ∨ op.Cancels s) ∨ op = .stop := by
  cases op <;> simp [Op.Notifies, Op.isRequest, Op.Sets, Op.Cancels, start_answer, pause_answer,
    resume_answer, togglePause_answer]

/-- A request to run is granted to an idle or paused machine. -/
theorem moves_of_sets {op : Op R} (hop : op.isRequest = true) (hs : op.Sets s) :
    s.status.Moves .running := by
  rcases starts_or_resumes_iff.mpr ⟨hop, hs⟩ with h | h
  · have hidle : s.status = .idle := h.status
    rw [hidle]
    exact .start
  · have hpaused : s.status = .paused := h.status
    rw [hpaused]
    exact .resume

omit [Scalar R] [Effect R σ] in
/-- A request to pause is granted to a running machine. -/
theorem moves_of_cancels {op : Op R} (hop : op.isRequest = true) (hc : op.Cancels s) :
    s.status.Moves .paused := by
  rw [hc.running hop]
  exact .pause

omit [Scalar R] in
theorem not_notifies_of_setting {op : Op R} {c : Machine.Call R} (hop : op.setting? = some c) :
    ¬ op.Notifies s := by
  cases op with
  | setSpeed ms => exact id
  | setConfig key v => exact id
  | _ => cases hop

theorem told_apply {op : Op R} (h : op.Notifies s) : Told s (s.apply op) := by
  have hchange : Change s op (s.apply op) := change_apply s op
  generalize s.apply op = s' at hchange ⊢
  cases hchange with
  | refused hop hs hc =>
    rcases notifies_iff.mp h with ⟨-, h | h⟩ | rfl
    · exact absurd h hs
    · exact absurd h hc
    · cases hop
  | run hop hs => exact told_notifyStatus rfl (moves_of_sets hop hs)
  | pause hop hc => exact told_notifyStatus rfl (moves_of_cancels hop hc)
  | stop => exact told_notifyStatus rfl (.stop s.status)
  | adjust hop | reschedule hop => exact absurd h (not_notifies_of_setting hop)
  | _ => exact h.elim

theorem untold_apply {op : Op R} (h : ¬ op.Notifies s) : Untold s (s.apply op) := by
  have hchange : Change s op (s.apply op) := change_apply s op
  generalize s.apply op = s' at hchange ⊢
  cases hchange with
  | run hop hs => exact absurd (notifies_iff.mpr (.inl ⟨hop, .inl hs⟩)) h
  | pause hop hc => exact absurd (notifies_iff.mpr (.inl ⟨hop, .inr hc⟩)) h
  | stop => exact absurd trivial h
  | adjust hop | reschedule hop =>
    exact .of_outbox_eq rfl rfl (status_setting hop s.machine)
  | _ => exact .of_outbox_eq rfl rfl rfl

end Operations

/-! ### Ticks -/

section Ticks

variable [Effect R σ] {s : Scheduler R σ} {t : Timer} {e : EffectError}

/-- Frames are no statuses. -/
theorem untold_fire_of_ok (hg : t.generation = s.generation) (ht : s.machine.tick.1 = .ok true) :
    Untold s (s.fire t) := by
  rw [fire_of_ok hg ht]
  refine ⟨rfl, ?_, Machine.status_tick s.machine⟩
  have hnone : (s.subscribers.map fun id => Event.frame id s.machine.tick.2.leds).filterMap
      Event.status? = [] :=
    List.filterMap_eq_nil_iff.mpr (by simp [Event.status?])
  unfold statuses firedWith deliverFrame
  rw [List.foldl_push_eq_append, Array.toList_append, List.filterMap_append]
  exact (congrArg _ hnone).trans (List.append_nil _)

/-- An error that halts is told as the status that it leads to. -/
theorem told_fire_of_error (hr : s.status = .running) (hg : t.generation = s.generation)
    (hp : s.policy = .halt) (he : s.machine.tick.1 = .error e) : Told s (s.fire t) := by
  rw [fire_of_error_halt hr hg hp he]
  refine told_notifyStatus rfl ?_
  rw [hr]
  exact .pause

/-- Any other error is none of the watchers' business. -/
theorem untold_fire_of_error (hg : t.generation = s.generation) (hp : s.policy ≠ .halt)
    (he : s.machine.tick.1 = .error e) : Untold s (s.fire t) := by
  have hstatus : s.machine.tick.2.status = s.status := Machine.status_tick s.machine
  rcases hpol : s.policy with _ | _ | _
  · exact absurd hpol hp
  · rw [fire_of_error_skip hg hpol he]
    exact .of_outbox_eq rfl rfl hstatus
  · obtain ⟨receiver, outbox, hsend, hout⟩ := sendError_eq s e
    rw [fire_of_error_propagate hg hpol he, hsend]
    refine ⟨rfl, ?_, hstatus⟩
    rcases hout with rfl | ⟨r, rfl⟩
    · rfl
    · unfold statuses
      rw [Array.toList_push, List.filterMap_append]
      exact List.append_nil _

end Ticks

/-! ### Histories -/

namespace History

variable [Scalar R] [Effect R σ] {h : History R σ}

omit [Scalar R] in
/-- Whether a step tells watchers the status: an operation that does, or a tick that fails while
errors halt. -/
def Notifies (h : History R σ) : Step R → Prop
  | .op op => op.Notifies h.scheduler
  | a => h.scheduler.policy = .halt ∧ ∃ e, h.failure? a = some e

theorem told_step (hs : h.Sound) {a : Step R} (ha : h.Notifies a) :
    Told h.scheduler (h.step a).scheduler := by
  cases a with
  | op op => exact told_apply ha
  | elapse ms =>
    obtain ⟨-, e, he⟩ := ha
    cases he
  | wake i =>
    obtain ⟨hp, e, he⟩ := ha
    obtain ⟨t, hg, hr, ht, hstep⟩ := hs.fire_of_failure he
    rw [hstep]
    exact told_fire_of_error hr hg hp ht

theorem untold_step (hs : h.Sound) {a : Step R} (ha : ¬ h.Notifies a) :
    Untold h.scheduler (h.step a).scheduler := by
  cases a with
  | op op => exact untold_apply ha
  | elapse ms => exact .of_outbox_eq rfl rfl rfl
  | wake i =>
    rcases hs.wake_outcomes i with ⟨hstep, -⟩ | ⟨t, hg, -, hstep, ⟨ht, -⟩ | ⟨e, ht, he⟩⟩
    · rw [hstep]
      exact .refl _
    · rw [hstep]
      exact untold_fire_of_ok hg ht
    · rw [hstep]
      exact untold_fire_of_error hg (fun hp => ha ⟨hp, e, he⟩) ht

/-- What watchers have seen: the way of the status, up to the status that the machine has. -/
structure Followed (h : History R σ) : Prop where
  shown : h.scheduler.shownStatus = h.scheduler.status
  last : (Status.idle :: h.scheduler.statuses).getLast? = some h.scheduler.status
  chain : (Status.idle :: h.scheduler.statuses).IsChain Status.Moves

omit [Scalar R] [Effect R σ] in
theorem followed_init {m : Machine R σ} (hm : m.status = .idle) (policy : TickPolicy) :
    (init m policy).Followed := by
  refine ⟨rfl, ?_, List.isChain_singleton _⟩
  exact congrArg some hm.symm

theorem Followed.step (hs : h.Sound) (hf : h.Followed) (a : Step R) : (h.step a).Followed := by
  by_cases ha : h.Notifies a
  · have ht : Told h.scheduler (h.step a).scheduler := told_step hs ha
    refine ⟨ht.shown, ?_, ?_⟩
    · rw [ht.statuses, ← List.cons_append, List.getLast?_concat]
    · rw [ht.statuses, ← List.cons_append]
      refine List.isChain_append.mpr ⟨hf.chain, List.isChain_singleton _, fun x hx y hy => ?_⟩
      -- the status before is the last one sent
      have hx : x = h.scheduler.status := Option.some.inj ((Option.mem_def.mp hx).symm.trans hf.last)
      have hy : y = (h.step a).scheduler.status := (Option.some.inj (Option.mem_def.mp hy)).symm
      rw [hx, hy]
      exact ht.moves
  · have hu : Untold h.scheduler (h.step a).scheduler := untold_step hs ha
    refine ⟨?_, ?_, ?_⟩
    · rw [hu.shown, hu.status]
      exact hf.shown
    · rw [hu.statuses, hu.status]
      exact hf.last
    · rw [hu.statuses]
      exact hf.chain

theorem Followed.run (hs : h.Sound) (hf : h.Followed) (steps : List (Step R)) :
    (h.run steps).Followed := by
  induction steps generalizing h with
  | nil => exact hf
  | cons a steps ih => exact ih (hs.step a) (hf.step hs a)

/-- **Watchers follow the machine.**  For a scheduler that begins with an idle machine:

* the status that watchers see is the one of the machine, whatever has happened;
* a step sends one status, the one in which it leaves the machine, if it is a transition that
  succeeds, a stop, or a tick that fails while errors halt, and no other step sends any;
* from `idle` on, each status that is sent is a move away from the one before. -/
theorem watchers_follow_machine (m : Machine R σ) (hm : m.status = .idle) (policy : TickPolicy) :
    let start := init m policy
    (∀ steps,
      let s := (start.run steps).scheduler
      s.shownStatus = s.status) ∧
      (∀ steps a,
        let h := start.run steps
        let s := h.scheduler
        let s' := (h.step a).scheduler
        (h.Notifies a → s'.statuses = s.statuses ++ [s'.status]) ∧
          (¬ h.Notifies a → s'.statuses = s.statuses)) ∧
      ∀ steps, (.idle :: (start.run steps).scheduler.statuses).IsChain Status.Moves := by
  intro start
  have hs (steps : List (Step R)) : (start.run steps).Sound := (sound_init hm policy).run steps
  have hf (steps : List (Step R)) : (start.run steps).Followed :=
    (followed_init hm policy).run (sound_init hm policy) steps
  refine ⟨fun steps => (hf steps).shown, fun steps a => ⟨fun ha => ?_, fun ha => ?_⟩,
    fun steps => (hf steps).chain⟩
  · exact (told_step (hs steps) ha).statuses
  · exact (untold_step (hs steps) ha).statuses

/-- Watchers of a faltering strip that halts at its short frame, is resumed and then stopped twice,
although its reset fails. -/
theorem faltering_statuses_sent :
    let start := init Machine.faltering .halt
    let steps := [.op .start, .wake 0, .op (.setSpeed 50), .wake 1, .op .resume, .op .stop, .op .stop]
    let s := (start.run steps).scheduler
    Machine.faltering.status = .idle ∧ s.statuses = [.running, .paused, .running, .idle, .idle] ∧
      s.shownStatus = .idle := by
  intro start steps s
  have hshown : s.shownStatus = s.status :=
    (watchers_follow_machine Machine.faltering rfl .halt).1 steps
  have hstatuses : s.statuses = [.running, .paused, .running, .idle, .idle] := by decide
  exact ⟨rfl, hstatuses, hshown⟩

end History
end Scheduler
end LedStrip
