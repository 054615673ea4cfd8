import Mathlib.Data.List.Induction
import Mathlib.Data.List.Nodup
import LedStrip.Proofs.Scheduler.Frames
import LedStrip.Proofs.Scheduler.Lockstep

/-!
# Subscriptions over a history

What one subscriber receives from its subscription to its end (`received_run`), who is subscribed
(`mem_subscribers_run`), that numbers are not handed out twice (`subscriptions_nodup`), and that
subscriptions leave the rest of a scheduler alone (`core_run`).  Together they make
`observers_see_machine`.
-/

namespace LedStrip.Scheduler

variable {R σ : Type}

namespace History

variable [Scalar R] [Effect R σ]

/-! ### What a subscriber receives -/

section Received

variable {h : History R σ}

theorem Listed.step (hs : h.Sound) (hl : Listed h.scheduler) (a : Step R) :
    Listed (h.step a).scheduler := by
  have hle : h.scheduler.nextSubscription ≤ (h.step a).scheduler.nextSubscription := by
    rcases nextSubscription_step hs a with ⟨hn, -⟩ | ⟨hn, -⟩ <;> omega
  refine ⟨?_, fun id hm => ?_, fun id hid => ?_⟩
  · rcases ha : a.isSubscription with _ | _
    · rw [(step_observers hs ha).1]; exact hl.nodup
    · rcases Step.isSubscription_iff.mp ha with rfl | ⟨i, rfl⟩
      · show (h.scheduler.subscribers ++ [h.scheduler.nextSubscription]).Nodup
        refine List.nodup_append.mpr ⟨hl.nodup, List.nodup_singleton _, fun i hi j hj => ?_⟩
        have := hl.issued i hi
        rw [List.mem_singleton.mp hj]
        omega
      · show (h.scheduler.subscribers.filter (· != i)).Nodup
        exact hl.nodup.sublist List.filter_sublist
  · rcases (mem_subscribers_step hs a id).mp hm with ⟨hm, -⟩ | ⟨rfl, rfl⟩
    · exact Nat.lt_of_lt_of_le (hl.issued id hm) hle
    · exact Nat.lt_succ_self _
  · have hno : id ∉ h.scheduler.subscribers := fun hm => by
      have := hl.issued id hm
      omega
    rw [received_step hs hl.nodup a id, if_neg hno, hl.silent id (Nat.le_trans hle hid)]
    rfl

theorem Listed.run (hs : h.Sound) (hl : Listed h.scheduler) (steps : List (Step R)) :
    Listed (h.run steps).scheduler := by
  induction steps generalizing h with
  | nil => exact hl
  | cons a steps ih => exact ih (hs.step a) (Listed.step hs hl a)

/-- **A subscriber receives the frames of all ticks**, once each and in order, until it is
unsubscribed. -/
theorem received_run (hs : h.Sound) (hl : Listed h.scheduler) {id : Nat}
    (hid : id ∈ h.scheduler.subscribers)
    {steps : List (Step R)} (hno : .op (.unsubscribe id) ∉ steps) :
    id ∈ (h.run steps).scheduler.subscribers ∧ (h.run steps).scheduler.received id =
      h.scheduler.received id ++ h.scheduler.machine.frames (h.calls steps) := by
  induction steps generalizing h with
  | nil => exact ⟨hid, (List.append_nil _).symm⟩
  | cons a steps ih =>
    obtain ⟨ha, hno⟩ := not_or.mp (mt List.mem_cons.mpr hno)
    have hid' : id ∈ (h.step a).scheduler.subscribers :=
      (mem_subscribers_step hs a id).mpr (.inl ⟨hid, Ne.symm ha⟩)
    obtain ⟨hm, hr⟩ := ih (hs.step a) (Listed.step hs hl a) hid' hno
    refine ⟨hm, ?_⟩
    rw [run_cons, hr, received_step hs hl.nodup a id, if_pos hid, machine_step hs,
      List.append_assoc, ← Machine.frames_append]
    rfl

/-- Whoever is not subscribed, and had its number already, receives nothing any more. -/
theorem received_run_of_not_mem (hs : h.Sound) (hl : Listed h.scheduler) {id : Nat}
    (hid : id ∉ h.scheduler.subscribers) (hlt : id < h.scheduler.nextSubscription)
    (steps : List (Step R)) : (h.run steps).scheduler.received id = h.scheduler.received id := by
  induction steps generalizing h with
  | nil => rfl
  | cons a steps ih =>
    have hid' : id ∉ (h.step a).scheduler.subscribers := fun hm => by
      rcases (mem_subscribers_step hs a id).mp hm with ⟨hm, -⟩ | ⟨-, he⟩
      · exact hid hm
      · omega
    have hlt' : id < (h.step a).scheduler.nextSubscription := by
      rcases nextSubscription_step hs a with ⟨hn, -⟩ | ⟨hn, -⟩ <;> omega
    rw [run_cons, ih (hs.step a) (Listed.step hs hl a) hid' hlt', received_step hs hl.nodup a id,
      if_neg hid, List.append_nil]

end Received

/-! ### Numbers -/

section Numbers

variable {h : History R σ}

/-- The numbers that subscriptions are given, in order. -/
def subscriptions (h : History R σ) : List (Step R) → List Nat
  | [] => []
  | .op .subscribe :: steps =>
    h.scheduler.subscribe.1 :: (h.step (.op .subscribe)).subscriptions steps
  | a :: steps => (h.step a).subscriptions steps

/-- Someone subscribed under the number `id` and was not unsubscribed since. -/
def Registered (h : History R σ) (steps : List (Step R)) (id : Nat) : Prop :=
  ∃ before after, steps = before ++ .op .subscribe :: after ∧
    (h.run before).scheduler.subscribe.1 = id ∧ .op (.unsubscribe id) ∉ after

theorem subscriptions_cons_of_ne (h : History R σ) {a : Step R} (ha : a ≠ .op .subscribe)
    (steps : List (Step R)) : h.subscriptions (a :: steps) = (h.step a).subscriptions steps := by
  rw [subscriptions]
  exact ha

/-- Numbers are handed out in increasing order. -/
theorem subscriptions_nodup (hs : h.Sound) (steps : List (Step R)) :
    (h.subscriptions steps).Nodup ∧ ∀ id ∈ h.subscriptions steps,
      h.scheduler.nextSubscription ≤ id := by
  induction steps generalizing h with
  | nil => exact ⟨List.nodup_nil, fun _ hm => (List.not_mem_nil hm).elim⟩
  | cons a steps ih =>
    obtain ⟨hn, hge⟩ := ih (hs.step a)
    rcases nextSubscription_step hs a with ⟨he, ha⟩ | ⟨he, rfl⟩
    · rw [subscriptions_cons_of_ne h ha]
      exact ⟨hn, he ▸ hge⟩
    · rw [subscriptions]
      refine ⟨List.nodup_cons.mpr ⟨fun hm => ?_, hn⟩, fun id hm => ?_⟩
      · have := hge _ hm
        have : h.scheduler.subscribe.1 = h.scheduler.nextSubscription := rfl
        omega
      · rcases List.mem_cons.mp hm with rfl | hm
        · exact Nat.le_refl _
        · have := hge id hm
          omega

theorem registered_concat (h : History R σ) (steps : List (Step R)) (a : Step R) (id : Nat) :
    h.Registered (steps ++ [a]) id ↔ (h.Registered steps id ∧ a ≠ .op (.unsubscribe id)) ∨
      (a = .op .subscribe ∧ id = (h.run steps).scheduler.nextSubscription) := by
  constructor
  · rintro ⟨before, after, hsplit, hid, hno⟩
    rcases List.eq_nil_or_concat after with rfl | ⟨after, b, rfl⟩
    · obtain ⟨rfl, hab⟩ := List.append_inj' hsplit rfl
      cases hab
      exact .inr ⟨rfl, hid.symm⟩
    · rw [List.concat_eq_append] at hsplit hno
      rw [← List.cons_append, ← List.append_assoc] at hsplit
      obtain ⟨rfl, hab⟩ := List.append_inj' hsplit rfl
      cases hab
      obtain ⟨hno, hb⟩ := not_or.mp (mt List.mem_append.mpr hno)
      exact .inl ⟨⟨before, after, rfl, hid, hno⟩, fun hb' => hb (List.mem_singleton.mpr hb'.symm)⟩
  · rintro (⟨⟨before, after, rfl, hid, hno⟩, ha⟩ | ⟨rfl, rfl⟩)
    · refine ⟨before, after ++ [a], by simp, hid, fun hm => ?_⟩
      rcases List.mem_append.mp hm with hm | hm
      · exact hno hm
      · exact ha (List.mem_singleton.mp hm).symm
    · exact ⟨steps, [], rfl, rfl, List.not_mem_nil⟩

/-- The subscribers are those who subscribed and were not unsubscribed since. -/
theorem mem_subscribers_run (m : Machine R σ) (hm : m.status = .idle) (policy : TickPolicy)
    (steps : List (Step R)) (id : Nat) :
    id ∈ ((init m policy).run steps).scheduler.subscribers ↔
      (init m policy).Registered steps id := by
  induction steps using List.reverseRecOn with
  | nil =>
    refine ⟨fun hi => (List.not_mem_nil hi).elim, ?_⟩
    rintro ⟨before, after, hsplit, -⟩
    exact absurd hsplit (by simp)
  | append_singleton steps a ih =>
    have hs : ((init m policy).run steps).Sound := (sound_init hm policy).run steps
    rw [run_append, run_cons, run_nil, mem_subscribers_step hs, registered_concat, ih]

end Numbers

end History

/-! ### Subscriptions and the rest -/

/-- A scheduler as its timer and its machine see it, without what belongs to observers. -/
def core (s : Scheduler R σ) : Scheduler R σ :=
  { s with subscribers := [], nextSubscription := 0, lastError := none, receiver := none,
           nextReceiver := 0, dropped := [], shownStatus := .idle, outbox := #[] }

section Core

variable {s s' : Scheduler R σ}

/-- The core is all that lockstep is about when the machines are the same. -/
theorem core_eq_iff : s.core = s'.core ↔ Lockstep Eq s s' := by
  constructor
  · intro h
    unfold core at h
    simp only [mk.injEq] at h
    obtain ⟨hm, hp, hn, hg, ht, -⟩ := h
    exact ⟨hm, hp, hn, hg, ht⟩
  · intro h
    unfold core
    rw [h.machine, h.policy, h.now, h.generation, h.timer]

theorem lockstep_core (s : Scheduler R σ) : Lockstep Eq s s.core := ⟨rfl, rfl, rfl, rfl, rfl⟩

variable [Scalar R] [Effect R σ]

/-- What an operation does to the core depends on the core alone. -/
theorem core_apply (s : Scheduler R σ) (op : Op R) :
    (s.apply op).core = (s.core.apply op).core :=
  core_eq_iff.mpr ((lockstep_core s).apply Machine.bisimulation_eq op)

theorem core_wakeUp (s : Scheduler R σ) (t : Timer) :
    (s.wakeUp t).core = (s.core.wakeUp t).core :=
  core_eq_iff.mpr ((lockstep_core s).wakeUp Machine.bisimulation_eq t)

end Core

namespace History

def core (h : History R σ) : History R σ := ⟨h.scheduler.core, h.timers⟩

/-- The steps that are no subscriptions. -/
def unobserved (steps : List (Step R)) : List (Step R) := steps.filter fun a => !a.isSubscription

variable {h g : History R σ}

variable [Scalar R] [Effect R σ]

omit [Scalar R] [Effect R σ] in
theorem core_goOn (h : History R σ) {s s' : Scheduler R σ} (hc : s.core = s'.core) :
    (h.goOn s).core = (h.core.goOn s').core := by
  show h.core.goOn s.core = h.core.goOn s'.core
  rw [hc]

/-- What a step does to the core of a history depends on the core alone. -/
theorem core_step (h : History R σ) (a : Step R) : (h.step a).core = (h.core.step a).core := by
  cases a with
  | op op => exact core_goOn h (core_apply h.scheduler op)
  | elapse ms => rfl
  | wake i =>
    rcases hi : h.timers[i]? with _ | t
    · rw [step_wake_none hi, step_wake_none (h := h.core) hi]; rfl
    · rw [step_wake hi, step_wake (h := h.core) hi]
      exact core_goOn h (core_wakeUp h.scheduler t)

/-- A subscription changes nothing of the core and makes no calls. -/
theorem core_step_of_subscription {a : Step R} (ha : a.isSubscription = true) :
    (h.step a).core = h.core ∧ h.stepCalls a = [] := by
  rcases Step.isSubscription_iff.mp ha with rfl | ⟨id, rfl⟩
  · refine ⟨?_, rfl⟩
    show (h.goOn h.scheduler.subscribe.2).core = h.core
    rw [goOn_of_eq (s := h.scheduler.subscribe.2) rfl]; rfl
  · refine ⟨?_, rfl⟩
    show (h.goOn (h.scheduler.unsubscribe id).2).core = h.core
    rw [goOn_of_eq (s := (h.scheduler.unsubscribe id).2) rfl]; rfl

/-- **Subscriptions leave the rest alone.**  Histories with the same core that differ in
subscriptions only keep the same core and make the same calls. -/
theorem core_run (hc : h.core = g.core) (steps : List (Step R)) :
    (h.run steps).core = (g.run (unobserved steps)).core ∧
      h.calls steps = g.calls (unobserved steps) := by
  induction steps generalizing h g with
  | nil => exact ⟨hc, rfl⟩
  | cons a steps ih =>
    rcases ha : a.isSubscription with _ | _
    · -- both histories take the step
      have hkeep : unobserved (a :: steps) = a :: unobserved steps := by simp [unobserved, ha]
      have hstep : (h.step a).core = (g.step a).core := by rw [core_step h, core_step g, hc]
      have hcalls : h.stepCalls a = g.stepCalls a := by
        show h.core.stepCalls a = g.core.stepCalls a
        rw [hc]
      obtain ⟨h1, h2⟩ := ih hstep
      rw [hkeep, run_cons, run_cons, calls, calls, hcalls, h2]
      exact ⟨h1, rfl⟩
    · -- only the first takes it, and its core stays
      have hdrop : unobserved (a :: steps) = unobserved steps := by simp [unobserved, ha]
      obtain ⟨hstep, hcalls⟩ := core_step_of_subscription (h := h) ha
      obtain ⟨h1, h2⟩ := ih (hstep.trans hc)
      rw [hdrop, run_cons, calls, hcalls]
      exact ⟨h1, h2⟩

/-! ### Observers and the machine -/

section Observers

variable (m : Machine R σ) (hm : m.status = .idle) (policy : TickPolicy)
include hm

/-- What a subscriber that subscribed after `before` has received after `during`. -/
theorem received_during (before : List (Step R)) {during : List (Step R)}
    (hno : .op (.unsubscribe ((init m policy).run before).scheduler.subscribe.1) ∉ during) :
    let joined := ((init m policy).run before).step (.op .subscribe)
    let id := ((init m policy).run before).scheduler.subscribe.1
    id ∈ (joined.run during).scheduler.subscribers ∧
      (joined.run during).scheduler.received id =
        joined.scheduler.machine.frames (joined.calls during) := by
  intro joined id
  have hs : ((init m policy).run before).Sound := (sound_init hm policy).run before
  have hl : Listed ((init m policy).run before).scheduler :=
    Listed.run (sound_init hm policy) (listed_init m policy) before
  have hid : id ∈ joined.scheduler.subscribers :=
    (mem_subscribers_step hs (.op .subscribe) id).mpr (.inr ⟨rfl, rfl⟩)
  have hnone : joined.scheduler.received id = [] := hl.silent id (Nat.le_refl _)
  obtain ⟨hmem, hr⟩ := received_run (hs.step _) (Listed.step hs hl _) hid hno
  rw [hnone, List.nil_append] at hr
  exact ⟨hmem, hr⟩

/-- After it was unsubscribed, a subscriber receives nothing more. -/
theorem received_after (before : List (Step R)) {during : List (Step R)}
    (hno : .op (.unsubscribe ((init m policy).run before).scheduler.subscribe.1) ∉ during)
    (after : List (Step R)) :
    let joined := ((init m policy).run before).step (.op .subscribe)
    let id := ((init m policy).run before).scheduler.subscribe.1
    (((joined.run during).step (.op (.unsubscribe id))).run after).scheduler.received id =
      (joined.run during).scheduler.received id := by
  intro joined id
  have hs : (joined.run during).Sound := (((sound_init hm policy).run before).step _).run during
  have hl : Listed (joined.run during).scheduler := by
    have := Listed.run (sound_init hm policy) (listed_init m policy)
      (before ++ .op .subscribe :: during)
    rwa [run_append] at this
  have hmem : id ∈ (joined.run during).scheduler.subscribers :=
    (received_during m hm policy before hno).1
  rw [received_run_of_not_mem (hs.step _) (Listed.step hs hl _) ?_ ?_ after]
  · exact received_apply (joined.run during).scheduler _ id
  · intro hm'
    rcases (mem_subscribers_step hs _ id).mp hm' with ⟨-, hne⟩ | ⟨he, -⟩
    · exact hne rfl
    · cases he
  · exact hl.issued id hmem

/-- The frames of a history have the size of the strip. -/
theorem size_frames_run (before : List (Step R)) (during : List (Step R)) {f : Frame}
    (hf : f ∈ ((init m policy).run before).scheduler.machine.frames
      (((init m policy).run before).calls during)) :
    f.size = Frame.byteCount m.ledCount := by
  have hrun : ((init m policy).run before).scheduler.machine =
      m.calls ((init m policy).calls before) :=
    machine_run (sound_init hm policy) before
  rw [Machine.size_of_mem_frames hf, hrun, Machine.ledCount_calls]

end Observers

/-- **Observers see the machine and nothing else.**  For a scheduler that begins with an idle
machine:

* the machine is where a bare machine gets by the calls of the history;
* a subscriber receives the frames that these calls put on the strip while it is subscribed, each
  once and in order, and each has three bytes for every LED;
* what it receives is the same whoever else subscribes or is unsubscribed;
* no number is given to two subscribers, and unsubscribing a number succeeds exactly while it is
  registered. -/
theorem observers_see_machine (m : Machine R σ) (hm : m.status = .idle) (policy : TickPolicy) :
    let start := init m policy
    (∀ steps, (start.run steps).scheduler.machine = m.calls (start.calls steps)) ∧
      (∀ before during after,
        let joined := (start.run before).step (.op .subscribe)
        let id := (start.run before).scheduler.subscribe.1
        let frames := joined.scheduler.machine.frames (joined.calls during)
        .op (.unsubscribe id) ∉ during →
          (joined.run during).scheduler.received id = frames ∧
            (((joined.run during).step (.op (.unsubscribe id))).run after).scheduler.received id
              = frames ∧
            ∀ f ∈ frames, f.size = Frame.byteCount m.ledCount ∧
              (3 * m.ledCount < 2 ^ 64 → f.size = 3 * m.ledCount)) ∧
      (∀ before before' during during',
        unobserved before = unobserved before' → unobserved during = unobserved during' →
        let joined := (start.run before).step (.op .subscribe)
        let joined' := (start.run before').step (.op .subscribe)
        let id := (start.run before).scheduler.subscribe.1
        let id' := (start.run before').scheduler.subscribe.1
        .op (.unsubscribe id) ∉ during → .op (.unsubscribe id') ∉ during' →
          (joined.run during).scheduler.received id =
            (joined'.run during').scheduler.received id') ∧
      (∀ steps, (start.subscriptions steps).Nodup) ∧
      ∀ steps id, ((start.run steps).scheduler.unsubscribe id).1 = true ↔
        start.Registered steps id := by
  intro start
  have hs : start.Sound := sound_init hm policy
  refine ⟨machine_run hs, fun before during after => ?_,
    fun before before' during during' hb hd => ?_,
    fun steps => (subscriptions_nodup hs steps).1, fun steps id => ?_⟩
  · intro joined id frames hno
    have hduring := (received_during m hm policy before hno).2
    refine ⟨hduring, (received_after m hm policy before hno after).trans hduring, fun f hf => ?_⟩
    have hjoined : joined = start.run (before ++ [.op .subscribe]) := by rw [run_append]; rfl
    have hsize : f.size = Frame.byteCount m.ledCount :=
      size_frames_run m hm policy (before ++ [.op .subscribe]) during (hjoined ▸ hf)
    refine ⟨hsize, fun hlt => ?_⟩
    rw [hsize, Frame.byteCount, Nat.mod_eq_of_lt hlt]
  · intro joined joined' id id' hno hno'
    have hcore : joined.core = joined'.core := by
      have h1 := (core_run (h := start) rfl before).1
      have h2 := (core_run (h := start) rfl before').1
      rw [(core_step_of_subscription rfl).1, (core_step_of_subscription rfl).1, h1, h2, hb]
    have hsched : joined.scheduler.core = joined'.scheduler.core := congrArg History.scheduler hcore
    have hmachine : joined.scheduler.machine = joined'.scheduler.machine := by
      show joined.scheduler.core.machine = joined'.scheduler.core.machine
      rw [hsched]
    have hcalls : joined.calls during = joined'.calls during' := by
      rw [(core_run hcore during).2, (core_run rfl during').2, hd]
    rw [(received_during m hm policy before hno).2, (received_during m hm policy before' hno').2]
    exact hmachine ▸ hcalls ▸ rfl
  · rw [← mem_subscribers_run m hm policy steps id]
    exact List.contains_iff_mem

/-- The first of two subscribers receives both frames of a blinking strip. -/
theorem blinking_frames_received :
    let joined := ((init Machine.blinking .halt).run [.op .start]).step (.op .subscribe)
    let during := [.wake 0, .op .subscribe, .wake 0]
    Machine.blinking.status = .idle ∧ .op (.unsubscribe 0) ∉ during ∧
      (joined.run during).scheduler.received 0 =
        [⟨#[217, 70, 239, 217, 70, 239]⟩, Frame.blank 2] := by
  intro joined during
  have hno : .op (.unsubscribe 0) ∉ during := by simp [during]
  have hframes : joined.scheduler.machine.frames (joined.calls during) =
      [⟨#[217, 70, 239, 217, 70, 239]⟩, Frame.blank 2] := by decide
  have hreceived :=
    ((observers_see_machine Machine.blinking rfl .halt).2.1 [.op .start] during [] hno).1
  exact ⟨rfl, hno, hreceived.trans hframes⟩

end History

end LedStrip.Scheduler
