import LedStrip.Proofs.Scheduler.Simulation

/-!
# Frames for subscribers

What a step sends to the subscribers of a scheduler (`received_step`) and who they are after it
(`mem_subscribers_step`).  Only a tick that put a frame on the strip sends frames, one to each
subscriber.
-/

namespace LedStrip

/-- The frame of a message to the subscriber `id`. -/
def Event.frameFor? (id : Nat) (e : Event) : Option Frame :=
  e.frame?.bind fun p => if p.1 = id then some p.2 else none

namespace Scheduler

variable {R σ : Type}

/-- The frames that the subscriber `id` was ever sent, in order. -/
def received (s : Scheduler R σ) (id : Nat) : List Frame :=
  s.outbox.toList.filterMap (Event.frameFor? id)

/-- Whether an operation adds or removes a subscriber. -/
def Op.isSubscription : Op R → Bool
  | .subscribe | .unsubscribe _ => true
  | _ => false

/-! ### The outbox -/

section Outbox

variable {s s' : Scheduler R σ}

theorem received_of_outbox_eq (h : s'.outbox = s.outbox) (id : Nat) :
    s'.received id = s.received id := by
  unfold received; rw [h]

theorem received_of_outbox_push {e : Event} (h : s'.outbox = s.outbox.push e) (he : e.frame? = none)
    (id : Nat) : s'.received id = s.received id := by
  unfold received
  rw [h, Array.toList_push, List.filterMap_append]
  simp [Event.frameFor?, he]

/-- The subscribers stay, and nobody is sent a frame. -/
structure SameObservers (s s' : Scheduler R σ) : Prop where
  subscribers : s'.subscribers = s.subscribers
  nextSubscription : s'.nextSubscription = s.nextSubscription
  received : ∀ id, s'.received id = s.received id

theorem SameObservers.refl (s : Scheduler R σ) : SameObservers s s := ⟨rfl, rfl, fun _ => rfl⟩

/-- In a list without repetition, one element is sent one frame. -/
theorem filterMap_frameFor?_map {ids : List Nat} (h : ids.Nodup) (id : Nat) (f : Frame) :
    (ids.map fun i => Event.frame i f).filterMap (Event.frameFor? id) =
      if id ∈ ids then [f] else [] := by
  induction ids with
  | nil => rfl
  | cons i ids ih =>
    obtain ⟨hi, hn⟩ := List.nodup_cons.mp h
    rw [List.map_cons, List.filterMap_cons, ih hn]
    by_cases hid : i = id
    · subst hid
      simp [Event.frameFor?, Event.frame?, hi]
    · simp [Event.frameFor?, Event.frame?, hid, Ne.symm hid]

theorem received_deliverFrame (h : s.subscribers.Nodup) (id : Nat) :
    s.deliverFrame.received id =
      s.received id ++ if id ∈ s.subscribers then [s.machine.leds] else [] := by
  unfold received deliverFrame
  rw [List.foldl_push_eq_append, Array.toList_append, List.filterMap_append]
  exact congrArg _ (filterMap_frameFor?_map h id s.machine.leds)

end Outbox

/-! ### One step -/

section OneStep

variable [Scalar R] [Effect R σ] {s : Scheduler R σ}

/-- An operation that is no subscription leaves the observers alone: it sends at most a status. -/
theorem apply_observers {op : Op R} (h : op.isSubscription = false) :
    SameObservers s (s.apply op) := by
  have told {t : Scheduler R σ} {st : Status} (h1 : t.subscribers = s.subscribers)
      (h2 : t.nextSubscription = s.nextSubscription) (h3 : t.outbox = s.outbox.push (.status st)) :
      SameObservers s t := ⟨h1, h2, received_of_outbox_push h3 rfl⟩
  have hchange : Change s op (s.apply op) := change_apply s op
  generalize s.apply op = s' at hchange ⊢
  cases hchange with
  | run | pause | stop => exact told rfl rfl rfl
  | subscribe | unsubscribe => cases h
  | _ => exact ⟨rfl, rfl, fun _ => rfl⟩

/-- An operation sends nobody a frame. -/
theorem received_apply (s : Scheduler R σ) (op : Op R) (id : Nat) :
    (s.apply op).received id = s.received id := by
  rcases h : op.isSubscription with _ | _
  · exact (apply_observers h).received id
  · cases op with
    | subscribe => rfl
    | unsubscribe i => rfl
    | _ => cases h

omit [Scalar R] in
/-- The current timer that fires changes the due time on top of what the tick does. -/
theorem fire_eq {t : Timer} (hg : t.generation = s.generation) : s.fire t =
    { s.runTick.2 with
      timer := s.runTick.2.timer.map fun t =>
        { t with due := if s.runTick.1 then some (s.runTick.2.now + t.period) else none } } := by
  unfold fire wake
  rw [if_pos hg.symm]

/-- The current timer that fires sends every subscriber the frame that its tick put on the strip, if
it did. -/
theorem fire_observers (hr : s.status = .running) {t : Timer} (hg : t.generation = s.generation) :
    (s.fire t).subscribers = s.subscribers ∧ (s.fire t).nextSubscription = s.nextSubscription ∧
      (s.subscribers.Nodup → ∀ id, (s.fire t).received id =
        s.received id ++ if id ∈ s.subscribers then s.machine.frames s.tickCalls else []) := by
  rw [fire_eq hg]
  show s.runTick.2.subscribers = _ ∧ s.runTick.2.nextSubscription = _ ∧
    (_ → ∀ id, s.runTick.2.received id = _)
  rcases Machine.tick_of_running hr with ⟨f, -, ht⟩ | ⟨e, ht⟩
  · have hh : ¬ s.Halts := by rintro ⟨-, e, he⟩; rw [ht] at he; cases he
    have ht' : s.machine.tick = (.ok true, s.machine.tick.2) := Prod.ext (by rw [ht]) rfl
    have hf : s.machine.frames s.tickCalls = [s.machine.tick.2.leds] := by
      rw [tickCalls_of_not_halts hh]
      simp [Machine.frames, Machine.frame?, ht]
    rw [runTick_of_ok ht', hf]
    exact ⟨rfl, rfl, received_deliverFrame (s := { s with machine := s.machine.tick.2 })⟩
  · have ht' : s.machine.tick = (.error e, s.machine.tick.2) := Prod.ext (by rw [ht]) rfl
    have hf : s.machine.frames s.tickCalls = [] := by
      unfold tickCalls tickCallsOf
      split <;> simp [Machine.frames, Machine.frame?, ht]
    rw [runTick_of_error ht', hf]
    simp only [ite_self, List.append_nil]
    by_cases hp : s.policy = .halt
    · rw [onTickError_of_halt (s := { s with machine := s.machine.tick.2 }) hp]
      exact ⟨rfl, rfl, fun _ => received_of_outbox_push (e := .status _) rfl rfl⟩
    · obtain ⟨receiver, outbox, he, ho⟩ :=
        onTickError_of_ne_halt (s := { s with machine := s.machine.tick.2 }) hp e
      rw [he]
      refine ⟨rfl, rfl, fun _ id => ?_⟩
      rcases ho with ho | ⟨r, ho⟩
      · exact received_of_outbox_eq ho id
      · exact received_of_outbox_push ho rfl id

/-- Operations put no frame on the strip. -/
theorem frames_opCalls (m : Machine R σ) (s : Scheduler R σ) (op : Op R) :
    m.frames (op.calls s) = [] := by
  unfold Op.calls
  cases op with
  | togglePause => rcases s.status with _ | _ | _ <;> rfl
  | _ => rfl

end OneStep

/-! ### Subscribers of a history -/

/-- Whether a step adds or removes a subscriber. -/
def Step.isSubscription : Step R → Bool
  | .op o => o.isSubscription
  | _ => false

theorem Step.isSubscription_iff {a : Step R} :
    a.isSubscription = true ↔ a = .op .subscribe ∨ ∃ id, a = .op (.unsubscribe id) := by
  constructor
  · intro h
    rcases a with op | _ | _
    · cases op with
      | subscribe => exact .inl rfl
      | unsubscribe id => exact .inr ⟨id, rfl⟩
      | _ => cases h
    · cases h
    · cases h
  · rintro (rfl | ⟨id, rfl⟩)
    · rfl
    · rfl

/-- Numbers of subscriptions are handed out in order, and one that was not handed out yet was sent
nothing. -/
structure Listed (s : Scheduler R σ) : Prop where
  nodup : s.subscribers.Nodup
  issued : ∀ id ∈ s.subscribers, id < s.nextSubscription
  silent : ∀ id, s.nextSubscription ≤ id → s.received id = []

namespace History

theorem listed_init (m : Machine R σ) (policy : TickPolicy) : Listed (init m policy).scheduler :=
  ⟨List.nodup_nil, fun _ h => (List.not_mem_nil h).elim, fun _ _ => rfl⟩

variable [Scalar R] [Effect R σ] {h : History R σ}

/-- A step that is no subscription leaves the list of subscribers alone. -/
theorem step_observers (hs : h.Sound) {a : Step R} (ha : a.isSubscription = false) :
    (h.step a).scheduler.subscribers = h.scheduler.subscribers ∧
      (h.step a).scheduler.nextSubscription = h.scheduler.nextSubscription := by
  cases a with
  | op op => exact ⟨(apply_observers ha).subscribers, (apply_observers ha).nextSubscription⟩
  | elapse ms => exact ⟨rfl, rfl⟩
  | wake i =>
    rcases hs.wake_cases i with ⟨hstep, -⟩ | ⟨t, hg, hr, hstep, -⟩
    · rw [hstep]; exact ⟨rfl, rfl⟩
    · rw [hstep]
      obtain ⟨h1, h2, -⟩ := fire_observers hr hg
      exact ⟨h1, h2⟩

/-- In one step, every subscriber is sent the frames that the calls of the step put on the strip. -/
theorem received_step (hs : h.Sound) (hl : h.scheduler.subscribers.Nodup) (a : Step R) (id : Nat) :
    (h.step a).scheduler.received id = h.scheduler.received id ++
      if id ∈ h.scheduler.subscribers then h.scheduler.machine.frames (h.stepCalls a) else [] := by
  have none {cs : List (Machine.Call R)} (hc : h.scheduler.machine.frames cs = []) :
      h.scheduler.received id = h.scheduler.received id ++
        if id ∈ h.scheduler.subscribers then h.scheduler.machine.frames cs else [] := by
    rw [hc, ite_self, List.append_nil]
  cases a with
  | op op => exact (received_apply h.scheduler op id).trans (none (frames_opCalls _ _ op))
  | elapse ms => exact none rfl
  | wake i =>
    rcases hs.wake_cases i with ⟨hstep, hcalls⟩ | ⟨t, hg, hr, hstep, hcalls⟩
    · rw [hstep, hcalls]; exact none rfl
    · rw [hstep, hcalls]
      exact (fire_observers hr hg).2.2 hl id

/-- Who is subscribed after a step. -/
theorem mem_subscribers_step (hs : h.Sound) (a : Step R) (id : Nat) :
    id ∈ (h.step a).scheduler.subscribers ↔
      (id ∈ h.scheduler.subscribers ∧ a ≠ .op (.unsubscribe id)) ∨
        (a = .op .subscribe ∧ id = h.scheduler.nextSubscription) := by
  rcases ha : a.isSubscription with _ | _
  · rw [(step_observers hs ha).1]
    constructor
    · exact fun hm => .inl ⟨hm, by rintro rfl; cases ha⟩
    · rintro (⟨hm, -⟩ | ⟨rfl, -⟩)
      · exact hm
      · cases ha
  · rcases Step.isSubscription_iff.mp ha with rfl | ⟨i, rfl⟩
    · show id ∈ h.scheduler.subscribers ++ [h.scheduler.nextSubscription] ↔ _
      simp
    · show id ∈ h.scheduler.subscribers.filter (· != i) ↔ _
      rw [List.mem_filter, bne_iff_ne]
      constructor
      · exact fun ⟨hm, hne⟩ => .inl ⟨hm, by rintro ⟨⟩; exact hne rfl⟩
      · rintro (⟨hm, hne⟩ | ⟨⟨⟩, -⟩)
        exact ⟨hm, fun hi => hne (hi ▸ rfl)⟩

theorem nextSubscription_step (hs : h.Sound) (a : Step R) :
    ((h.step a).scheduler.nextSubscription = h.scheduler.nextSubscription ∧ a ≠ .op .subscribe) ∨
      ((h.step a).scheduler.nextSubscription = h.scheduler.nextSubscription + 1 ∧
        a = .op .subscribe) := by
  rcases ha : a.isSubscription with _ | _
  · exact .inl ⟨(step_observers hs ha).2, by rintro rfl; cases ha⟩
  · rcases Step.isSubscription_iff.mp ha with rfl | ⟨i, rfl⟩
    · exact .inr ⟨rfl, rfl⟩
    · exact .inl ⟨rfl, by rintro ⟨⟩⟩

end History

end Scheduler

end LedStrip
