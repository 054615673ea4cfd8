import LedStrip.Proofs.CommandLine.Transcript
import LedStrip.Proofs.Scheduler.Periods
import LedStrip.Proofs.Scheduler.Statuses

/-!
# Headless runs

A headless run waits for messages on three channels: frames, errors and the newest status.  It takes
whichever it likes first, as long as it has taken all that a tick sent before the next tick comes
(`HeadlessRun.Reached`).  `Task.Going` relates the lines it has printed and the messages that still
wait to what the ticks of the machine came to; every move keeps it or leads to an end
(`Task.Going.take`, `Task.Going.period`).  So the order makes no difference (`run_tells_ticks`), and taking the messages in
the order in which they were sent is one of the orders (`Reached.steps`).
-/

namespace LedStrip

/-! ### Channels -/

/-- The messages that wait: frames and errors in the order in which they were sent, and of the
statuses the newest. -/
structure Channels where
  frames : List (Nat × Frame)
  errors : List (Nat × EffectError)
  status : Option Status

namespace Channels

/-- Messages, sorted into their channels. -/
def ofEvents (es : List Event) : Channels where
  frames := es.filterMap Event.frame?
  errors := es.filterMap Event.error?
  status := (es.filterMap Event.status?).getLast?

/-- A message can be taken from one of the channels. -/
inductive Offers : Channels → Event → Channels → Prop
  | frame (i : Nat) (f : Frame) (frames : List (Nat × Frame)) (errors : List (Nat × EffectError))
      (status : Option Status) :
      Offers ⟨(i, f) :: frames, errors, status⟩ (.frame i f) ⟨frames, errors, status⟩
  | error (i : Nat) (e : EffectError) (frames : List (Nat × Frame))
      (errors : List (Nat × EffectError)) (status : Option Status) :
      Offers ⟨frames, (i, e) :: errors, status⟩ (.error i e) ⟨frames, errors, status⟩
  | status (s : Status) (frames : List (Nat × Frame)) (errors : List (Nat × EffectError)) :
      Offers ⟨frames, errors, some s⟩ (.status s) ⟨frames, errors, none⟩

/-- All that a tick can have sent was taken. -/
def Served (c : Channels) : Prop := c.frames = [] ∧ c.errors = [] ∧ c.status ≠ some .paused

/-- Messages that are sent wait behind those that wait already; a status replaces the one before. -/
theorem ofEvents_append (es ds : List Event) :
    ofEvents (es ++ ds) =
      ⟨(ofEvents es).frames ++ (ofEvents ds).frames, (ofEvents es).errors ++ (ofEvents ds).errors,
        (ofEvents ds).status.or (ofEvents es).status⟩ := by
  simp only [ofEvents, List.filterMap_append, List.getLast?_append]

/-- The first message can be taken, unless it is a status and another one came after it. -/
theorem offers_first {e : Event} {rest : List Event}
    (h : ∀ s, e = .status s → rest.filterMap Event.status? = []) :
    (ofEvents (e :: rest)).Offers e (ofEvents rest) := by
  cases e with
  | frame i f => exact .frame i f _ _ _
  | error i e => exact .error i e _ _ _
  | status s =>
    have hnone : (ofEvents rest).status = none := congrArg List.getLast? (h s rfl)
    have hrest : ofEvents rest = ⟨(ofEvents rest).frames, (ofEvents rest).errors, none⟩ := by
      rw [← hnone]
    have hsorted := ofEvents_append [.status s] rest
    rw [hnone] at hsorted
    rw [hrest, show ofEvents (.status s :: rest) = _ from hsorted]
    exact .status s _ _

/-- Nobody sees a status that another one has replaced. -/
theorem ofEvents_replaced {s : Status} {rest : List Event}
    (h : rest.filterMap Event.status? ≠ []) : ofEvents (.status s :: rest) = ofEvents rest := by
  obtain ⟨s', hs'⟩ : ∃ s', (ofEvents rest).status = some s' :=
    ⟨_, List.getLast?_eq_some_getLast h⟩
  have hsorted := ofEvents_append [.status s] rest
  rw [hs', Option.some_or, ← hs'] at hsorted
  exact hsorted

/-- The messages of channels, in one of the orders in which they can have been sent. -/
def events (c : Channels) : List Event :=
  c.frames.map (fun p => Event.frame p.1 p.2) ++ c.errors.map (fun p => Event.error p.1 p.2) ++
    c.status.toList.map Event.status

theorem ofEvents_events (c : Channels) : ofEvents c.events = c := by
  obtain ⟨frames, errors, status⟩ := c
  have hframes : ofEvents (frames.map fun p => Event.frame p.1 p.2) = ⟨frames, [], none⟩ := by
    simp [ofEvents, Function.comp_def, Event.frame?, Event.error?, Event.status?]
  have herrors : ofEvents (errors.map fun p => Event.error p.1 p.2) = ⟨[], errors, none⟩ := by
    simp [ofEvents, Function.comp_def, Event.frame?, Event.error?, Event.status?]
  have hstatus : ofEvents (status.toList.map Event.status) = ⟨[], [], status⟩ := by
    cases status <;> rfl
  unfold events
  rw [ofEvents_append, ofEvents_append, hframes, herrors, hstatus]
  simp

/-- Where something has to be taken, something can be. -/
theorem exists_offers {c : Channels} (h : ¬ c.Served) : ∃ e es, c.Offers e (ofEvents es) := by
  obtain ⟨frames, errors, status⟩ := c
  have offered {e : Event} {c' : Channels} (ho : Offers ⟨frames, errors, status⟩ e c') :
      ∃ e es, Offers ⟨frames, errors, status⟩ e (ofEvents es) :=
    ⟨e, c'.events, by rw [ofEvents_events]; exact ho⟩
  rcases frames with _ | ⟨⟨i, f⟩, frames⟩
  · rcases errors with _ | ⟨⟨i, e⟩, errors⟩
    · rcases status with _ | s
      · exact absurd ⟨rfl, rfl, fun hnone => nomatch hnone⟩ h
      · exact offered (.status s _ _)
    · exact offered (.error i e _ _ _)
  · exact offered (.frame i f _ _ _)

end Channels

theorem Session.toggleRun_of_idle {R σ : Type} [Effect R σ] {s : Session R σ}
    (h : s.status = .idle) : s.toggleRun.2 = { s with scheduler := s.scheduler.start.2 } := by
  unfold toggleRun
  rw [if_pos h]

namespace HeadlessRun

open Scheduler (Poised HaltedBy tickMessages)
open Channels (ofEvents Offers)

variable {R σ : Type}

/-! ### Moves -/

section Moves

/-- The messages that wait for a run. -/
def waiting (r : HeadlessRun R σ) : Channels := ofEvents r.session.scheduler.outbox.toList

/-- The run with other messages waiting. -/
def withOutbox (r : HeadlessRun R σ) (es : List Event) : HeadlessRun R σ :=
  { r with session := { r.session with
      scheduler := { r.session.scheduler with outbox := es.toArray } } }

/-- The end of a run whose machine stops: a reset hook that fails decides, else the result. -/
def closing [Effect R σ] (m : Machine R σ) (result : Except String Unit) : Except String Unit :=
  match m.stop.1 with
  | .error e => .error e.message
  | .ok _ => result

variable [Effect R σ]

/-- The run one period later. -/
def elapse (r : HeadlessRun R σ) : HeadlessRun R σ :=
  { r with session := { r.session with
      scheduler := r.session.scheduler.advance r.session.speed } }

/-- The lines that a run may have printed after some periods, with the run.  It takes the messages
that wait in any order, but all that a tick has sent before the next period. -/
inductive Reached (start : List String × HeadlessRun R σ) :
    Nat → List String → HeadlessRun R σ → Prop
  | start : Reached start 0 start.1 start.2
  | take {n : Nat} {lines : List String} {r : HeadlessRun R σ} {e : Event} {es : List Event} :
      Reached start n lines r → r.outcome = none → r.waiting.Offers e (ofEvents es) →
      Reached start n (lines ++ ((r.withOutbox es).take e).1) ((r.withOutbox es).take e).2
  | period {n : Nat} {lines : List String} {r : HeadlessRun R σ} :
      Reached start n lines r → r.outcome = none → r.waiting.Served →
      Reached start (n + 1) lines r.elapse

/-- The run has ended, or it has taken all that the last tick sent. -/
def Settled (r : HeadlessRun R σ) : Prop := r.outcome.isSome = true ∨ r.waiting.Served

omit [Effect R σ] in
theorem waiting_withOutbox (r : HeadlessRun R σ) (es : List Event) :
    (r.withOutbox es).waiting = ofEvents es := by
  unfold waiting withOutbox
  rw [List.toList_toArray]

/-- What a run leaves behind when it is closed. -/
theorem close_eq (r : HeadlessRun R σ) (result : Except String Unit) :
    (r.close result).outcome = some (closing r.session.scheduler.machine result) ∧
      (r.close result).session.scheduler.machine = r.session.scheduler.machine.stop.2 ∧
      (r.close result).session.scheduler.timer = none := ⟨rfl, rfl, rfl⟩

end Moves

/-! ### Runs under way -/

/-- What is to be told: the ticks of a machine, started, under a policy and below a header. -/
structure Task (R σ : Type) where
  id : String
  header : String
  wanted : Nat
  policy : TickPolicy
  machine : Machine R σ

variable [Effect R σ]

/-- What the first ticks come to. -/
def Task.yields (t : Task R σ) (n : Nat) : List Yield := t.machine.yields n

/-- What the ticks so far leave to do: go on, or take the news that the machine was halted. -/
inductive Task.Phase (t : Task R σ) (n : Nat) (pending : List Yield) (r : HeadlessRun R σ) : Prop
  | ticking : r.session.scheduler.Poised t.policy r.subscriber r.receiver (t.machine.ticked n) →
      (t.policy = .halt → ∀ y ∈ t.yields n, y.isOk = true) → r.waiting.status ≠ some .paused →
      Phase t n pending r
  | halted {e : EffectError} : r.session.scheduler.HaltedBy e (t.machine.ticked n) →
      t.policy = .halt → firstError? (t.yields n) = some e → pending = [] →
      r.waiting.status = some .paused → Phase t n pending r

/-- A run under way after some periods: of what is shown, some was told and at most one thing waits
to be taken. -/
structure Task.Going (t : Task R σ) (n : Nat) (told pending : List Yield) (lines : List String)
    (r : HeadlessRun R σ) : Prop where
  outcome_eq : r.outcome = none
  id_eq : r.id = t.id
  wanted_eq : r.wanted = t.wanted
  shown_eq : t.policy.shown (t.yields n) = told ++ pending
  lines_eq : lines = t.header :: labelled 0 told
  printed_eq : r.printed = (framesOf told).length
  printed_lt : r.printed < t.wanted
  pending_short : pending.length ≤ 1
  frames_eq : r.waiting.frames = (framesOf pending).map (r.subscriber, ·)
  errors_eq : r.waiting.errors = (errorsOf pending).map (r.receiver, ·)
  phase : t.Phase n pending r

/-- A run that has ended after some periods. -/
structure Task.Ended (t : Task R σ) (n : Nat) (lines : List String) (r : HeadlessRun R σ) : Prop where
  lines_eq : lines = t.header :: labelled 0 (upTo t.wanted (t.policy.shown (t.yields n)))
  outcome_eq : ∃ result, result? t.id t.wanted t.policy (t.yields n) = some result ∧
    r.outcome = some (closing (t.machine.ticked n) result)
  machine_eq : r.session.scheduler.machine = (t.machine.ticked n).stop.2
  timer_eq : r.session.scheduler.timer = none

section Steps

variable {t : Task R σ} {n : Nat} {told pending : List Yield} {lines : List String}
  {r : HeadlessRun R σ}

theorem one_at_most (h : pending.length ≤ 1) :
    pending = [] ∨ (∃ f, pending = [.ok f]) ∨ ∃ e, pending = [.error e] := by
  match pending, h with
  | [], _ => exact .inl rfl
  | [.ok f], _ => exact .inr (.inl ⟨f, rfl⟩)
  | [.error e], _ => exact .inr (.inr ⟨e, rfl⟩)

/-! What taking a message does, as long as the run has not ended. -/

theorem take_frame (ho : r.outcome = none) (f : Frame) :
    r.take (.frame r.subscriber f) =
      ([numbered r.printed f.toHex], { r with printed := r.printed + 1 }.closeIfDone) := by
  have hgoing : ¬ r.outcome.isSome = true := by simp [ho]
  rw [take, if_neg hgoing]
  exact if_pos rfl

theorem take_error (ho : r.outcome = none) (e : EffectError) :
    r.take (.error r.receiver e) = ([numbered r.printed s!"error: {e.message}"], r) := by
  have hgoing : ¬ r.outcome.isSome = true := by simp [ho]
  rw [take, if_neg hgoing]
  exact if_pos rfl

theorem take_paused (ho : r.outcome = none) {e : EffectError}
    (he : r.session.scheduler.lastError = some e) :
    r.take (.status .paused) = ([], r.close (.error s!"{r.id}: {e.message}")) := by
  have hgoing : ¬ r.outcome.isSome = true := by simp [ho]
  rw [take, if_neg hgoing]
  dsimp only
  rw [he]
  rfl

theorem take_status {status : Status} (hs : status ≠ .paused) : r.take (.status status) = ([], r) := by
  unfold take
  split
  · rfl
  · cases status with
    | paused => exact absurd rfl hs
    | idle | running => rfl

/-- Closing a run that has told all there is to tell. -/
theorem Task.ended_of_close {result : Except String Unit}
    (hlines : lines = t.header :: labelled 0 (upTo t.wanted (t.policy.shown (t.yields n))))
    (hresult : result? t.id t.wanted t.policy (t.yields n) = some result)
    (hstop : r.session.scheduler.machine.stop = (t.machine.ticked n).stop) :
    t.Ended n lines (r.close result) := by
  obtain ⟨houtcome, hmachine, htimer⟩ := r.close_eq result
  refine ⟨hlines, ⟨result, hresult, ?_⟩, ?_, htimer⟩
  · rw [houtcome, closing, closing, hstop]
  · rw [hmachine, hstop]

/-- What was pending has its line below the others. -/
theorem Task.Going.tell {y : Yield} (h : t.Going n told [y] lines r) {es : List Event}
    (hes : ofEvents es = ⟨[], [], r.waiting.status⟩) {printed : Nat}
    (hprinted : printed = (framesOf (told ++ [y])).length) :
    lines ++ labelled r.printed [y] = t.header :: labelled 0 (told ++ [y]) ∧
      (printed < t.wanted → t.Going n (told ++ [y]) [] (lines ++ labelled r.printed [y])
        { r.withOutbox es with printed }) := by
  have hlines : lines ++ labelled r.printed [y] = t.header :: labelled 0 (told ++ [y]) := by
    rw [h.lines_eq, h.printed_eq, labelled_append, Nat.zero_add]
    rfl
  refine ⟨hlines, fun hlt => ?_⟩
  have hwaiting : HeadlessRun.waiting { r.withOutbox es with printed } =
      ⟨[], [], r.waiting.status⟩ := (r.waiting_withOutbox es).trans hes
  refine ⟨h.outcome_eq, h.id_eq, h.wanted_eq, ?_, hlines, hprinted, hlt, Nat.zero_le _, ?_, ?_, ?_⟩
  · rw [h.shown_eq, List.append_nil]
  · exact congrArg Channels.frames hwaiting
  · exact congrArg Channels.errors hwaiting
  · cases h.phase with
    | halted _ _ _ hnil _ => cases hnil
    | ticking hpoised hok hstatus =>
      refine .ticking (hpoised.withOutbox _) hok ?_
      rw [hwaiting]
      exact hstatus

/-- A frame that waits is printed under its number; with the last that was wanted the run ends. -/
theorem Task.Going.take_frame {f : Frame} (h : t.Going n told [.ok f] lines r) {es : List Event}
    (hes : ofEvents es = ⟨[], [], r.waiting.status⟩) :
    let next := (r.withOutbox es).take (.frame r.subscriber f)
    t.Going n (told ++ [.ok f]) [] (lines ++ next.1) next.2 ∨
      t.Ended n (lines ++ next.1) next.2 := by
  have hcount : r.printed + 1 = (framesOf (told ++ [.ok f])).length := by
    rw [framesOf_append, List.length_append, h.printed_eq]
    rfl
  obtain ⟨hlines, hgoing⟩ := h.tell hes hcount
  let later : HeadlessRun R σ := { r.withOutbox es with printed := r.printed + 1 }
  have htake : (r.withOutbox es).take (.frame r.subscriber f) =
      (labelled r.printed [.ok f], later.closeIfDone) :=
    HeadlessRun.take_frame (r := r.withOutbox es) h.outcome_eq f
  intro next
  by_cases hmore : r.printed + 1 < r.wanted
  · have hopen : later.closeIfDone = later := if_pos hmore
    rw [show next = _ from htake, hopen]
    exact .inl (hgoing (h.wanted_eq ▸ hmore))
  · have hclosed : later.closeIfDone = later.close (.ok ()) := if_neg hmore
    have hprinted := h.printed_lt
    have hwanted := h.wanted_eq
    rw [show next = _ from htake, hclosed]
    refine .inr (Task.ended_of_close ?_ ?_ ?_)
    · rw [h.shown_eq, upTo_concat (by rw [← h.printed_eq]; omega)]
      exact hlines
    · exact result?_of_enough (by rw [h.shown_eq, ← hcount]; omega)
    · cases h.phase with
      | halted _ _ _ hnil _ => cases hnil
      | ticking hpoised _ _ => exact congrArg Machine.stop hpoised.machine_eq

/-- An error that waits is printed below the frames so far. -/
theorem Task.Going.take_error {e : EffectError} (h : t.Going n told [.error e] lines r)
    {es : List Event} (hes : ofEvents es = ⟨[], [], r.waiting.status⟩) :
    let next := (r.withOutbox es).take (.error r.receiver e)
    t.Going n (told ++ [.error e]) [] (lines ++ next.1) next.2 := by
  have hcount : r.printed = (framesOf (told ++ [.error e])).length := by
    rw [framesOf_append, List.length_append, h.printed_eq]
    rfl
  have htake : (r.withOutbox es).take (.error r.receiver e) =
      (labelled r.printed [.error e], r.withOutbox es) :=
    HeadlessRun.take_error (r := r.withOutbox es) h.outcome_eq e
  intro next
  rw [show next = _ from htake]
  exact (h.tell hes hcount).2 h.printed_lt

/-- A status that waits means nothing, unless it is the news that the machine was halted. -/
theorem Task.Going.take_status {status : Status} (h : t.Going n told pending lines r)
    (hstatus : r.waiting.status = some status) {es : List Event}
    (hes : ofEvents es = ⟨r.waiting.frames, r.waiting.errors, none⟩) :
    let next := (r.withOutbox es).take (.status status)
    t.Going n told pending (lines ++ next.1) next.2 ∨ t.Ended n (lines ++ next.1) next.2 := by
  have hwaiting := (r.waiting_withOutbox es).trans hes
  intro next
  cases h.phase with
  | ticking hpoised hok hnot =>
    have hne : status ≠ .paused := fun hp => hnot (hstatus.trans (congrArg some hp))
    rw [show next = _ from HeadlessRun.take_status hne, List.append_nil]
    refine .inl ⟨h.outcome_eq, h.id_eq, h.wanted_eq, h.shown_eq, h.lines_eq, h.printed_eq,
      h.printed_lt, h.pending_short, ?_, ?_, .ticking (hpoised.withOutbox _) hok ?_⟩
    · rw [hwaiting]
      exact h.frames_eq
    · rw [hwaiting]
      exact h.errors_eq
    · rw [hwaiting]
      exact fun hnone => nomatch hnone
  | @halted e hhalted hpolicy he hnil hpaused =>
    obtain rfl : status = .paused := Option.some.inj (hstatus.symm.trans hpaused)
    subst hnil
    have htold : t.policy.shown (t.yields n) = told := by rw [h.shown_eq, List.append_nil]
    have hfewer : (framesOf (t.policy.shown (t.yields n))).length < t.wanted := by
      rw [htold, ← h.printed_eq]
      exact h.printed_lt
    have htake : (r.withOutbox es).take (.status .paused) =
        ([], (r.withOutbox es).close (.error s!"{t.id}: {e.message}")) := by
      rw [← h.id_eq]
      exact take_paused (r := r.withOutbox es) h.outcome_eq hhalted.lastError_eq
    rw [show next = _ from htake, List.append_nil]
    refine .inr (Task.ended_of_close ?_ (result?_of_error hfewer hpolicy he) ?_)
    · rw [upTo_of_lt hfewer, htold]
      exact h.lines_eq
    · -- stopping does not ask whether the machine was paused
      have hstop := congrArg Machine.stop hhalted.machine_eq
      exact hstop

/-- **Whichever message is taken first**, the run goes on as it should or ends as it should. -/
theorem Task.Going.take (h : t.Going n told pending lines r) {e : Event} {es : List Event}
    (he : r.waiting.Offers e (ofEvents es)) :
    let next := (r.withOutbox es).take e
    (∃ told' pending', t.Going n told' pending' (lines ++ next.1) next.2) ∨
      t.Ended n (lines ++ next.1) next.2 := by
  have hframes := h.frames_eq
  have herrors := h.errors_eq
  generalize hw : r.waiting = waiting at he hframes herrors
  generalize hes : ofEvents es = rest at he
  cases he with
  | frame i f frames errors status =>
    -- the frame is all that is pending
    rcases one_at_most h.pending_short with rfl | ⟨g, rfl⟩ | ⟨e, rfl⟩
    · cases hframes
    · cases hframes
      cases herrors
      rcases h.take_frame (by rw [hes, hw]; rfl) with hgoing | hended
      · exact .inl ⟨_, _, hgoing⟩
      · exact .inr hended
    · cases hframes
  | error i e frames errors status =>
    rcases one_at_most h.pending_short with rfl | ⟨g, rfl⟩ | ⟨e, rfl⟩
    · cases herrors
    · cases herrors
    · cases hframes
      cases herrors
      exact .inl ⟨_, _, h.take_error (by rw [hes, hw]; rfl)⟩
  | status status frames errors =>
    rcases h.take_status (by rw [hw]) (by rw [hes, hw]) with hgoing | hended
    · exact .inl ⟨_, _, hgoing⟩
    · exact .inr hended

omit [Effect R σ] in
/-- What a tick sends is what is shown of it. -/
theorem ofEvents_tickMessages (policy : TickPolicy) (subscriber receiver : Nat) (y : Yield) :
    (ofEvents (tickMessages policy subscriber receiver y)).frames =
        (framesOf (policy.shown [y])).map (subscriber, ·) ∧
      (ofEvents (tickMessages policy subscriber receiver y)).errors =
        (errorsOf (policy.shown [y])).map (receiver, ·) := by
  cases y with
  | ok f => cases policy <;> exact ⟨rfl, rfl⟩
  | error e => cases policy <;> exact ⟨rfl, rfl⟩

omit [Effect R σ] in
/-- A tick that does not halt the machine is no news of its status. -/
theorem status_tickMessages {policy : TickPolicy} {y : Yield} (h : policy = .halt → y.isOk = true)
    (subscriber receiver : Nat) :
    (ofEvents (tickMessages policy subscriber receiver y)).status = none := by
  cases y with
  | ok f => rfl
  | error e =>
    cases policy with
    | halt => cases h rfl
    | skipFrame | propagate => rfl

/-- A run that has taken all that the last tick sent waits for the next. -/
theorem Task.Going.ticking_of_served (h : t.Going n told pending lines r)
    (hserved : r.waiting.Served) :
    r.session.scheduler.Poised t.policy r.subscriber r.receiver (t.machine.ticked n) ∧
      (t.policy = .halt → ∀ y ∈ t.yields n, y.isOk = true) ∧ pending = [] := by
  obtain ⟨hframes, herrors, hnews⟩ := hserved
  cases h.phase with
  | halted _ _ _ _ hpaused => exact absurd hpaused hnews
  | ticking hpoised hok _ =>
    refine ⟨hpoised, hok, ?_⟩
    rcases one_at_most h.pending_short with rfl | ⟨f, rfl⟩ | ⟨e, rfl⟩
    · rfl
    · cases h.frames_eq.symm.trans hframes
    · cases h.errors_eq.symm.trans herrors

/-- **A period** adds what its tick comes to. -/
theorem Task.Going.period (h : t.Going n told pending lines r) (hserved : r.waiting.Served) :
    t.Going (n + 1) told (t.policy.shown [(t.machine.ticked n).yield]) lines r.elapse := by
  obtain ⟨hpoised, hok, rfl⟩ := h.ticking_of_served hserved
  obtain ⟨hframes, herrors, hnews⟩ := hserved
  have hyields : t.yields (n + 1) = t.yields n ++ [(t.machine.ticked n).yield] :=
    t.machine.yields_succ n
  obtain ⟨hframe, herror⟩ := ofEvents_tickMessages t.policy r.subscriber r.receiver
    (t.machine.ticked n).yield
  obtain ⟨hsent, hphase⟩ := hpoised.period
  have hwaiting : r.elapse.waiting = ofEvents (r.session.scheduler.outbox.toList ++
      tickMessages t.policy r.subscriber r.receiver (t.machine.ticked n).yield) :=
    congrArg ofEvents hsent
  rw [Channels.ofEvents_append] at hwaiting
  refine ⟨h.outcome_eq, h.id_eq, h.wanted_eq, ?_, h.lines_eq, h.printed_eq, h.printed_lt, ?_, ?_,
    ?_, ?_⟩
  · rw [hyields, shown_concat hok, h.shown_eq, List.append_nil]
  · exact length_shown_le t.policy [_]
  · rw [hwaiting, hframe]
    exact congrArg (· ++ _) hframes
  · rw [hwaiting, herror]
    exact congrArg (· ++ _) herrors
  · rcases hphase with ⟨hnext, hnot⟩ | ⟨hhalt, e, he, hhalted⟩
    · refine .ticking hnext (fun hhalt y hy => ?_) ?_
      · rw [hyields, List.mem_append, List.mem_singleton] at hy
        rcases hy with hy | rfl
        · exact hok hhalt y hy
        · exact hnot hhalt
      · rw [hwaiting, status_tickMessages hnot]
        exact hnews
    · refine .halted hhalted hhalt ?_ ?_ ?_
      · rw [hyields, he]
        exact firstError?_concat (hok hhalt) e
      · rw [hhalt, he]
        rfl
      · rw [hwaiting, hhalt, he]
        rfl

end Steps

/-! ### From the start on -/

/-- What a run prints before any frame. -/
def header (s : Session R σ) : String :=
  s!"{s.effectId}: {s.leds.ledCount} LEDs, {s.speed} ms per frame"

section FromStart

variable {session : Session R σ} {m : Machine R σ} {policy : TickPolicy}

/-- A run starts under way, with the news that the machine runs; if no frame is wanted, it ends
there. -/
theorem going_start (hs : session.scheduler = .create m policy) (hidle : m.status = .idle)
    (hspeed : 1 ≤ m.speed) (id : String) (wanted : Nat) :
    let t : Task R σ := ⟨id, header session, wanted, policy, m.start.2⟩
    let start := HeadlessRun.start id session wanted
    (t.Going 0 [] [] start.1 start.2 ∧
        start.2.session.scheduler.outbox.toList = [.status .running]) ∨
      t.Ended 0 start.1 start.2 := by
  obtain ⟨effectId, name, scheduler, bridge, panel, widgets, shown, range, device⟩ := session
  obtain rfl : scheduler = .create m policy := hs
  intro t start
  -- the scheduler with its observers, before it is started
  let observed : Scheduler R σ := (Scheduler.create m policy).subscribe.2.takeErrors.2
  obtain ⟨hpoised, houtbox⟩ : observed.start.2.Poised policy 0 0 m.start.2 ∧
      observed.start.2.outbox.toList = [.status .running] :=
    Scheduler.poised_start hidle hspeed policy
  let run : HeadlessRun R σ :=
    { id, wanted, subscriber := 0, receiver := 0,
      session := ⟨effectId, name, observed.start.2, bridge, panel, widgets, shown, range, device⟩ }
  have hrun : start = ([t.header], run.closeIfDone) := by
    let s : Session R σ :=
      ⟨effectId, name, observed, bridge, panel, widgets, shown, range, device⟩
    have htoggle : s.toggleRun.2 = { s with scheduler := s.scheduler.start.2 } :=
      Session.toggleRun_of_idle hidle
    have hstart : start =
        ([t.header], closeIfDone ⟨id, s.toggleRun.2, 0, 0, wanted, 0, none⟩) := rfl
    rw [hstart, htoggle]
  have hwaiting : run.waiting = ⟨[], [], some .running⟩ := congrArg ofEvents houtbox
  rw [hrun]
  by_cases hmore : 0 < wanted
  · have hopen : run.closeIfDone = run := if_pos hmore
    rw [hopen]
    refine .inl ⟨⟨rfl, rfl, rfl, ?_, rfl, rfl, hmore, Nat.zero_le _, ?_, ?_, ?_⟩, houtbox⟩
    · show policy.shown [] = []
      cases policy <;> rfl
    · exact congrArg Channels.frames hwaiting
    · exact congrArg Channels.errors hwaiting
    · refine .ticking hpoised (fun _ _ hy => (List.not_mem_nil hy).elim) ?_
      rw [hwaiting]
      exact fun hpaused => nomatch hpaused
  · have hclosed : run.closeIfDone = run.close (.ok ()) := if_neg hmore
    obtain rfl : wanted = 0 := by omega
    rw [hclosed]
    refine .inr (Task.ended_of_close ?_ (result?_of_enough (Nat.zero_le _))
      (congrArg Machine.stop hpoised.machine_eq))
    rw [show t.wanted = 0 from rfl, upTo_zero]
    rfl

variable {id : String} {wanted : Nat}

/-- **Whatever way a run takes**, it is under way or has ended as it should. -/
theorem Reached.going_or_ended (hs : session.scheduler = .create m policy) (hidle : m.status = .idle)
    (hspeed : 1 ≤ m.speed) {n : Nat} {lines : List String} {r : HeadlessRun R σ}
    (h : Reached (HeadlessRun.start id session wanted) n lines r) :
    let t : Task R σ := ⟨id, header session, wanted, policy, m.start.2⟩
    (∃ told pending, t.Going n told pending lines r) ∨ t.Ended n lines r := by
  intro t
  have ended_ne_none {n : Nat} {lines : List String} {r : HeadlessRun R σ} (he : t.Ended n lines r) :
      r.outcome ≠ none := by
    obtain ⟨result, -, houtcome⟩ := he.outcome_eq
    rw [houtcome]
    exact fun hnone => nomatch hnone
  induction h with
  | start =>
    rcases going_start hs hidle hspeed id wanted with ⟨hgoing, -⟩ | hended
    · exact .inl ⟨_, _, hgoing⟩
    · exact .inr hended
  | take _ hopen hoffers ih =>
    rcases ih with ⟨told, pending, hgoing⟩ | hended
    · exact hgoing.take hoffers
    · exact absurd hopen (ended_ne_none hended)
  | period _ hopen hserved ih =>
    rcases ih with ⟨told, pending, hgoing⟩ | hended
    · exact .inl ⟨_, _, hgoing.period hserved⟩
    · exact absurd hopen (ended_ne_none hended)

end FromStart

/-! ### Messages in the order in which they were sent -/

section InOrder

variable {start : List String × HeadlessRun R σ} {n : Nat} {lines : List String}
  {r : HeadlessRun R σ}

/-- Closing a run sends the status of its machine behind the messages that wait. -/
theorem close_withOutbox (r : HeadlessRun R σ) (es : List Event) (result : Except String Unit) :
    (r.withOutbox es).close result = (r.close result).withOutbox (es ++ [Event.status .idle]) := by
  have hpush : es.toArray.push (Event.status .idle) = (es ++ [Event.status .idle]).toArray :=
    List.push_toArray es _
  unfold withOutbox
  rw [← hpush]
  rfl

/-- Taking a message does not ask what else waits: it counts a frame at most, or closes the run. -/
theorem take_cases (r : HeadlessRun R σ) (e : Event) :
    ∃ lines printed,
      (∀ es, (r.withOutbox es).take e = (lines, { r.withOutbox es with printed })) ∨
      ∃ result, ∀ es,
        (r.withOutbox es).take e = (lines, close { r.withOutbox es with printed } result) := by
  by_cases ho : r.outcome.isSome = true
  · exact ⟨[], r.printed, .inl fun es => if_pos ho⟩
  have hopen : r.outcome = none := by simpa using ho
  cases e with
  | frame i f =>
    by_cases hi : i = r.subscriber
    · subst hi
      refine ⟨[numbered r.printed f.toHex], r.printed + 1, ?_⟩
      have htake := fun es => take_frame (r := r.withOutbox es) hopen f
      by_cases hmore : r.printed + 1 < r.wanted
      · exact .inl fun es => (htake es).trans (congrArg _ (if_pos hmore))
      · exact .inr ⟨_, fun es => (htake es).trans (congrArg _ (if_neg hmore))⟩
    · exact ⟨[], r.printed, .inl fun es => (if_neg ho).trans (if_neg hi)⟩
  | error i e =>
    by_cases hi : i = r.receiver
    · subst hi
      exact ⟨[numbered r.printed s!"error: {e.message}"], r.printed,
        .inl fun es => take_error (r := r.withOutbox es) hopen e⟩
    · exact ⟨[], r.printed, .inl fun es => (if_neg ho).trans (if_neg hi)⟩
  | status s =>
    cases s with
    | paused =>
      let reason := (r.session.scheduler.lastError.map EffectError.message).getD "machine paused"
      exact ⟨[], r.printed, .inr ⟨.error s!"{r.id}: {reason}", fun es => if_neg ho⟩⟩
    | idle | running => exact ⟨[], r.printed, .inl fun es => if_neg ho⟩

/-- What waits besides a message stays behind it. -/
theorem take_withOutbox (r : HeadlessRun R σ) (es : List Event) (e : Event) :
    ∃ es', (r.withOutbox es).take e = ((r.take e).1, (r.take e).2.withOutbox es') ∧
      ((r.take e).2.outcome = none → es' = es ∧ (r.take e).2.session = r.session) := by
  obtain ⟨lines, printed, htake | ⟨result, htake⟩⟩ := r.take_cases e
  · have hself : r.take e = (lines, { r with printed }) := htake r.session.scheduler.outbox.toList
    rw [hself, htake es]
    exact ⟨es, rfl, fun _ => ⟨rfl, rfl⟩⟩
  · have hself : r.take e = (lines, close { r with printed } result) :=
      htake r.session.scheduler.outbox.toList
    rw [hself, htake es]
    exact ⟨_, congrArg _ (close_withOutbox { r with printed } es result), fun hnone => nomatch hnone⟩

/-- Messages of which no status is behind the news that the machine was halted. -/
def Orderly (es : List Event) : Prop :=
  es.Pairwise fun e later => e = .status .paused → later.status? = none

theorem takeAll_of_ended (h : r.outcome ≠ none) (es : List Event) : r.takeAll es = ([], r) := by
  have hended : r.outcome.isSome = true := Option.isSome_iff_ne_none.mpr h
  induction es with
  | nil => rfl
  | cons e rest ih =>
    have htake : r.take e = ([], r) := if_pos hended
    rw [HeadlessRun.takeAll, htake]
    dsimp only
    rw [ih]
    rfl

/-- **Taking all messages in the order in which they were sent** is a way to take them. -/
theorem Reached.takeAll {es es₀ : List Event} (hes : ofEvents es₀ = ofEvents es) (ho : Orderly es)
    (h : Reached start n lines (r.withOutbox es₀)) :
    ∃ es', Reached start n (lines ++ (r.takeAll es).1) ((r.takeAll es).2.withOutbox es') ∧
      ((r.takeAll es).2.outcome = none →
        ofEvents es' = ofEvents [] ∧ (r.takeAll es).2.session = r.session) := by
  induction es generalizing es₀ r lines with
  | nil =>
    rw [HeadlessRun.takeAll, List.append_nil]
    exact ⟨es₀, h, fun _ => ⟨hes, rfl⟩⟩
  | cons e rest ih =>
    obtain ⟨hfirst, hrest⟩ := List.pairwise_cons.mp ho
    by_cases hopen : r.outcome = none
    swap
    · rw [takeAll_of_ended hopen, List.append_nil]
      exact ⟨es₀, h, fun hnone => absurd hnone hopen⟩
    have hall : r.takeAll (e :: rest) = ((r.take e).1 ++ ((r.take e).2.takeAll rest).1,
        ((r.take e).2.takeAll rest).2) := rfl
    rw [hall, ← List.append_assoc]
    -- a message that can be taken is taken, with the rest behind it
    have taken (hoffers : (ofEvents es₀).Offers e (ofEvents rest)) :
        ∃ es', Reached start n (lines ++ (r.take e).1 ++ ((r.take e).2.takeAll rest).1)
            (((r.take e).2.takeAll rest).2.withOutbox es') ∧
          (((r.take e).2.takeAll rest).2.outcome = none →
            ofEvents es' = ofEvents [] ∧ ((r.take e).2.takeAll rest).2.session = r.session) := by
      have hmove := h.take hopen (by rw [waiting_withOutbox]; exact hoffers)
      obtain ⟨es₁, htake, hkept⟩ := r.take_withOutbox rest e
      rw [show (r.withOutbox es₀).withOutbox rest = r.withOutbox rest from rfl, htake] at hmove
      by_cases hnext : (r.take e).2.outcome = none
      · obtain ⟨rfl, hsession⟩ := hkept hnext
        obtain ⟨es', hreached, hend⟩ := ih rfl hrest hmove
        exact ⟨es', hreached, fun hnone => ⟨(hend hnone).1, (hend hnone).2.trans hsession⟩⟩
      · rw [takeAll_of_ended hnext, List.append_nil]
        exact ⟨es₁, hmove, fun hnone => absurd hnone hnext⟩
    cases e with
    | frame i f => exact taken (hes ▸ Channels.offers_first fun _ hs => nomatch hs)
    | error i e => exact taken (hes ▸ Channels.offers_first fun _ hs => nomatch hs)
    | status s =>
      by_cases hnewest : rest.filterMap Event.status? = []
      · exact taken (hes ▸ Channels.offers_first fun _ _ => hnewest)
      · -- it was replaced, so that taking it changes nothing
        have hnews : s ≠ .paused := by
          rintro rfl
          exact hnewest (List.filterMap_eq_nil_iff.mpr fun b hb => hfirst b hb rfl)
        rw [take_status hnews, List.append_nil]
        exact ih (hes.trans (Channels.ofEvents_replaced hnewest)) hrest h

omit [Effect R σ] in
/-- A tick sends one message at most. -/
theorem orderly_tickMessages (policy : TickPolicy) (subscriber receiver : Nat) (y : Yield) :
    Orderly (tickMessages policy subscriber receiver y) := by
  cases y with
  | ok f => exact List.pairwise_singleton _ _
  | error e =>
    cases policy with
    | halt | propagate => exact List.pairwise_singleton _ _
    | skipFrame => exact .nil

omit [Effect R σ] in
theorem withOutbox_of_session_eq {r r' : HeadlessRun R σ}
    (h : r.session = (r'.withOutbox []).session) : r.withOutbox [] = r := by
  cases r
  cases h
  rfl

omit [Effect R σ] in
theorem eq_nil_of_ofEvents {es : List Event} (h : ofEvents es = ofEvents []) : es = [] := by
  cases es with
  | nil => rfl
  | cons e rest =>
    cases e with
    | frame i f => cases congrArg Channels.frames h
    | error i e => cases congrArg Channels.errors h
    | status s =>
      have hnone : ((Event.status s :: rest).filterMap Event.status?).getLast? = none :=
        congrArg Channels.status h
      cases List.getLast?_eq_none_iff.mp hnone

omit [Effect R σ] in
theorem served_of_running {es : List Event} (h : ∀ e ∈ es, e = .status .running) :
    (ofEvents es).Served := by
  refine ⟨?_, ?_, fun hpaused => ?_⟩
  · exact List.filterMap_eq_nil_iff.mpr fun e he => by rw [h e he]; rfl
  · exact List.filterMap_eq_nil_iff.mpr fun e he => by rw [h e he]; rfl
  · obtain ⟨e, he, hstatus⟩ := List.mem_filterMap.mp (List.mem_of_getLast? hpaused)
    rw [h e he] at hstatus
    cases hstatus

theorem steps_of_ended (h : r.outcome ≠ none) (n : Nat) : r.steps n = ([], r) := by
  cases n with
  | zero => rfl
  | succ n => exact if_pos (Option.isSome_iff_ne_none.mpr h)

theorem steps_succ (h : r.outcome = none) (n : Nat) :
    r.steps (n + 1) = (r.step.1 ++ (r.step.2.steps n).1, (r.step.2.steps n).2) := by
  rw [HeadlessRun.steps, if_neg (by simp [h])]

theorem step_eq (h : r.outcome = none) :
    r.step = (r.elapse.withOutbox []).takeAll r.elapse.session.scheduler.outbox.toList := by
  rw [HeadlessRun.step, if_neg (by simp [h])]
  rfl

end InOrder

section Steps

variable {session : Session R σ} {m : Machine R σ} {policy : TickPolicy} {id : String}
  {wanted : Nat} {k : Nat} {lines : List String} {r : HeadlessRun R σ}

/-- What waits after a period: the news that the machine runs, if nobody took it, and what the tick
sent. -/
theorem Reached.orderly (hs : session.scheduler = .create m policy) (hidle : m.status = .idle)
    (hspeed : 1 ≤ m.speed) (h : Reached (HeadlessRun.start id session wanted) k lines r)
    (hopen : r.outcome = none)
    (hquiet : ∀ e ∈ r.session.scheduler.outbox.toList, e = .status .running) :
    Orderly r.elapse.session.scheduler.outbox.toList := by
  have hnot : ∀ e ∈ r.session.scheduler.outbox.toList, e ≠ .status .paused := by
    intro e he hpaused
    cases (hquiet e he).symm.trans hpaused
  rcases h.going_or_ended hs hidle hspeed with ⟨told, pending, hgoing⟩ | hended
  · obtain ⟨hpoised, -, -⟩ := hgoing.ticking_of_served (served_of_running hquiet)
    have hsent : r.elapse.session.scheduler.outbox.toList = _ := hpoised.period.1
    rw [hsent]
    refine List.pairwise_append.mpr ⟨?_, orderly_tickMessages _ _ _ _, fun e he _ _ hpaused =>
      absurd hpaused (hnot e he)⟩
    exact List.pairwise_iff_forall_sublist.mpr fun hpair hpaused =>
      absurd hpaused (hnot _ (hpair.subset List.mem_cons_self))
  · obtain ⟨result, -, houtcome⟩ := hended.outcome_eq
    cases houtcome.symm.trans hopen

/-- **Periods that pass one after the other** are a way that a run can take. -/
theorem Reached.steps (hs : session.scheduler = .create m policy) (hidle : m.status = .idle)
    (hspeed : 1 ≤ m.speed) (h : Reached (HeadlessRun.start id session wanted) k lines r)
    (hquiet : r.outcome = none →
      ∀ e ∈ r.session.scheduler.outbox.toList, e = .status .running) (n : Nat) :
    ∃ n' es, n' ≤ n ∧
      Reached (HeadlessRun.start id session wanted) (k + n') (lines ++ (r.steps n).1)
        ((r.steps n).2.withOutbox es) ∧
      ((r.steps n).2.outcome = none → n' = n ∧ (ofEvents es).Served) := by
  induction n generalizing k lines r with
  | zero =>
    refine ⟨0, r.session.scheduler.outbox.toList, Nat.le_refl _, ?_, fun hopen => ?_⟩
    · rw [HeadlessRun.steps, List.append_nil]
      exact h
    · exact ⟨rfl, served_of_running (hquiet hopen)⟩
  | succ n ih =>
    by_cases hopen : r.outcome = none
    swap
    · rw [steps_of_ended hopen, List.append_nil]
      exact ⟨0, _, Nat.zero_le _, h, fun hnone => absurd hnone hopen⟩
    have hperiod := h.period hopen (served_of_running (hquiet hopen))
    obtain ⟨es, hstep, hend⟩ := Reached.takeAll (r := r.elapse.withOutbox []) rfl
      (h.orderly hs hidle hspeed hopen (hquiet hopen)) hperiod
    rw [← step_eq hopen] at hstep hend
    rw [steps_succ hopen, ← List.append_assoc]
    by_cases hnext : r.step.2.outcome = none
    · obtain ⟨hes, hsession⟩ := hend hnext
      obtain rfl := eq_nil_of_ofEvents hes
      rw [withOutbox_of_session_eq hsession] at hstep
      obtain ⟨n', es', hle, hreached, hlast⟩ := ih hstep fun _ => by
        rw [hsession]
        exact fun e he => absurd he List.not_mem_nil
      refine ⟨n' + 1, es', Nat.succ_le_succ hle, ?_, fun hnone => ?_⟩
      · rw [show k + (n' + 1) = k + 1 + n' by omega]
        exact hreached
      · exact ⟨congrArg (· + 1) (hlast hnone).1, (hlast hnone).2⟩
    · rw [steps_of_ended hnext, List.append_nil]
      exact ⟨1, es, by omega, hstep, fun hnone => absurd hnone hnext⟩

end Steps

/-! ### All of it -/

section All

variable {session : Session R σ} {m : Machine R σ} {policy : TickPolicy} {id : String}
  {wanted : Nat} {n : Nat} {lines : List String} {r : HeadlessRun R σ}

/-- What a settled run has told, and how it has ended if it has. -/
theorem Reached.settled (hs : session.scheduler = .create m policy) (hidle : m.status = .idle)
    (hspeed : 1 ≤ m.speed) (h : Reached (HeadlessRun.start id session wanted) n lines r)
    (hsettled : r.Settled) :
    lines = header session :: labelled 0 (upTo wanted (policy.shown (m.start.2.yields n))) ∧
      r.outcome = (result? id wanted policy (m.start.2.yields n)).map
        (closing (m.start.2.ticked n)) := by
  rcases h.going_or_ended hs hidle hspeed with ⟨told, pending, hgoing⟩ | hended
  · have hserved : r.waiting.Served := by
      rcases hsettled with hsome | hserved
      · rw [hgoing.outcome_eq] at hsome
        cases hsome
      · exact hserved
    obtain ⟨-, hok, rfl⟩ := hgoing.ticking_of_served hserved
    have hshown := hgoing.shown_eq
    rw [List.append_nil] at hshown
    have hfewer : (framesOf (policy.shown (m.start.2.yields n))).length < wanted := by
      rw [show policy.shown (m.start.2.yields n) = told from hshown, ← hgoing.printed_eq]
      exact hgoing.printed_lt
    rw [upTo_of_lt hfewer, result?_of_fewer hfewer hok, hgoing.outcome_eq,
      show policy.shown (m.start.2.yields n) = told from hshown]
    exact ⟨hgoing.lines_eq, rfl⟩
  · obtain ⟨result, hresult, houtcome⟩ := hended.outcome_eq
    rw [show result? id wanted policy (m.start.2.yields n) = some result from hresult, houtcome]
    exact ⟨hended.lines_eq, rfl⟩

/-- A run goes on for another period only if there is nothing yet to end it. -/
theorem Reached.unended (hs : session.scheduler = .create m policy) (hidle : m.status = .idle)
    (hspeed : 1 ≤ m.speed) (h : Reached (HeadlessRun.start id session wanted) n lines r) :
    ∀ i < n, result? id wanted policy (m.start.2.yields i) = none := by
  induction h with
  | start => exact fun i hi => absurd hi (Nat.not_lt_zero i)
  | take _ _ _ ih => exact ih
  | @period n lines r hreached hopen hserved ih =>
    intro i hi
    rcases Nat.lt_succ_iff_lt_or_eq.mp hi with hlt | rfl
    · exact ih i hlt
    · have houtcome := (hreached.settled hs hidle hspeed (.inr hserved)).2
      rw [hopen] at houtcome
      exact Option.map_eq_none_iff.mp houtcome.symm

/-- **A headless run tells the ticks of its machine**, in whichever order it takes the messages that
wait.  Whenever it has taken all that a tick sent, it has printed its header and what the policy
shows of the ticks so far, up to the frame that was wanted last: each frame under its number, once
and in order, and under `propagate` each error under the number of frames before it.  It has ended
exactly if there is something to end it, and then the machine is stopped.  Until then it can always
go on, but never for a period too many; and taking the messages in the order in which they were
sent is one way to go on. -/
theorem run_tells_ticks (hs : session.scheduler = .create m policy) (hidle : m.status = .idle)
    (hspeed : 1 ≤ m.speed) (id : String) (wanted : Nat) :
    let start := HeadlessRun.start id session wanted
    let ys := m.start.2.yields
    (∀ n lines r, Reached start n lines r →
      (r.Settled →
        lines = header session :: transcript wanted policy (ys n) ∧
          r.outcome =
            (result? id wanted policy (ys n)).map (closing (m.start.2.ticked n))) ∧
        (r.outcome.isSome = true →
          r.session.scheduler.machine = (m.start.2.ticked n).stop.2 ∧
            r.session.scheduler.timer = none) ∧
        (¬ r.Settled → ∃ e es, r.waiting.Offers e (ofEvents es)) ∧
        ∀ i < n, result? id wanted policy (ys i) = none) ∧
      (∀ n, framesOf (upTo wanted (ys n)) = (framesOf (ys n)).take wanted) ∧
      ∀ n, ∃ n' es, n' ≤ n ∧
        Reached start n' (start.1 ++ (start.2.steps n).1) ((start.2.steps n).2.withOutbox es) ∧
        ((start.2.steps n).2.outcome = none →
          n' = n ∧ (ofEvents es).Served ∧ result? id wanted policy (ys n) = none) := by
  intro start ys
  refine ⟨fun n lines r h => ⟨fun hsettled => ?_, fun hsome => ?_, fun hnot => ?_, ?_⟩,
    fun n => framesOf_upTo wanted (ys n), fun n => ?_⟩
  · obtain ⟨hlines, houtcome⟩ := h.settled hs hidle hspeed hsettled
    rw [labelled_upTo_shown] at hlines
    exact ⟨hlines, houtcome⟩
  · rcases h.going_or_ended hs hidle hspeed with ⟨told, pending, hgoing⟩ | hended
    · rw [hgoing.outcome_eq] at hsome
      cases hsome
    · exact ⟨hended.machine_eq, hended.timer_eq⟩
  · exact Channels.exists_offers fun hserved => hnot (.inr hserved)
  · exact h.unended hs hidle hspeed
  · have hquiet : start.2.outcome = none →
        ∀ e ∈ start.2.session.scheduler.outbox.toList, e = .status .running := by
      intro hopen
      rcases going_start hs hidle hspeed id wanted with ⟨-, houtbox⟩ | hended
      · rw [houtbox]
        exact fun e he => List.mem_singleton.mp he
      · obtain ⟨result, -, houtcome⟩ := hended.outcome_eq
        cases houtcome.symm.trans hopen
    obtain ⟨n', es, hle, hreached, hlast⟩ := Reached.start.steps hs hidle hspeed hquiet n
    rw [Nat.zero_add] at hreached
    refine ⟨n', es, hle, hreached, fun hopen => ?_⟩
    obtain ⟨rfl, hserved⟩ := hlast hopen
    obtain ⟨-, houtcome⟩ := hreached.settled hs hidle hspeed
      (.inr (by rw [waiting_withOutbox]; exact hserved))
    exact ⟨rfl, hserved, Option.map_eq_none_iff.mp (houtcome.symm.trans hopen)⟩

/-- A session over a strip that falters. -/
def falteringSession (policy : TickPolicy) : Session Rat Machine.Replay where
  effectId := "replay"
  name := "Replay"
  scheduler := .create Machine.faltering policy
  bridge := .create (.obj []) none
  panel := none
  widgets := none
  shown := { value := .obj [] }
  range := .standard
  device := none

/-- The only frame of a faltering strip is printed; its short frame halts it, and what the run
reports is that the reset is refused as well. -/
theorem faltering_run_told :
    Machine.faltering.status = .idle ∧ 1 ≤ Machine.faltering.speed ∧
      ∃ lines r, Reached (HeadlessRun.start "replay" (falteringSession .halt) 2) 2 lines r ∧
        lines = ["replay: 2 LEDs, 1 ms per frame", "   0  010203 040506"] ∧
        r.outcome = some (.error (Machine.Replay.refusal .reset).message) ∧
        r.session.status = .idle := by
  have hspeed : 1 ≤ Machine.faltering.speed := by decide
  obtain ⟨htold, -, hways⟩ := @run_tells_ticks Rat Machine.Replay _ (falteringSession .halt)
    Machine.faltering .halt rfl rfl hspeed "replay" 2
  obtain ⟨n, es, hle, hreached, -⟩ := hways 2
  obtain ⟨htranscript, hstopped, -, -⟩ := htold n _ _ hreached
  let run := ((HeadlessRun.start "replay" (falteringSession .halt) 2).2.steps 2).2
  have hended : (run.withOutbox es).outcome.isSome = true := by
    show run.outcome.isSome = true
    decide
  obtain ⟨hlines, houtcome⟩ := htranscript (.inl hended)
  obtain ⟨hmachine, -⟩ := hstopped hended
  -- before the second tick there is nothing to end the run
  obtain rfl : n = 2 := by
    match n, hle with
    | 0, _ | 1, _ =>
      rw [houtcome] at hended
      cases hended
    | 2, _ => rfl
  refine ⟨rfl, hspeed, _, _, hreached, hlines.trans (by decide), houtcome.trans (by decide), ?_⟩
  exact congrArg Machine.status hmachine

end All

end HeadlessRun
end LedStrip
