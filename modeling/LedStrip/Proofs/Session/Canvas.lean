import LedStrip.Proofs.Device.Placements
import LedStrip.Proofs.Effect.Lifecycle
import LedStrip.Proofs.Frame.Pixels
import LedStrip.Proofs.Session.Panels

/-!
# LEDs on the canvas

A session over a device has a strip for the LEDs of that device, whatever is done to it: all that an
operation does to the machine are calls (`run_calls`), and calls keep the size of a strip.  So every
placed LED has a color in the frame, and the canvas shows them all (`placed_leds_shown`).
-/

namespace LedStrip

/-- One cell for every placed LED, in order: where it is, in its color. -/
theorem Device.cells_forall₂ {R : Type} [Scalar R] (d : Device R) {leds : Frame}
    (h : ∀ p ∈ d.placements, ∃ c, leds.get? p.index = some c) (cols rows : Nat) :
    List.Forall₂ (fun shown p => shown.1 = d.cell p.x p.y cols rows ∧
      leds.get? p.index = some shown.2) (d.cells leds cols rows) d.placements := by
  unfold cells
  generalize d.placements = placed at h ⊢
  induction placed with
  | nil => exact .nil
  | cons p rest ih =>
    obtain ⟨hp, hrest⟩ := List.forall_mem_cons.mp h
    obtain ⟨c, hc⟩ := hp
    rw [List.filterMap_cons, hc]
    exact .cons ⟨rfl, hc⟩ (ih hrest)

namespace Session

variable {R σ : Type} [Scalar R]

/-! ### The machine of a session -/

theorem refreshPanel_kept (s : Session R σ) :
    s.refreshPanel.2.scheduler = s.scheduler ∧ s.refreshPanel.2.device = s.device := by
  unfold refreshPanel
  split
  · exact ⟨rfl, rfl⟩
  split
  · exact ⟨rfl, rfl⟩
  split
  · split
    · exact ⟨rfl, rfl⟩
    · exact ⟨rfl, rfl⟩
  · exact ⟨rfl, rfl⟩

variable [Effect R σ]

omit [Effect R σ] in
theorem settle_kept (answer : Except SessionError (EditAction R)) (s : Session R σ) :
    (settle answer s).2.scheduler = s.scheduler ∧ (settle answer s).2.device = s.device := by
  have hkept := s.refreshPanel_kept
  unfold settle
  split
  · next h =>
    rw [h] at hkept
    exact hkept
  · next h =>
    rw [h] at hkept
    exact hkept

/-- An edit at most calls the machine. -/
theorem EditsTo.exists_calls {s : Session R σ} {path : String} {v : Json R}
    {answer : Except SessionError (EditAction R)} {state : PanelState R}
    {scheduler : Scheduler R σ} (h : s.EditsTo path v answer state scheduler) :
    ∃ cs, scheduler.machine = s.scheduler.machine.calls cs := by
  cases h with
  | ignored _ | refused _ _ => exact ⟨[], rfl⟩
  | @speed ms _ _ =>
    exact ⟨_, Scheduler.machine_apply s.scheduler (.setSpeed (s.range.clamp ms) : Scheduler.Op R)⟩
  | @color _ c _ _ _ _ _ _ hset =>
    have hmachine := Scheduler.machine_setConfig s.scheduler "color" c.toJson
    rw [hset] at hmachine
    exact ⟨[.setConfig "color" c.toJson], hmachine⟩
  | @config key sent _ _ _ _ _ _ hset =>
    have hmachine := Scheduler.machine_setConfig s.scheduler key sent
    rw [hset] at hmachine
    exact ⟨[.setConfig key sent], hmachine⟩

/-- An operation at most calls the machine, and leaves the device alone. -/
theorem step_calls (s : Session R σ) (op : Op R) :
    (∃ cs, (s.step op).scheduler.machine = s.scheduler.machine.calls cs) ∧
      (s.step op).device = s.device := by
  cases he : s.edit? op with
  | none =>
    obtain ⟨-, scheduler, ⟨cs, -, hcs⟩, hstep⟩ := step_of_no_edit he
    rw [hstep]
    exact ⟨⟨cs, hcs⟩, rfl⟩
  | some e =>
    obtain ⟨answer, state, scheduler, hto, hedit⟩ := s.exists_editsTo e.1 e.2
    obtain ⟨hscheduler, hdevice⟩ := settle_kept answer
      { s with bridge := { s.bridge with state }, scheduler }
    rw [(step_of_edit he).1, hedit, hscheduler, hdevice]
    exact ⟨hto.exists_calls, rfl⟩

/-- **All that a run does to the machine are calls**, and it leaves the device alone. -/
theorem run_calls (s : Session R σ) (ops : List (Op R)) :
    (∃ cs, (s.run ops).scheduler.machine = s.scheduler.machine.calls cs) ∧
      (s.run ops).device = s.device := by
  induction ops generalizing s with
  | nil => exact ⟨⟨[], rfl⟩, rfl⟩
  | cons op ops ih =>
    obtain ⟨⟨cs, hcs⟩, hdevice⟩ := s.step_calls op
    obtain ⟨⟨ds, hds⟩, hdevice'⟩ := ih (s.step op)
    rw [run_cons, hdevice', hdevice, hds, hcs, ← Machine.calls_append]
    exact ⟨⟨_, rfl⟩, rfl⟩

/-- A session over a device with LEDs has a strip for them, after whatever was done to it. -/
theorem size_leds_run {f : Factory R (Builtin R)} (hf : f ∈ Builtin.factories)
    {panel : Option (EffectPanel R)} {options : SessionOptions R} {s : Session R (Builtin R)}
    (hs : create f panel options = .ok s) {d : Device R} (hd : options.device = some d)
    (hpos : 0 < d.ledCount) (ops : List (Op R)) :
    (s.run ops).leds.size = Frame.byteCount d.ledCount := by
  obtain ⟨m, hm, hscheduler⟩ := (created_of_create hs).machine_eq
  obtain ⟨speed, effect, -, rfl⟩ := Builtin.eq_create_of_create hf hm
  have hcount : (machineOptions s.state options).ledCount = d.ledCount := by
    have hresolved : options.resolvedLedCount = d.ledCount := by
      unfold SessionOptions.resolvedLedCount
      rw [hd]
    unfold EffectOptions.ledCount machineOptions
    rw [hresolved, if_pos hpos, Option.filter_some, if_pos (decide_eq_true hpos)]
    rfl
  obtain ⟨⟨cs, hcs⟩, -⟩ := s.run_calls ops
  have hsize := Machine.size_calls (m := s.scheduler.machine) (by
    rw [hscheduler]
    exact Frame.size_blank _) cs
  rw [← hcs, hscheduler] at hsize
  rw [← hcount]
  exact hsize

/-- **A valid device is shown in full.**  The check accepts exactly the valid descriptions.  As long
as frames have words for their bytes, the placed LEDs of one have places of their own in a frame.  A
session of a built-in effect over it has just the LEDs of the device, whatever is done to it; and if
any LEDs are placed, the canvas shows each of them once, in order, where it is and in its color. -/
theorem placed_leds_shown [LawfulScalar R] (d : Device R) :
    (d.validate = .ok () ↔ d.Valid) ∧
      (∀ (x : R) q, Scalar.toRat? x = some q → (Canvas.Positive x ↔ 0 < q)) ∧
        (d.validate = .ok () → 3 * Device.total d.strips < 2 ^ 64 →
          (d.placements.map (·.index)).Nodup ∧ (∀ p ∈ d.placements, p.index < d.ledCount) ∧
            ∀ f ∈ Builtin.factories, ∀ panel options s, options.device = some d →
              create f panel options = .ok s → d.placements ≠ [] → ∀ ops : List (Op R),
                (s.run ops).device = some d ∧ (s.run ops).leds.ledCount = d.ledCount ∧
                  ∀ cols rows, List.Forall₂
                    (fun shown p => shown.1 = d.cell p.x p.y cols rows ∧
                      (s.run ops).leds.get? p.index = some shown.2)
                    (d.cells (s.run ops).leds cols rows) d.placements) := by
  refine ⟨d.validate_eq_ok_iff, fun x q hx => Canvas.positive_iff hx, fun hok hword => ?_⟩
  have hvalid := (d.validate_eq_ok_iff.mp hok).strips
  have hcount : d.ledCount = Device.total d.strips := Device.ledCount_eq_total (by omega)
  have hplaces : ∀ p ∈ d.placements, p.index < d.ledCount := by
    intro p hp
    have hbounds : 0 ≤ p.index ∧ p.index < 0 + Device.total d.strips :=
      Device.placementsFrom_index_bounds hvalid (by omega) p.index (List.mem_map_of_mem hp)
    omega
  refine ⟨Device.placementsFrom_index_nodup hvalid (by omega), hplaces, ?_⟩
  intro f hf panel options s hd hs hplaced ops
  obtain ⟨p, hp⟩ := List.exists_mem_of_ne_nil _ hplaced
  have hpos : 0 < d.ledCount := Nat.lt_of_le_of_lt (Nat.zero_le _) (hplaces p hp)
  have hsize : (s.run ops).leds.size = 3 * d.ledCount := by
    rw [size_leds_run hf hs hd hpos ops, Frame.byteCount, Nat.mod_eq_of_lt (by omega)]
  have hlit : ∀ p ∈ d.placements, ∃ c, (s.run ops).leds.get? p.index = some c := by
    intro p hp
    have hlt := hplaces p hp
    exact Frame.exists_get?_eq (by omega)
  refine ⟨?_, ?_, d.cells_forall₂ hlit⟩
  · rw [(s.run_calls ops).2, device_of_create hs, hd]
  · rw [Frame.ledCount, hsize, Nat.mul_div_cancel_left _ (by omega)]

/-- Two arms, on which the same position is not the same place. -/
def quad : Device Rat where
  id := "quad"
  name := "Quad"
  canvas := { width := 200, height := 100 }
  rotorGuards := some [("front", { cx := 0, cy := 40, radius := 10 })]
  strips :=
    [{ id := "a", name := "Arm A", ledCount := 3,
       leds := [{ index := 0, x := -100, y := 50 }, { index := 1, x := 0, y := 0, guard := "front" }] },
     { id := "b", name := "Arm B", ledCount := 2, leds := [{ index := 1, x := 100, y := -50 }] }]

/-- Five LEDs and three cells, while a point moves along the arms. -/
theorem quad_shown_in_full :
    quad.validate = .ok () ∧ 3 * Device.total quad.strips < 2 ^ 64 ∧
      quad.placements.map (·.index) = [0, 1, 4] ∧
      ∃ s, create Builtin.chaseFactory none { device := some quad } = .ok s ∧
        (let t := s.run [.start, .elapse 500]
         t.leds.ledCount = 5 ∧ ∀ cols rows, List.Forall₂
          (fun shown p => shown.1 = quad.cell p.x p.y cols rows ∧
            t.leds.get? p.index = some shown.2) (quad.cells t.leds cols rows) quad.placements) := by
  have hok : quad.validate = .ok () := by decide
  have hword : 3 * Device.total quad.strips < 2 ^ 64 := by decide
  obtain ⟨-, -, hshown⟩ := placed_leds_shown quad
  obtain ⟨-, -, hsession⟩ := hshown hok hword
  refine ⟨hok, hword, by decide, _, rfl, ?_⟩
  obtain ⟨-, hcount, hcells⟩ := hsession Builtin.chaseFactory (by simp [Builtin.factories]) none
    { device := some quad } _ rfl rfl (by decide) [.start, .elapse 500]
  exact ⟨hcount, hcells⟩

end Session
end LedStrip
