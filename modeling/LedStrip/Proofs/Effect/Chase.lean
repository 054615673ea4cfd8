import Mathlib.Data.List.Nodup
import Mathlib.Data.Nat.ModEq
import LedStrip.Proofs.Effect.Essentials
import LedStrip.Proofs.Number.Lawful

/-!
# Frames of a chase

While its parameters stay, frame `t` of a chase shows the color at the LEDs of `Chase.spots` for `t`
and is dark elsewhere (`chase_frames`).  The invariant is `Chase.InRange`: some LEDs run, and the
position is one of the strip (`inRange_calls`).
-/

namespace LedStrip

/-! ### Spots -/

namespace Chase

variable {n k t : Nat}

@[simp] theorem length_spots (n k t : Nat) : (spots n k t).length = k := by simp [spots]

/-- As long as there is an LED for each, the running LEDs are different ones: the last is less than
a round ahead of the first. -/
theorem nodup_spots (h : k ≤ n) : (spots n k t).Nodup := by
  refine List.Nodup.map_on (fun i hi j hj hsame => ?_) List.nodup_range
  have hi := List.mem_range.mp hi
  have hj := List.mem_range.mp hj
  have hgap : 0 < n / k := Nat.div_pos h (by omega)
  have hround : n / k * k ≤ n := Nat.div_mul_le_self n k
  have ahead : ∀ x, x < k → n / k * x < n := fun x hx =>
    Nat.lt_of_lt_of_le (Nat.mul_lt_mul_of_pos_left hx hgap) hround
  have hmod : n / k * i ≡ n / k * j [MOD n] := Nat.ModEq.add_left_cancel' t hsame
  exact Nat.eq_of_mul_eq_mul_left hgap (hmod.eq_of_lt_of_lt (ahead i hi) (ahead j hj))

/-- Only the place on the strip counts, not the rounds before. -/
theorem spots_mod (n k t : Nat) : spots n k (t % n) = spots n k t := by
  simp only [spots, Nat.mod_add_mod]

theorem spots_add_self (n k t : Nat) : spots n k (t + n) = spots n k t := by
  rw [← spots_mod, Nat.add_mod_right, spots_mod]

/-! ### The invariant -/

/-- A chase as it can be on a strip of `n` LEDs. -/
structure InRange (n : Nat) (s : Chase) : Prop where
  count_pos : 1 ≤ s.count
  position_lt : s.position < n

end Chase

variable {R : Type} [Scalar R]

theorem Chase.position_setConfig (s : Chase) (key : String) (v : Json R) :
    (s.setConfig key v).2.position = s.position := by
  unfold Chase.setConfig
  split
  · split <;> rfl
  · split
    · split <;> rfl
    · rfl

/-- A count that is taken is positive. -/
theorem Chase.InRange.setConfig [LawfulScalar R] {n : Nat} {s : Chase} (h : s.InRange n)
    (key : String) (v : Json R) : (s.setConfig key v).2.InRange n := by
  unfold Chase.setConfig
  split
  · split
    · exact ⟨h.count_pos, h.position_lt⟩
    · exact h
  · split
    · split
      · next hcount => exact ⟨positiveCount_pos hcount, h.position_lt⟩
      · exact h
    · exact h

theorem Chase.InRange.tick {n : Nat} {s : Chase} (h : s.InRange n) : (s.tick n).2.InRange n := by
  have hn : 0 < n := Nat.zero_lt_of_lt h.position_lt
  rw [Chase.tick, if_neg hn.ne']
  exact ⟨h.count_pos, Nat.mod_lt _ hn⟩

namespace Machine

/-- No call takes a chase out of its range. -/
theorem inRange_call [LawfulScalar R] {m : Machine R (Builtin R)} {s : Chase}
    (hs : m.effect = .chase s) (hrange : s.InRange m.ledCount) (c : Call R) :
    ∃ s', (m.call c).effect = .chase s' ∧ s'.InRange m.ledCount := by
  rw [effect_call, hs]
  split
  · cases c with
    | tick => exact ⟨_, rfl, hrange.tick⟩
    | stop => exact ⟨_, rfl, hrange.count_pos, Nat.zero_lt_of_lt hrange.position_lt⟩
    | setConfig key v => exact ⟨_, rfl, hrange.setConfig key v⟩
    | _ => exact ⟨s, rfl, hrange⟩
  · exact ⟨s, rfl, hrange⟩

theorem inRange_calls [LawfulScalar R] {m : Machine R (Builtin R)} {s : Chase}
    (hs : m.effect = .chase s) (hrange : s.InRange m.ledCount) (cs : List (Call R)) :
    ∃ s', (m.calls cs).effect = .chase s' ∧ s'.InRange m.ledCount := by
  induction cs generalizing m s with
  | nil => exact ⟨s, hs, hrange⟩
  | cons c cs ih =>
    obtain ⟨s₁, hs₁, hrange₁⟩ := inRange_call hs hrange c
    have hcs := ih hs₁ (by rwa [ledCount_call])
    rwa [ledCount_call] at hcs

/-! ### Runs with the same parameters -/

/-- Calls during which a machine keeps its parameters and is not stopped. -/
structure Steady (m : Machine R (Builtin R)) (cs : List (Call R)) : Prop where
  not_stopped : .stop ∉ cs
  kept : ∀ xs, xs <+: cs → (m.calls xs).effect.parameters = m.effect.parameters

theorem Steady.head {m : Machine R (Builtin R)} {c : Call R} {cs : List (Call R)}
    (h : m.Steady (c :: cs)) : (m.call c).effect.parameters = m.effect.parameters :=
  h.kept [c] ⟨cs, rfl⟩

theorem Steady.tail {m : Machine R (Builtin R)} {c : Call R} {cs : List (Call R)}
    (h : m.Steady (c :: cs)) : (m.call c).Steady cs where
  not_stopped hstop := h.not_stopped (List.mem_cons_of_mem c hstop)
  kept xs hxs := (h.kept (c :: xs) ((List.prefix_cons_inj c).mpr hxs)).trans h.head.symm

/-- Calls that neither stop a machine nor set a parameter are steady. -/
theorem steady_of_forall {m : Machine R (Builtin R)} {cs : List (Call R)}
    (h : ∀ c ∈ cs, c ≠ .stop ∧ ∀ key v, c ≠ .setConfig key v) : m.Steady cs where
  not_stopped hstop := (h _ hstop).1 rfl
  kept xs hxs := by
    replace h := fun c hc => h c (hxs.subset hc)
    clear hxs
    induction xs generalizing m with
    | nil => rfl
    | cons c xs ih =>
      rw [calls_cons, ih fun d hd => h d (List.mem_cons_of_mem c hd), effect_call]
      split
      · cases c with
        | tick => exact m.effect.parameters_onTick m.ledCount
        | stop => exact absurd rfl (h _ List.mem_cons_self).1
        | setConfig key v => exact absurd rfl ((h _ List.mem_cons_self).2 key v)
        | _ => rfl
      · rfl

/-- While its parameters stay, a chase shows its next frame or stays as it is. -/
theorem chase_call {m : Machine R (Builtin R)} {s : Chase} (hs : m.effect = .chase s) {c : Call R}
    (hstop : c ≠ .stop) (hkept : (m.call c).effect.parameters = m.effect.parameters) :
    (m.frame? c = none ∧ (m.call c).effect = .chase s) ∨
      (m.frame? c = some (s.tick m.ledCount).1 ∧
        (m.call c).effect = .chase (s.tick m.ledCount).2) := by
  rw [effect_call, hs] at hkept
  rw [frame?_eq, effect_call, hs]
  by_cases hc : m.essential c
  · rw [if_pos hc] at hkept
    rw [if_pos hc, if_pos hc]
    cases c with
    | tick => exact .inr ⟨rfl, rfl⟩
    | stop => exact absurd rfl hstop
    | setConfig key v =>
      have hposition := s.position_setConfig key v
      have hsame : (s.setConfig key v).2 = s := by
        obtain ⟨hcolor, hcount⟩ : (s.setConfig key v).2.color = s.color ∧
            (s.setConfig key v).2.count = s.count := Parameters.chase.inj hkept
        generalize (s.setConfig key v).2 = s' at *
        cases s
        cases s'
        simp_all
      exact .inl ⟨rfl, congrArg Builtin.chase hsame⟩
    | _ => cases hc
  · rw [if_neg hc, if_neg hc]
    exact .inl ⟨rfl, rfl⟩

/-- **While its parameters stay, a chase runs around the strip**, one LED per frame from where it
is. -/
theorem chase_run {m : Machine R (Builtin R)} {s : Chase} (hs : m.effect = .chase s)
    (hposition : s.position < m.ledCount) {cs : List (Call R)} (hsteady : m.Steady cs) :
    (∀ t f, (m.frames cs)[t]? = some f → f = (Frame.blank m.ledCount).paint s.color
        (Chase.spots m.ledCount s.count (s.position + t))) ∧
      (m.calls cs).effect =
        .chase { s with position := (s.position + (m.frames cs).length) % m.ledCount } := by
  induction cs generalizing m s with
  | nil =>
    have hkept : (s.position + (m.frames []).length) % m.ledCount = s.position :=
      Nat.mod_eq_of_lt hposition
    rw [hkept]
    exact ⟨by simp [frames], hs⟩
  | cons c cs ih =>
    have hstop : c ≠ .stop := fun h => hsteady.not_stopped (h ▸ List.mem_cons_self)
    have hn : 0 < m.ledCount := Nat.zero_lt_of_lt hposition
    rw [frames, calls_cons]
    rcases chase_call hs hstop hsteady.head with ⟨hframe, heffect⟩ | ⟨hframe, heffect⟩
    · have hrest := ih heffect (by rwa [ledCount_call]) hsteady.tail
      rw [ledCount_call] at hrest
      simpa [hframe] using hrest
    · have htick : s.tick m.ledCount =
          (s.frame m.ledCount, { s with position := (s.position + 1) % m.ledCount }) :=
        if_neg hn.ne'
      rw [htick] at hframe heffect
      obtain ⟨hshown, hafter⟩ :=
        ih heffect (by rw [ledCount_call]; exact Nat.mod_lt _ hn) hsteady.tail
      rw [ledCount_call] at hshown hafter
      rw [hframe, hafter]
      refine ⟨fun t f hf => ?_, ?_⟩
      · cases t with
        | zero => exact (Option.some.inj hf).symm.trans (s.frame_eq m.ledCount)
        | succ t =>
          rw [hshown t f hf, ← Chase.spots_mod, Nat.mod_add_mod, Chase.spots_mod, Nat.add_assoc,
            Nat.add_comm 1]
      · simp [Nat.mod_add_mod, Nat.add_assoc, Nat.add_comm 1]

/-- A stopped chase is at the first LED again. -/
theorem chase_stopped {m : Machine R (Builtin R)} {s : Chase} (hs : m.effect = .chase s) :
    (m.call .stop).effect = .chase { color := s.color, count := s.count } := by
  rw [effect_stop, hs]
  rfl

section Steady

variable {m : Machine R (Builtin R)} {color : Rgb} {k : Nat}
  (hstart : m.effect = .chase { color, count := k }) (hn : 0 < m.ledCount) {cs : List (Call R)}
  (hsteady : m.Steady cs)

include hstart hn hsteady

/-- From the first LED on, frame `t` shows the color at the spots for `t` and nothing else. -/
theorem chase_shows (hsize : 3 * m.ledCount < 2 ^ 64) {t : Nat} {f : Frame}
    (hf : (m.frames cs)[t]? = some f) : f.ledCount = m.ledCount ∧ ∀ i < m.ledCount,
      f.get? i = some (if i ∈ Chase.spots m.ledCount k t then color else Rgb.black) := by
  have hspots : ∀ i ∈ Chase.spots m.ledCount k t, i < m.ledCount := fun i hi =>
    Chase.spots_lt hn hi
  have hshown := (chase_run hstart hn hsteady).1 t f hf
  rw [Nat.zero_add] at hshown
  rw [hshown]
  refine ⟨Frame.ledCount_paint_blank hsize color _, fun i hi => ?_⟩
  rw [Frame.get?_paint_blank hsize hspots, if_pos hi]
  split <;> rfl

/-- After a round the frames are the same. -/
theorem chase_repeats {t : Nat} (ht : t + m.ledCount < (m.frames cs).length) :
    (m.frames cs)[t + m.ledCount]? = (m.frames cs)[t]? := by
  have hrun := (chase_run hstart hn hsteady).1
  have hlater := List.getElem?_eq_getElem ht
  have hearlier := List.getElem?_eq_getElem (Nat.lt_of_le_of_lt (Nat.le_add_right t _) ht)
  rw [hlater, hearlier, hrun _ _ hlater, hrun _ _ hearlier, ← Nat.add_assoc, Chase.spots_add_self]

end Steady

end Machine

/-- A chase is made at the first LED and with some LEDs running. -/
theorem Builtin.chase_of_create {o : EffectOptions R} {m : Machine R (Builtin R)}
    (h : chaseFactory.create o = .ok m) :
    ∃ color count, 1 ≤ count ∧ m.effect = .chase { color, count } := by
  obtain ⟨e, he, rfl⟩ := eq_create_of_factory h
  obtain ⟨s, hs, rfl⟩ := Except.map_eq_ok he
  obtain ⟨color, -, hs⟩ := Except.bind_eq_ok hs
  obtain ⟨count, -, hs⟩ := Except.bind_eq_ok hs
  cases hs
  exact ⟨color, max count 1, Nat.le_max_right count 1, rfl⟩

namespace Machine

/-- **The frames of a chase.**  `Chase.spots n k t` are the LEDs `(t + n / k * i) % n` for `i < k`.

* After any history there are LEDs on the strip and some of them run, so that both divisors are
  positive; the position is one of the strip and so is every LED that is painted; and a tick while
  the machine runs has a frame.
* While the parameters stay as they were at the creation or at a stop, frame `t` after it shows the
  color at those LEDs and is dark elsewhere.  The frames repeat after a round, and the position is
  the number of frames so far, without full rounds.
* Where there is an LED for each, these are `k` different LEDs; where there is not, they are a
  single one. -/
theorem chase_frames [LawfulScalar R] {o : EffectOptions R} {m : Machine R (Builtin R)}
    (h : Builtin.chaseFactory.create o = .ok m) (hsize : 3 * m.ledCount < 2 ^ 64)
    (cs : List (Call R)) :
    let n := m.ledCount
    (∃ s, (m.calls cs).effect = .chase s ∧ (1 ≤ n ∧ 1 ≤ s.count ∧ s.position < n) ∧
        (∀ i ∈ Chase.spots n s.count s.position, i < n ∧ 3 * i + 3 ≤ (Frame.blank n).size) ∧
        ((m.calls cs).status = .running → (m.calls cs).tick.1 = .ok true)) ∧
      (∀ m₀, m₀ = m ∨ m₀ = (m.calls cs).call .stop →
        ∃ color k, 1 ≤ k ∧ m₀.effect = .chase { color, count := k } ∧ ∀ ds, m₀.Steady ds →
          (∀ t f, (m₀.frames ds)[t]? = some f → f.ledCount = n ∧ ∀ i < n,
            f.get? i = some (if i ∈ Chase.spots n k t then color else Rgb.black)) ∧
          (∀ t, t + n < (m₀.frames ds).length →
            (m₀.frames ds)[t + n]? = (m₀.frames ds)[t]?) ∧
          (m₀.calls ds).effect =
            .chase { color, count := k, position := (m₀.frames ds).length % n }) ∧
      (∀ k t, k ≤ n → (Chase.spots n k t).length = k ∧ (Chase.spots n k t).Nodup) ∧
      ∀ k t i, n < k → (i ∈ Chase.spots n k t ↔ i = t % n) := by
  intro n
  have hn : 0 < n := (Builtin.fresh_of_create (.tail _ (.head _)) h).ledCount_pos
  have hbytes : (Frame.blank n).size = 3 * n := (Frame.size_blank n).trans (Nat.mod_eq_of_lt hsize)
  obtain ⟨color, count, hcount, heffect⟩ := Builtin.chase_of_create h
  obtain ⟨s, hs, hrange⟩ := inRange_calls heffect ⟨hcount, hn⟩ cs
  refine ⟨⟨s, hs, ⟨hn, hrange.count_pos, hrange.position_lt⟩, fun i hi => ?_, fun hr => ?_⟩,
    fun m₀ hm₀ => ?_, fun k t hk => ⟨Chase.length_spots n k t, Chase.nodup_spots hk⟩,
    fun k t i hk => Chase.mem_spots_of_lt hk⟩
  · have hlt : i < n := Chase.spots_lt hn hi
    exact ⟨hlt, by omega⟩
  · obtain ⟨f, hf, htick⟩ := (m.calls cs).effect.exists_frame_onTick (m.calls cs).ledCount
    exact (tick_eq_ok_true_iff _).mpr ⟨hr, f, htick, hf⟩
  · obtain ⟨hcount₀, color, k, hk, heffect₀⟩ : m₀.ledCount = n ∧
        ∃ color k, 1 ≤ k ∧ m₀.effect = .chase { color, count := k } := by
      rcases hm₀ with rfl | rfl
      · exact ⟨rfl, color, count, hcount, heffect⟩
      · exact ⟨ledCount_calls m cs, s.color, s.count, hrange.count_pos, chase_stopped hs⟩
    refine ⟨color, k, hk, heffect₀, fun ds hsteady => ?_⟩
    have hn₀ : 0 < m₀.ledCount := hcount₀.symm ▸ hn
    have hafter := (chase_run heffect₀ hn₀ hsteady).2
    rw [hcount₀, Nat.zero_add] at hafter
    refine ⟨fun t f hf => ?_, fun t ht => ?_, hafter⟩
    · rw [← hcount₀]
      exact chase_shows heffect₀ hn₀ hsteady (hcount₀.symm ▸ hsize) hf
    · rw [← hcount₀] at ht ⊢
      exact chase_repeats heffect₀ hn₀ hsteady ht

/-- On the second frame two points on five LEDs are at the second LED and at the fourth. -/
theorem two_points_on_five :
    let ds : List (Call Rat) := [.start, .tick, .tick]
    ∃ (m : Machine Rat (Builtin Rat)) (f : Frame),
      Builtin.chaseFactory.create (.withLedCount 5) = .ok m ∧ 3 * m.ledCount < 2 ^ 64 ∧
        m.Steady ds ∧ (m.frames ds)[1]? = some f ∧ f.get? 2 = some .black ∧
        f.get? 3 = some Chase.defaultColor := by
  intro ds
  let m : Machine Rat (Builtin Rat) :=
    create "chase" 5 80 (.chase { color := Chase.defaultColor, count := 2 })
  have hm : Builtin.chaseFactory.create (.withLedCount 5) = .ok m := by rfl
  have hsteady : m.Steady ds := steady_of_forall (by simp [ds])
  have hlength : (m.frames ds).length = 2 := by decide +kernel
  have hf : (m.frames ds)[1]? = some (m.frames ds)[1] := List.getElem?_eq_getElem (by omega)
  obtain ⟨-, hrun, -, -⟩ := chase_frames hm (by decide) []
  obtain ⟨color, k, -, heffect, hsteps⟩ := hrun m (.inl rfl)
  obtain ⟨hshown, -, -⟩ := hsteps ds hsteady
  obtain ⟨rfl, rfl⟩ : color = Chase.defaultColor ∧ k = 2 := by cases heffect; exact ⟨rfl, rfl⟩
  obtain ⟨-, hleds⟩ := hshown 1 _ hf
  have hdark : 2 ∉ Chase.spots m.ledCount 2 1 := by decide
  have hlit : 3 ∈ Chase.spots m.ledCount 2 1 := by decide
  refine ⟨m, _, hm, by decide, hsteady, hf, ?_, ?_⟩
  · rw [hleds 2 (by decide), if_neg hdark]
  · rw [hleds 3 (by decide), if_pos hlit]

end Machine
end LedStrip
