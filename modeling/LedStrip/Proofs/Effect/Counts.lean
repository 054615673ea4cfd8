import LedStrip.Proofs.Effect.Refinement

/-!
# Which counts are taken

A script and a built-in effect check a new count for themselves, and they do not take the same
values (`count_edits_taken`).  The script asks whether the whole part is below one, which is false
of whatever is no number; the built-in effect asks for a number.  And the script has no integers
beyond 64 bits.
-/

namespace LedStrip
namespace Bundled

open Script Script.Program Scalar

variable {R : Type} [Scalar R]

/-- A value as it comes out of a document: integers have 64 bits, with a sign or without one, and
floats are finite. -/
def IsSent : Json R → Prop
  | .int n => minInt ≤ n ∧ n < 2 ^ 64
  | .float x => ∃ q, toRat? x = some q
  | _ => True

/-- The counts that a script takes: the numbers from one on, as far as its integers go, and
everything that is no number. -/
def TakenByScript : Json R → Prop
  | .int n => 1 ≤ n ∧ n ≤ maxInt
  | .float x => ∃ q, toRat? x = some q ∧ 1 ≤ q ∧ q ≤ 2 ^ 63
  | _ => True

/-- The counts that a built-in effect takes: the numbers from one on. -/
def TakenByBuiltin : Json R → Prop
  | .int n => 1 ≤ n
  | .float x => ∃ q, toRat? x = some q ∧ 1 ≤ q
  | _ => False

/-- The numbers that a script can hold. -/
def IsHeld : Json R → Prop
  | .int n => n ≤ maxInt
  | .float x => ∃ q, toRat? x = some q ∧ q ≤ 2 ^ 63
  | _ => False

/-- The two agree on the numbers that a script can hold, and on nothing else. -/
theorem taken_agree_iff {v : Json R} (hv : IsSent v) :
    (TakenByScript v ↔ TakenByBuiltin v) ↔ IsHeld v := by
  cases v with
  | int n =>
    simp only [TakenByScript, TakenByBuiltin, IsHeld, maxInt]
    omega
  | float x =>
    obtain ⟨q, hq⟩ := hv
    simp only [TakenByScript, TakenByBuiltin, IsHeld, hq, Option.some.injEq, exists_eq_left']
    constructor
    · intro h
      by_contra hlarge
      exact hlarge (h.mpr (by linarith)).2
    · exact fun h => ⟨And.left, fun h1 => ⟨h1, h⟩⟩
  | _ => simp [TakenByScript, TakenByBuiltin, IsHeld]

/-! ### The script -/

theorem countFrom_float {x : R} {w : Value R} (h : wholePart x = .ok w) (message : String) :
    Logic.countFrom message (.float x) = Logic.countFrom message w := by
  obtain ⟨n, rfl⟩ : ∃ n, w = .int n := by
    unfold wholePart at h
    split at h
    · cases h
    · exact ⟨_, (Except.ok.inj h).symm⟩
  simp [Logic.countFrom, HasRuntime.whole, h]

theorem countFrom_iff [LawfulScalar R] {v : Json R} (hv : IsSent v) (message : String) :
    (∃ n, Logic.countFrom message (Value.ofJson v) = .ok n) ↔ TakenByScript v := by
  cases v with
  | int n =>
    by_cases hfit : n ≤ maxInt
    · simp only [Value.ofJson, hfit, if_true, Logic.countFrom_int, TakenByScript, and_true]
      by_cases h1 : n < 1
      · simp [h1]
      · simp [h1]
        omega
    · simp [Value.ofJson, hfit, Logic.countFrom, HasRuntime.whole, TakenByScript]
  | float x =>
    obtain ⟨q, hq⟩ := hv
    simp only [Value.ofJson, TakenByScript, hq, Option.some.injEq, exists_eq_left']
    rcases lt_or_ge q 1 with hlt | h1
    · rcases wholePart_of_lt_one hq hlt with ⟨f, hf⟩ | ⟨n, hn, hw⟩
      · simp [Logic.countFrom, HasRuntime.whole, hf, not_le.mpr hlt]
      · simp [countFrom_float hw, Logic.countFrom_int, (by omega : n < 1), not_le.mpr hlt]
    · rcases le_or_gt q (2 ^ 63) with hle | hlarge
      · have ht : 1 ≤ truncate q := le_truncate (by norm_num) (by exact_mod_cast h1)
        have hnot : ¬ min maxInt (truncate q) < 1 := by unfold maxInt; omega
        rw [countFrom_float (wholePart_of_nonneg hq (by linarith) hle), Logic.countFrom_int,
          if_neg hnot]
        exact iff_of_true ⟨_, rfl⟩ ⟨h1, hle⟩
      · obtain ⟨f, hf⟩ := wholePart_of_large hq hlarge
        simp [Logic.countFrom, HasRuntime.whole, hf, not_le.mpr hlarge]
  | _ => exact iff_of_true ⟨_, rfl⟩ trivial

/-- A script that runs around the strip takes a count or refuses it whatever its state is. -/
theorem script_takes_iff [LawfulScalar R] {p : Program} {n : Nat} {member key message : String}
    {painted : Nat → Nat → List Nat} (hs : RunningScript R p n member key message painted)
    {v : Json R} (hv : IsSent v) (members : Entries (Value R)) :
    (Effect.onSetConfig (⟨p, .map members⟩ : ScriptEffect R) key v).1 = .ok () ↔
      TakenByScript v := by
  have hset := RunningLogic.on_set_config_count hs.setter hs.runtime hs.key_ne (Value.ofJson v)
    members
  rw [← countFrom_iff hv message]
  cases hcount : Logic.countFrom message (Value.ofJson v) with
  | ok m =>
    simp only [hcount] at hset
    rw [ScriptEffect.onSetConfig_of_caller rfl rfl (hset 62)]
    exact iff_of_true rfl ⟨m, rfl⟩
  | error f =>
    simp only [hcount] at hset
    rw [ScriptEffect.onSetConfig_of_fault rfl rfl (hset 62)]
    simp

/-! ### The built-in effects -/

theorem positiveCount_iff [LawfulScalar R] {v : Json R} (hv : IsSent v) (key : String) :
    (∃ n, positiveCount key v = .ok n) ↔ TakenByBuiltin v := by
  have hnumber {x : R} {q : Rat} (hx : v.asNumber? = some x) (hq : toRat? x = some q) :
      (∃ n, positiveCount key v = .ok n) ↔ 1 ≤ q := by
    rcases lt_or_ge q 1 with hlt | h1
    · obtain ⟨e, he⟩ := positiveCount_of_lt_one key hx hq hlt
      simp [he, not_le.mpr hlt]
    · exact iff_of_true ⟨_, positiveCount_of_one_le key hx hq h1⟩ h1
  cases v with
  | int n =>
    obtain ⟨hlow, hhigh⟩ := hv
    obtain ⟨q, hq⟩ := LawfulScalar.finite_ofInt (R := R) (n := n) (by
      unfold minInt at hlow
      exact abs_le.mpr ⟨by omega, by omega⟩)
    rw [hnumber rfl hq]
    constructor
    · intro h1
      by_contra hn
      have hn0 : n ≤ 0 := by simp only [TakenByBuiltin] at hn; omega
      have hle : q ≤ 0 := LawfulScalar.ofInt_mono hn0 hq toRat?_zero
      linarith
    · exact fun h1 => LawfulScalar.ofInt_mono h1 toRat?_one hq
  | float x =>
    obtain ⟨q, hq⟩ := hv
    rw [hnumber rfl hq]
    simp [TakenByBuiltin, hq]
  | _ => exact iff_of_false (by rintro ⟨n, h⟩; cases h) id

theorem builtin_takes_iff [LawfulScalar R] {n : Nat} {key : String} {painted : Nat → Nat → List Nat}
    {build : Rgb → Nat → Nat → Builtin R} (hb : RunningBuiltin n key painted build) {v : Json R}
    (hv : IsSent v) (c : Rgb) (count position : Nat) :
    (Effect.onSetConfig (build c count position) key v).1 = .ok () ↔ TakenByBuiltin v := by
  rw [← positiveCount_iff hv key, hb.setCount]
  cases positiveCount key v <;> simp

/-! ### Both -/

theorem countKey?_ne_speed {id key : String} (h : countKey? id = some key) : key ≠ "speed" := by
  rintro rfl
  unfold countKey? at h
  split at h <;> simp at h

/-- What the machines of a script and of a built-in effect take as a new count, after any plain
run. -/
theorem count_edits_taken [LawfulScalar R] {f : Factory R (Builtin R)}
    (hf : f ∈ [Builtin.chaseFactory, Builtin.waveFactory]) (about : EffectMeta) {key : String}
    (hkey : countKey? f.id = some key) :
    ∃ script, Loader.scriptFactory R about f.id = .ok script ∧
      ∀ o, PlainOptions f.id o → CountsTo R (o.ledCount + 1) →
        ∃ m m', script.create o = .ok m ∧ f.create o = .ok m' ∧
          ∀ cs, (∀ c ∈ cs, c.Within (PlainEdit f.id)) → ∀ v, IsSent v →
            (((m.calls cs).setConfig key v).1 = .ok () ↔ TakenByScript v) ∧
              (((m'.calls cs).setConfig key v).1 = .ok () ↔ TakenByBuiltin v) := by
  obtain ⟨script, member, key', message, painted, build, hscript, hpair⟩ :=
    exists_runningPair hf about
  obtain rfl : key = key' := Option.some.inj (hkey.symm.trans hpair.hkey)
  refine ⟨script, hscript, fun o ho hcounts => ?_⟩
  have hbytes := ho.bytes
  have hlt : o.ledCount < 2 ^ 62 := by omega
  have hs := hpair.scripted _ hbytes
  have hb := hpair.builtin _ hbytes
  obtain ⟨s, t, speed, halike, hcreate, hcreate'⟩ := hpair.created o ho hcounts
  refine ⟨_, _, hcreate, hcreate', fun cs hcs v hv => ?_⟩
  have hspeed : key ≠ "speed" := countKey?_ne_speed hkey
  have hsimulates := running_simulates hs hb hpair.hkey hcounts hlt
  have hrelated :=
    ((Machine.alike_create script.id f.id o.ledCount speed halike).calls hsimulates hcs).effect
  rw [Machine.setConfig_of_ne _ hspeed, Machine.setConfig_of_ne _ hspeed]
  generalize ((Machine.create script.id o.ledCount speed s : Machine R _).calls cs).effect = s' at *
  generalize ((Machine.create f.id o.ledCount speed t : Machine R _).calls cs).effect = t' at *
  obtain ⟨state, kept, hposition⟩ := hrelated
  exact ⟨script_takes_iff hs hv _, builtin_takes_iff hb hv _ _ _⟩

/-- After any plain run, a script and a built-in effect agree about a new count just if it is a
number that the script can hold. -/
theorem count_edits_agree_iff [LawfulScalar R] {f : Factory R (Builtin R)}
    (hf : f ∈ [Builtin.chaseFactory, Builtin.waveFactory]) (about : EffectMeta) {key : String}
    (hkey : countKey? f.id = some key) :
    ∃ script, Loader.scriptFactory R about f.id = .ok script ∧
      ∀ o, PlainOptions f.id o → CountsTo R (o.ledCount + 1) →
        ∃ m m', script.create o = .ok m ∧ f.create o = .ok m' ∧
          ∀ cs, (∀ c ∈ cs, c.Within (PlainEdit f.id)) → ∀ v, IsSent v →
            ((((m.calls cs).setConfig key v).1 = .ok () ↔
              ((m'.calls cs).setConfig key v).1 = .ok ()) ↔ IsHeld v) := by
  obtain ⟨script, hscript, h⟩ := count_edits_taken hf about hkey
  refine ⟨script, hscript, fun o ho hcounts => ?_⟩
  obtain ⟨m, m', hm, hm', htaken⟩ := h o ho hcounts
  refine ⟨m, m', hm, hm', fun cs hcs v hv => ?_⟩
  obtain ⟨hscripted, hbuiltin⟩ := htaken cs hcs v hv
  rw [hscripted, hbuiltin, taken_agree_iff hv]

theorem redChase_agrees_on_three :
    ∃ script m m', Loader.scriptFactory Rat ⟨none, "Chase", ""⟩ "chase" = .ok script ∧
      script.create redChase = .ok m ∧ Builtin.chaseFactory.create redChase = .ok m' ∧
      ((m.setConfig "chaseCount" (.int 3)).1 = .ok () ↔
        (m'.setConfig "chaseCount" (.int 3)).1 = .ok ()) := by
  have hkey : countKey? (Builtin.chaseFactory (R := Rat)).id = some "chaseCount" := rfl
  obtain ⟨script, hscript, h⟩ := count_edits_agree_iff (R := Rat) (.head _) ⟨none, "Chase", ""⟩ hkey
  obtain ⟨m, m', hm, hm', hagree⟩ := h redChase plain_redChase (countsTo_rat _)
  have hthree : IsSent (.int 3 : Json Rat) := ⟨by decide, by decide⟩
  exact ⟨script, m, m', hscript, hm, hm',
    (hagree [] (by simp) _ hthree).mpr (by decide : (3 : Int) ≤ maxInt)⟩

theorem plain_default (id : String) : PlainOptions id ({} : EffectOptions Rat) where
  wellFormed := ⟨List.Pairwise.nil, List.not_mem_nil, List.not_mem_nil⟩
  bytes := by decide
  speed _ h := by cases h
  color _ h := by cases h
  count _ _ _ h := by cases h

/-- A scripted chase takes a word for a count, which the built-in one refuses. -/
theorem chase_takes_word :
    ∃ (script : ScriptFactory) (m : Machine Rat (ScriptEffect Rat))
      (m' : Machine Rat (Builtin Rat)),
      Loader.scriptFactory Rat ⟨none, "Chase", ""⟩ "chase" = .ok script ∧
      script.create {} = .ok m ∧ Builtin.chaseFactory.create {} = .ok m' ∧
      (m.setConfig "chaseCount" (.str "many")).1 = .ok () ∧
      (m'.setConfig "chaseCount" (.str "many")).1 ≠ .ok () := by
  have hkey : countKey? (Builtin.chaseFactory (R := Rat)).id = some "chaseCount" := rfl
  obtain ⟨script, hscript, h⟩ := count_edits_taken (R := Rat) (.head _) ⟨none, "Chase", ""⟩ hkey
  obtain ⟨m, m', hm, hm', htaken⟩ := h {} (plain_default _) (countsTo_rat _)
  obtain ⟨htakes, hrefuses⟩ := htaken [] (by simp) (.str "many") trivial
  exact ⟨script, m, m', hscript, hm, hm', htakes.mpr trivial, fun hok => hrefuses.mp hok⟩

end Bundled
end LedStrip
