import LedStrip.Proofs.Effect.Alike
import LedStrip.Proofs.Effect.Scripted
import LedStrip.Proofs.Script.Hooks

/-!
# Scripts against the built-in effects

The bundled scripts of blink, chase and wave and the built-in effects of the same names simulate
each other: a relation for each of them (`BlinkAlike`, `RunningAlike`) holds of the states after
creation and is kept by every hook, from which `scripts_match_builtins` follows for whole runs of
machines.  Chase and wave are one proof, as both keep a color, a count and a position
(`running_simulates`).

The two sides need not have the same count.  A script keeps an integer and a built-in effect the
scalar next to it, and a count beyond the length of the strip may differ in these; it makes no
difference to the frames (`KeptAs`).
-/

namespace LedStrip

open Script Script.Program Scalar

/-! ### Factories out of scripts -/

namespace Loader

theorem mapError_ok {ε ε' α : Type} (f : ε → ε') (a : α) :
    (Except.ok a : Except ε α).mapError f = .ok a := rfl

/-- The factory that the loader makes of the scripts of an effect, which is all of `assemble` but
the panel. -/
def scriptFactory (R : Type) [Scalar R] (about : EffectMeta) (id : String) :
    Except LoadError ScriptFactory := do
  let program ← (compileAll (Bundled.logicSegments id)).mapError .compile
  let vars : List (Variable R) ←
    match program.run (outerVariables id .json) with
    | .ok vars => pure vars
    | .error f => throw (.extraction (.body f.message))
  (extractFactory about id program (exportsOf vars)).mapError .extraction

variable {R : Type} [Scalar R]

/-- Whatever panel comes with the scripts, an effect that loads has this factory. -/
theorem scriptFactory_of_assemble {id : String} {s : Sources} {l : LoadedEffect R}
    (hs : segmentsOf .json id s = Bundled.logicSegments id) (h : assemble .json id s = .ok l) :
    scriptFactory R s.about id = .ok l.factory := by
  unfold assemble at h
  unfold scriptFactory
  rw [← hs]
  cases hc : compileAll (segmentsOf .json id s) with
  | error e => rw [hc] at h; cases h
  | ok program =>
    simp only [hc, mapError_ok, bind, Except.bind] at h ⊢
    cases hr : program.run (outerVariables id .json : List (Variable R)) with
    | error e => rw [hr] at h; cases h
    | ok vars =>
      simp only [hr, pure, Except.pure] at h ⊢
      cases he : extractFactory s.about id program (exportsOf vars) with
      | error e => rw [he] at h; cases h
      | ok factory =>
        simp only [he, mapError_ok] at h ⊢
        split at h
        · cases h
        · cases h; rfl

/-- The factory of scripts that export nothing. -/
theorem scriptFactory_of_compile {about : EffectMeta} {id : String} {p : Program}
    (h : compileAll (Bundled.logicSegments id) = .ok p) (hbody : p.body = [])
    (hcreate : p.defines factoryEntry 1 = true) (htick : p.defines Hook.tick.name 1 = true) :
    scriptFactory R about id =
      .ok ⟨about.idOr id, about.name, about.description, factoryEntry, p⟩ := by
  have hrun :
      p.run (outerVariables id .json : List (Variable R)) = .ok (outerVariables id .json) := by
    simp -implicitDefEqProofs [Program.run, hbody]
  have hexports : exportsOf (outerVariables id .json : List (Variable R)) = [] := rfl
  have hfactory : extractFactory about id p ([] : Entries (Value R)) =
      .ok ⟨about.idOr id, about.name, about.description, factoryEntry, p⟩ := by
    simp [extractFactory, exportedName, Entries.get?, hcreate, htick, bind, Except.bind, pure,
      Except.pure]
  unfold scriptFactory
  rw [h]
  simp only [mapError_ok, bind, Except.bind]
  rw [hrun]
  simp only [pure, Except.pure]
  rw [hexports, hfactory, mapError_ok]

end Loader

namespace Bundled

/-! ### Plain parameters -/

/-- The count among the parameters of an effect. -/
def countKey? : String → Option String
  | "chase" => some "chaseCount"
  | "wave" => some "waveWidth"
  | _ => none

/-- Options whose color, if any, is tagged as RGB, and whose count, if any, is not negative. -/
structure PlainOptions {R : Type} [Scalar R] (id : String) (o : EffectOptions R) : Prop where
  wellFormed : o.WellFormed
  bytes : 3 * o.ledCount < 2 ^ 63
  speed : ∀ n, o.speed? = some n → n < 2 ^ 63
  color : ∀ v, o.param? "color" = some v → ∃ c, IsRgb v c
  count : ∀ key, countKey? id = some key → ∀ v, o.param? key = some v →
    ∃ k : Nat, k < 2 ^ 62 ∧ v = .int k

/-- New values for parameters: a color tagged as RGB, a positive count, or anything under a key that
the effect does not know. -/
inductive PlainEdit {R : Type} (id : String) : String → Json R → Prop
  | color {v : Json R} {c : Rgb} (h : IsRgb v c) : PlainEdit id "color" v
  | count {key : String} {k : Nat} (hkey : countKey? id = some key) (h1 : 1 ≤ k) (hk : k ≤ 2 ^ 62) :
    PlainEdit id key (.int k)
  | unknown {key : String} {v : Json R} (hcolor : key ≠ "color")
    (hcount : countKey? id ≠ some key) : PlainEdit id key v

/-! ### Blink -/

section Blink

variable {R : Type} [Scalar R]

/-- A state of the script and the state of the built-in effect that stands for the same. -/
inductive BlinkAlike (p : Program) : ScriptEffect R → Builtin R → Prop
  | mk {members : Entries (Value R)} {c : Rgb} {on : Bool}
    (state : BlinkLogic.IsState members c on) :
    BlinkAlike p ⟨p, .map members⟩ (.blink ⟨c, on⟩)

theorem blink_simulates [LawfulScalar R] {p : Program} (hp : HasRuntime p)
    (hlogic : p.Holds blinkLogic.functions) {n : Nat} (hn : 3 * n < 2 ^ 63) :
    Simulates (R := R) n (PlainEdit "blink") (BlinkAlike (R := R) p) where
  onTick := by
    rintro _ _ ⟨state⟩
    rw [ScriptEffect.onTick_of_caller rfl (BlinkLogic.on_tick hp hlogic state hn 61)]
    exact ⟨rfl, ⟨state.setOn _⟩⟩
  onReset := by
    rintro _ _ ⟨state⟩
    rw [ScriptEffect.onReset_of_caller rfl (BlinkLogic.on_reset hlogic _ 63)]
    exact ⟨rfl, ⟨state.setOn _⟩⟩
  onSetConfig := by
    rintro _ _ key v ⟨state⟩ - hedit
    cases hedit with
    | color hv =>
      have hvalue := colorValue_rgb hv
      obtain ⟨color, rfl, hcolor⟩ := hv
      rw [ScriptEffect.onSetConfig_of_caller rfl rfl
        (BlinkLogic.on_set_config_color hp hlogic hcolor _ 59)]
      simp only [Effect.onSetConfig, Blink.setConfig, if_true, hvalue]
      exact ⟨rfl, ⟨state.setColor _⟩⟩
    | count hkey => cases hkey
    | unknown hcolor =>
      rw [ScriptEffect.onSetConfig_of_caller rfl rfl
        (BlinkLogic.on_set_config_unknown hlogic hcolor _ _ 63)]
      simp only [Effect.onSetConfig, Blink.setConfig, if_neg hcolor]
      exact ⟨rfl, ⟨state⟩⟩

end Blink

/-! ### Effects that run around the strip -/

section Running

variable {R : Type} [Scalar R]

/-- A script that keeps a color, a count and a position, and that paints some LEDs of a strip of `n`
in that color on every tick. -/
structure RunningScript (R : Type) [Scalar R] (p : Program) (n : Nat) (member key message : String)
    (painted : Nat → Nat → List Nat) : Prop where
  runtime : HasRuntime p
  reset : p.Holds [RunningLogic.onReset]
  setter : p.Holds [RunningLogic.onSetConfig member key message]
  key_ne : key ≠ "color"
  member_ne : member ≠ "color" ∧ member ≠ "position"
  onTick {members : Entries (Value R)} {c : Rgb} {count position : Nat} :
    RunningLogic.IsState member members c count position → 1 ≤ count → count ≤ 2 ^ 62 →
      position < n → ∀ depth, caller p (depth + 2) "on_tick" [.int n] (some (.map members)) =
        some (.ok (.blob ((Frame.blank n).paint c (painted count position)).bytes),
          some (.map (Entries.insert "position" (.int ((position + 1) % n : Nat)) members)))

/-- A built-in effect that keeps them too, and that paints the same LEDs for all counts that a
script may keep instead of its own. -/
structure RunningBuiltin (n : Nat) (key : String) (painted : Nat → Nat → List Nat)
    (build : Rgb → Nat → Nat → Builtin R) : Prop where
  onTick {a b position : Nat} : KeptAs n a b → position < n → ∀ c,
    Effect.onTick R (build c b position) n =
      (.ok ((Frame.blank n).paint c (painted a position)), build c b ((position + 1) % n))
  onReset : ∀ c count position,
    Effect.onReset R (build c count position) = (.ok (), build c count 0)
  setColor {v : Json R} {c' : Rgb} : colorValue v = .ok c' → ∀ c count position,
    Effect.onSetConfig (build c count position) "color" v = (.ok (), build c' count position)
  setCount : ∀ (v : Json R) c count position, Effect.onSetConfig (build c count position) key v =
    match positiveCount key v with
    | .ok count' => (.ok (), build c count' position)
    | .error e => (.error e, build c count position)
  setUnknown {name : String} : name ≠ "color" → name ≠ key → ∀ (v : Json R) c count position,
    Effect.onSetConfig (build c count position) name v = (.ok (), build c count position)

/-- A state of the script and a state of the built-in effect with the same color and position, whose
counts make no difference to a strip of `n` LEDs. -/
inductive RunningAlike (p : Program) (member : String) (build : Rgb → Nat → Nat → Builtin R)
    (n : Nat) : ScriptEffect R → Builtin R → Prop
  | mk {members : Entries (Value R)} {c : Rgb} {a b position : Nat}
    (state : RunningLogic.IsState member members c a position) (kept : KeptAs n a b)
    (hposition : position < n) :
    RunningAlike p member build n ⟨p, .map members⟩ (build c b position)

theorem running_simulates [LawfulScalar R] {p : Program} {id member key message : String} {n : Nat}
    {painted : Nat → Nat → List Nat} {build : Rgb → Nat → Nat → Builtin R}
    (hs : RunningScript R p n member key message painted) (hb : RunningBuiltin n key painted build)
    (hid : countKey? id = some key) (hcounts : CountsTo R (n + 1)) (hn : n < 2 ^ 62) :
    Simulates (R := R) n (PlainEdit id) (RunningAlike p member build n) where
  onTick := by
    rintro _ _ ⟨state, kept, hposition⟩
    have htick := hs.onTick state kept.one_le kept.le hposition 62
    rw [ScriptEffect.onTick_of_caller rfl htick, hb.onTick kept hposition]
    exact ⟨rfl, ⟨state.setPosition hs.member_ne.2 _, kept, Nat.mod_lt _ (by omega)⟩⟩
  onReset := by
    rintro _ _ ⟨state, kept, hposition⟩
    rw [ScriptEffect.onReset_of_caller rfl (RunningLogic.on_reset hs.reset _ 63), hb.onReset]
    exact ⟨rfl, ⟨state.setPosition hs.member_ne.2 0, kept, by omega⟩⟩
  onSetConfig := by
    rintro _ _ name v ⟨state, kept, hposition⟩ - hedit
    cases hedit with
    | color hv =>
      have hvalue := colorValue_rgb hv
      obtain ⟨color, rfl, hcolor⟩ := hv
      rw [ScriptEffect.onSetConfig_of_caller rfl rfl
        (RunningLogic.on_set_config_color hs.setter hs.runtime hcolor _ 59),
        hb.setColor hvalue]
      exact ⟨rfl, ⟨state.setColor hs.member_ne.1 _, kept, hposition⟩⟩
    | @count _ k hname h1 hk =>
      obtain rfl : key = name := Option.some.inj (hid.symm.trans hname)
      obtain ⟨b, hb', hb1, hb62, hsame⟩ := positiveCount_int (R := R) key hcounts h1 hk hn
      have hvalue : Value.ofJson (.int k : Json R) = .int k := by
        simp [Value.ofJson, show (k : Int) ≤ maxInt by unfold maxInt; omega]
      have hset :=
        RunningLogic.on_set_config_count hs.setter hs.runtime hs.key_ne (.int k : Value R)
      simp only [Logic.countFrom_int, if_neg (by omega : ¬ (k : Int) < 1)] at hset
      rw [ScriptEffect.onSetConfig_of_caller rfl hvalue (hset _ 62), hb.setCount, hb']
      exact ⟨rfl, ⟨state.setCount hs.member_ne.1 hs.member_ne.2 _, ⟨h1, hk, hb1, hb62, hsame⟩,
        hposition⟩⟩
    | unknown hcolor hname =>
      have hne : name ≠ key := fun h => hname (h ▸ hid)
      rw [ScriptEffect.onSetConfig_of_caller rfl rfl
        (RunningLogic.on_set_config_unknown hs.setter hcolor hne _ _ 63),
        hb.setUnknown hcolor hne]
      exact ⟨rfl, ⟨state, kept, hposition⟩⟩

theorem running_create [LawfulScalar R] {p : Program} {id member key : String} (hp : HasRuntime p)
    (hmember : member ≠ "color" ∧ member ≠ "position") (hkey : key ≠ "ledCount" ∧ key ≠ "speed")
    (hid : countKey? id = some key) {color : Rgb} {default speed : Nat}
    (hcreate : p.Holds [RunningLogic.createEffect color member key default speed])
    (hd1 : 1 ≤ default) (hd62 : default ≤ 2 ^ 62) (hs : 0 < speed) {o : EffectOptions R}
    (ho : PlainOptions id o) (hcounts : CountsTo R (o.ledCount + 1)) :
    ∃ members c a b, RunningLogic.IsState member members c a 0 ∧ KeptAs o.ledCount a b ∧
      o.colorOr "color" color = .ok c ∧ o.countOr key default = .ok b ∧
        ∀ effectId name description,
          ScriptFactory.create ⟨effectId, name, description, "create_effect", p⟩ o =
            .ok (Machine.create effectId o.ledCount (o.speedOr speed) ⟨p, .map members⟩) := by
  have hbytes := ho.bytes
  obtain ⟨c, hc, hreadColor⟩ := EffectOptions.config_color hp ho.wellFormed ho.color color 58
  obtain ⟨a, b, hkept, hb, hreadCount⟩ := EffectOptions.config_count hp ho.wellFormed hkey.1 hkey.2
    (ho.count key hid) hcounts (by omega) hd1 hd62 62
  obtain ⟨members, hstate, hcall⟩ := RunningLogic.create_effect hp hcreate hmember hreadColor
    hreadCount (EffectOptions.config_ledCount hp ho.wellFormed (by omega) 61)
    (EffectOptions.config_speed hp ho.wellFormed ho.speed speed 61)
  exact ⟨members, c, a, b, hstate, hkept, hc, hb, fun _ _ _ =>
    ScriptFactory.create_of_caller rfl hcall o.ledCount_pos (o.speedOr_pos hs)⟩

end Running

/-! ### The bundled scripts -/

section Machines

variable {R : Type} [Scalar R] {n : Nat}

theorem runningScript_chase (hn : 3 * n < 2 ^ 63) :
    RunningScript R (withRuntime chaseLogic) n "chase_count" "chaseCount"
      "chaseCount must be at least 1" (Chase.spots n) where
  runtime := hasRuntime_chase
  reset := holds_chase.mono (by simp [chaseLogic])
  setter := holds_chase.mono (by simp [chaseLogic])
  key_ne := by decide
  member_ne := by decide
  onTick hstate hone _ hposition := ChaseLogic.on_tick hasRuntime_chase
    (holds_chase.mono (by simp [chaseLogic])) hstate hposition hone hn

theorem runningScript_wave (hn : 3 * n < 2 ^ 63) :
    RunningScript R (withRuntime waveLogic) n "wave_width" "waveWidth"
      "waveWidth must be at least 1" (Wave.band n) where
  runtime := hasRuntime_wave
  reset := holds_wave.mono (by simp [waveLogic])
  setter := holds_wave.mono (by simp [waveLogic])
  key_ne := by decide
  member_ne := by decide
  onTick hstate _ hle hposition := WaveLogic.on_tick hasRuntime_wave
    (holds_wave.mono (by simp [waveLogic])) hstate hposition hle hn

theorem runningBuiltin_chase (hn : 3 * n < 2 ^ 63) :
    RunningBuiltin (R := R) n "chaseCount" (Chase.spots n)
      fun c count position => .chase ⟨c, count, position⟩ where
  onTick {a b position} hkept hposition c := by
    have hn0 : n ≠ 0 := by omega
    simp [Effect.onTick, Chase.tick, hn0, Chase.frame_eq,
      Chase.paint_spots_congr (by omega : 0 < n) hn hkept.same]
  onReset _ _ _ := rfl
  setColor h _ _ _ := by simp [Effect.onSetConfig, Chase.setConfig, h]
  setCount v c count position := by
    cases h : positiveCount "chaseCount" v <;> simp [Effect.onSetConfig, Chase.setConfig, h]
  setUnknown h h' _ _ _ _ := by simp [Effect.onSetConfig, Chase.setConfig, h, h']

theorem runningBuiltin_wave (hn : 3 * n < 2 ^ 63) :
    RunningBuiltin (R := R) n "waveWidth" (Wave.band n)
      fun c width position => .wave ⟨c, width, position⟩ where
  onTick {a b position} hkept hposition c := by
    have hn0 : n ≠ 0 := by omega
    have hframe : Wave.frame ⟨c, b, position⟩ n =
        (Frame.blank n).paint c (Wave.band n a position) :=
      (Wave.frame_eq (by have := hkept.le'; dsimp only; omega)).trans
        (Wave.paint_band_congr (Nat.zero_lt_of_lt hposition) hn hkept.same c).symm
    have hnext : Wave.ahead ⟨c, b, position⟩ n 1 = (position + 1) % n := by
      rw [Wave.ahead, Nat.mod_eq_of_lt (by omega : position + 1 < 2 ^ 64)]
    simp [Effect.onTick, Wave.tick, hn0, hframe, hnext]
  onReset _ _ _ := rfl
  setColor h _ _ _ := by simp [Effect.onSetConfig, Wave.setConfig, h]
  setCount v c count position := by
    cases h : positiveCount "waveWidth" v <;> simp [Effect.onSetConfig, Wave.setConfig, h]
  setUnknown h h' _ _ _ _ := by simp [Effect.onSetConfig, Wave.setConfig, h, h']

omit [Scalar R] in
theorem factory_create {id name description : String} {speed : Nat} {o : EffectOptions R}
    {build : EffectOptions R → Except EffectError (Builtin R)} {s : Builtin R}
    (h : build o = .ok s) :
    (Builtin.factory id name description speed build).create o =
      .ok (Machine.create id o.ledCount (o.speedOr speed) s) := by
  simp [Builtin.factory, h, bind, Except.bind, pure, Except.pure]

variable [LawfulScalar R] {about : EffectMeta} {o : EffectOptions R}

theorem blink_created (id name description : String) (ho : PlainOptions "blink" o) :
    ∃ s t, BlinkAlike (withRuntime blinkLogic) s t ∧
      ScriptFactory.create ⟨id, name, description, factoryEntry, withRuntime blinkLogic⟩ o =
        .ok (Machine.create id o.ledCount (o.speedOr Blink.defaultSpeed) s) ∧
      Builtin.blinkFactory.create o =
        .ok (Machine.create "blink" o.ledCount (o.speedOr Blink.defaultSpeed) t) := by
  have hbytes := ho.bytes
  obtain ⟨c, hc, hcolor⟩ := EffectOptions.config_color hasRuntime_blink ho.wellFormed ho.color
    Blink.defaultColor 58
  obtain ⟨members, hstate, hcall⟩ := BlinkLogic.create_effect hasRuntime_blink holds_blink hcolor
    (EffectOptions.config_ledCount hasRuntime_blink ho.wellFormed (by omega) 61)
    (EffectOptions.config_speed hasRuntime_blink ho.wellFormed ho.speed 200 61)
  have hbuild : (Blink.ofOptions o).map (Builtin.blink (R := R)) = .ok (.blink ⟨c, false⟩) := by
    simp [Blink.ofOptions, hc, bind, Except.bind, pure, Except.pure, Except.map]
  exact ⟨_, _, ⟨hstate⟩,
    ScriptFactory.create_of_caller rfl hcall o.ledCount_pos (o.speedOr_pos (by decide)),
    factory_create hbuild⟩

/-- A script and a built-in factory of effects that run around the strip, which make related effects
for the same plain options. -/
structure RunningPair (script : ScriptFactory) (f : Factory R (Builtin R))
    (member key message : String) (painted : Nat → Nat → Nat → List Nat)
    (build : Rgb → Nat → Nat → Builtin R) : Prop where
  hkey : countKey? f.id = some key
  scripted : ∀ n, 3 * n < 2 ^ 63 → RunningScript R script.program n member key message (painted n)
  builtin : ∀ n, 3 * n < 2 ^ 63 → RunningBuiltin n key (painted n) build
  created : ∀ o, PlainOptions f.id o → CountsTo R (o.ledCount + 1) → ∃ s t speed,
    RunningAlike script.program member build o.ledCount s t ∧
      script.create o = .ok (Machine.create script.id o.ledCount speed s) ∧
      f.create o = .ok (Machine.create f.id o.ledCount speed t)

theorem runningPair_chase (id name description : String) :
    RunningPair (R := R) ⟨id, name, description, factoryEntry, withRuntime chaseLogic⟩
      Builtin.chaseFactory "chase_count" "chaseCount" "chaseCount must be at least 1" Chase.spots
      fun c count position => .chase ⟨c, count, position⟩ where
  hkey := rfl
  scripted _ := runningScript_chase
  builtin _ := runningBuiltin_chase
  created o ho hcounts := by
    have hfactory : (withRuntime chaseLogic).Holds [RunningLogic.createEffect Chase.defaultColor
        "chase_count" "chaseCount" Chase.defaultCount Chase.defaultSpeed] :=
      holds_chase.mono (by
        simp [chaseLogic, Chase.defaultColor, Chase.defaultCount, Chase.defaultSpeed])
    obtain ⟨members, c, a, b, hstate, hkept, hc, hb, hcreate⟩ := running_create hasRuntime_chase
      (by decide) (by decide) rfl hfactory (by decide) (by decide) (by decide) ho hcounts
    have hbuild : (Chase.ofOptions o).map (Builtin.chase (R := R)) = .ok (.chase ⟨c, b, 0⟩) := by
      simp [Chase.ofOptions, hc, hb, Chase.create, Nat.max_eq_left hkept.one_le', bind,
        Except.bind, pure, Except.pure, Except.map]
    exact ⟨_, _, _, ⟨hstate, hkept, o.ledCount_pos⟩, hcreate _ _ _, factory_create hbuild⟩

theorem runningPair_wave (id name description : String) :
    RunningPair (R := R) ⟨id, name, description, factoryEntry, withRuntime waveLogic⟩
      Builtin.waveFactory "wave_width" "waveWidth" "waveWidth must be at least 1" Wave.band
      fun c width position => .wave ⟨c, width, position⟩ where
  hkey := rfl
  scripted _ := runningScript_wave
  builtin _ := runningBuiltin_wave
  created o ho hcounts := by
    have hfactory : (withRuntime waveLogic).Holds [RunningLogic.createEffect Wave.defaultColor
        "wave_width" "waveWidth" Wave.defaultWidth Wave.defaultSpeed] :=
      holds_wave.mono (by
        simp [waveLogic, Wave.defaultColor, Wave.defaultWidth, Wave.defaultSpeed])
    obtain ⟨members, c, a, b, hstate, hkept, hc, hb, hcreate⟩ := running_create hasRuntime_wave
      (by decide) (by decide) rfl hfactory (by decide) (by decide) (by decide) ho hcounts
    have hbuild : (Wave.ofOptions o).map (Builtin.wave (R := R)) = .ok (.wave ⟨c, b, 0⟩) := by
      simp [Wave.ofOptions, hc, hb, bind, Except.bind, pure, Except.pure, Except.map]
    exact ⟨_, _, _, ⟨hstate, hkept, o.ledCount_pos⟩, hcreate _ _ _, factory_create hbuild⟩

omit [LawfulScalar R] in
theorem scriptFactory_blink (about : EffectMeta) :
    Loader.scriptFactory R about "blink" = .ok ⟨about.idOr "blink", about.name, about.description,
      factoryEntry, withRuntime blinkLogic⟩ :=
  Loader.scriptFactory_of_compile compile_blink rfl (by decide +kernel) (by decide +kernel)

/-- The scripts of chase and wave load, and pair up with the built-in effects. -/
theorem exists_runningPair {f : Factory R (Builtin R)}
    (hf : f ∈ [Builtin.chaseFactory, Builtin.waveFactory]) (about : EffectMeta) :
    ∃ script member key message painted build, Loader.scriptFactory R about f.id = .ok script ∧
      RunningPair script f member key message painted build := by
  simp only [List.mem_cons, List.not_mem_nil, or_false] at hf
  obtain rfl | rfl := hf
  · exact ⟨_, _, _, _, _, _, Loader.scriptFactory_of_compile compile_chase rfl (by decide +kernel)
      (by decide +kernel), runningPair_chase _ _ _⟩
  · exact ⟨_, _, _, _, _, _, Loader.scriptFactory_of_compile compile_wave rfl (by decide +kernel)
      (by decide +kernel), runningPair_wave _ _ _⟩

end Machines

/-- Four LEDs, of which three run around in red. -/
def redChase : EffectOptions Rat where
  ledCount? := some 4
  params := [("chaseCount", .int 3),
    ("color", .obj [("b", .int 0), ("g", .int 0), ("mode", .str "rgb"), ("r", .int 255)])]

theorem plain_redChase : PlainOptions "chase" redChase where
  wellFormed := ⟨by simp only [redChase, Entries.Sorted]; decide +kernel, by decide, by decide⟩
  bytes := by decide
  speed n h := by cases h
  color v h := by
    cases h
    exact ⟨⟨255, 0, 0⟩, _, rfl, rfl, rfl, rfl, rfl⟩
  count key hkey v h := by
    cases hkey
    cases h
    exact ⟨3, by decide, rfl⟩

end Bundled
end LedStrip
