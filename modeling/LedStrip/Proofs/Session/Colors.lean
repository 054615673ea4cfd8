import LedStrip.Proofs.Color.Tagged
import LedStrip.Proofs.Effect.Colors
import LedStrip.Proofs.Effect.Options
import LedStrip.Proofs.Number.Lawful
import LedStrip.Proofs.Panel.Lines
import LedStrip.Proofs.Session.Runs

/-!
# The color of a session

The color of the strip is computed twice: by the bridge, which sends it to the effect under the
parameter `color`, and by the color picker, which shows it.  Both read the same three channels of
the state, and what the bridge sends the effect reads back.  So every edit of a channel brings the
two together, and they stay together until somebody sets `color` (`picker_shows_color`).
-/

namespace LedStrip

open Bridge (shownColor)

/-! ### Finite numbers -/

section Finite

variable {R : Type} [Scalar R]

/-- A state whose channels hold no infinite numbers. -/
def PanelState.FiniteChannels (s : PanelState R) : Prop :=
  ∀ key ∈ channelKeys, ∀ x, s.effectNumber? key = some x → Scalar.isFinite x = true

theorem PanelState.FiniteChannels.withEffectValue {s : PanelState R} (h : s.FiniteChannels)
    {key : String} {v : Json R} (hv : key ∈ channelKeys → v.IsFinite) :
    (s.withEffectValue key v).FiniteChannels := by
  intro other hother x hx
  by_cases hk : other = key
  · subst hk
    rw [effectNumber?_withEffectValue_self] at hx
    exact hv hother x hx
  · rw [effectNumber?_withEffectValue_of_ne hk] at hx
    exact h other hother x hx

theorem Scalar.toIntIn_bounds (lo hi : Int) (hlo : lo ≤ 0) (hhi : 0 ≤ hi) (x : R) :
    lo ≤ toIntIn lo hi x ∧ toIntIn lo hi x ≤ hi := by
  unfold toIntIn
  split
  · omega
  · split
    · omega
    · split <;> omega

variable [LawfulScalar R]

/-- What a control writes is finite. -/
theorem Session.isFinite_numberValue (x : R) : (numberValue x).IsFinite := by
  unfold numberValue
  split
  · have hbounds := Scalar.toIntIn_bounds (-(2 ^ 63)) (2 ^ 63 - 1) (by decide) (by decide) x
    exact Json.isFinite_int (abs_le.mpr (by omega))
  · intro y hy
    unfold Json.ofScalar at hy
    split at hy
    · next hx =>
      cases hy
      exact hx
    · cases hy

/-- What a step of the interval writes is finite. -/
theorem SpeedRange.isFinite_clamp (r : SpeedRange) (ms : R) :
    (Json.ofNat (r.clamp ms) : Json R).IsFinite := by
  have hword : ∀ y : R, Scalar.toWord y ≤ 2 ^ 64 - 1 := by
    intro y
    have hbounds := Scalar.toIntIn_bounds 0 ((2 ^ 64 - 1 : Nat) : Int) (le_refl 0) (by decide) y
    unfold Scalar.toWord Scalar.toNatIn
    omega
  have hclamp : r.clamp ms ≤ 2 ^ 64 - 1 := hword _
  exact Json.isFinite_int (abs_le.mpr (by omega))

end Finite

/-! ### From the bridge to the effect -/

section Encoding

variable {R : Type} [Scalar R]

variable [LawfulScalar R]

/-- An effect reads back the color that was sent to it. -/
theorem colorValue_toJson {c : TaggedColor R} (hc : c.IsFinite) :
    colorValue c.toJson = .ok c.toRgb := by
  rw [colorValue, rgbOfJson, TaggedColor.ofJson_toJson hc]
  rfl

/-- The color that a state shows can be sent. -/
theorem colorValue_shownColor
    (hdiv : ∀ x : R, Scalar.isFinite x = true → Scalar.isFinite (x / Scalar.ofNat 100) = true)
    {s : PanelState R} (h : s.FiniteChannels) :
    colorValue (shownColor s).toJson = .ok (shownColor s).toRgb := by
  have hnumber : ∀ key ∈ channelKeys, ∀ default : Nat, default ≤ 100 →
      Scalar.isFinite ((s.effectNumber? key).getD (Scalar.ofNat default)) = true := by
    intro key hkey default hdefault
    cases hx : s.effectNumber? key with
    | some x => exact h key hkey x hx
    | none =>
      have := Scalar.countsTo_of_le (R := R) (n := 100) (by norm_num) default hdefault
      simp [Scalar.isFinite, Scalar.ofNat, this]
  exact colorValue_toJson ⟨hnumber "hue" (by decide) 0 (by decide),
    hdiv _ (hnumber "saturation" (by decide) 100 (le_refl _)),
    hdiv _ (hnumber "brightness" (by decide) 100 (le_refl _))⟩

end Encoding

/-! ### What a picker shows -/

namespace Widget

variable {R : Type} [Scalar R]

/-- A color picker that is bound to the channels of the effect. -/
structure PicksColor (w : Widget R) : Prop where
  component : w.component = .colorPicker
  bound : ∀ key ∈ channelKeys, w.boundPath? key = some (effectPath key)

/-- The picker reads the channels that the bridge reads. -/
theorem PicksColor.swatch_eq {w : Widget R} (h : w.PicksColor) (state : PanelState R) :
    w.swatch state = (shownColor state).toRgb := by
  have hnumber : ∀ key ∈ channelKeys, w.number? state key = state.effectNumber? key := by
    intro key hkey
    rw [number?_of_boundPath? (h.bound key hkey), get?_effectPath_of_channel hkey,
      PanelState.effectNumber?_eq]
  unfold swatch
  simp only [hnumber "hue" (by decide), hnumber "saturation" (by decide),
    hnumber "brightness" (by decide)]
  rfl

/-- The line that shows a color. -/
def swatchLine (w : Widget R) (state : PanelState R) (indent : Nat) (c : Rgb) : PanelLine where
  indent := indent
  text := w.textOf state "label" ++ " #" ++ c.toHex
  swatch := some c
  control := none

theorem PicksColor.swatchLine_mem {tree w : Widget R} (hw : w ∈ tree.nodes) (h : w.PicksColor)
    (state : PanelState R) :
    ∃ indent, w.swatchLine state indent (w.swatch state) ∈ tree.lines state := by
  obtain ⟨⟨indent, w'⟩, hp, rfl⟩ := List.mem_map.mp hw
  obtain ⟨i, hinfix⟩ : ∃ i, (w'.ownLines state indent i).1 <:+:
      (rows state 0 (tree.placed 0)).1 := ownLines_infix_rows hp 0
  refine ⟨indent, ?_⟩
  rw [lines, linesFrom_eq]
  refine hinfix.subset ?_
  simp only [ownLines, h.component]
  exact List.mem_cons_self

end Widget

/-! ### One operation -/

namespace Session

variable {R : Type} [Scalar R]

/-- The edit that an operation makes writes a finite number, if any.  The numbers that the session
comes up with are finite anyway. -/
def Op.IsFinite : Op R → Prop
  | .edit _ v => v.IsFinite
  | _ => True

/-- A session in which edits of the channels can reach the effect. -/
structure CanColor (s : Session R (Builtin R)) : Prop where
  declarative : s.IsDeclarative
  keys : ∀ key ∈ channelKeys, key ∈ s.bridge.config.colorKeys
  finite : s.state.FiniteChannels
  colored : s.scheduler.machine.effect.color?.isSome

/-- The effect paints with the color that the state shows. -/
def InTune (s : Session R (Builtin R)) : Prop :=
  s.scheduler.machine.effect.color? = some (shownColor s.state).toRgb

theorem effectNumber?_withEffectValue_of_notMem {key : String}
    (hkey : key ∉ channelKeys) (state : PanelState R) (v : Json R) :
    ∀ k ∈ channelKeys, (state.withEffectValue key v).effectNumber? k = state.effectNumber? k := by
  intro k hk
  refine PanelState.effectNumber?_withEffectValue_of_ne ?_ state v
  rintro rfl
  exact hkey hk

/-- An edit of another key keeps the channels, and with them the color. -/
theorem CanColor.spared {s : Session R (Builtin R)} (h : s.CanColor) {path key : String}
    (hpath : Bridge.keyOf? path = some key) (hkey : key ∉ channelKeys) {state : PanelState R}
    (hsame : ∀ k ∈ channelKeys, state.effectNumber? k = s.state.effectNumber? k) :
    state.FiniteChannels ∧ (∀ k ∈ channelKeys, Bridge.keyOf? path ≠ some k) ∧
      shownColor state = shownColor s.state := by
  refine ⟨fun k hk x hx => h.finite k hk x (hsame k hk ▸ hx), fun k hk hpath' => ?_,
    Bridge.shownColor_congr hsame⟩
  obtain rfl : key = k := Option.some.inj (hpath.symm.trans hpath')
  exact hkey hk

section OneStep

variable [LawfulScalar R]
  (hdiv : ∀ x : R, Scalar.isFinite x = true → Scalar.isFinite (x / Scalar.ofNat 100) = true)
  {s : Session R (Builtin R)}

include hdiv

/-- **What an edit does to the color.**  Under a color key it is taken, and the effect gets the
color that the state shows from then on.  Any other edit leaves the channels alone, and the color of
the effect too unless it sets just that. -/
theorem CanColor.editsTo (h : s.CanColor) {path : String} {v : Json R} (hv : v.IsFinite)
    {answer : Except SessionError (EditAction R)} {state : PanelState R}
    {scheduler : Scheduler R (Builtin R)} (hto : s.EditsTo path v answer state scheduler) :
    state.FiniteChannels ∧ scheduler.machine.effect.color?.isSome ∧
      ((answer = .ok (.color (shownColor state)) ∧
          scheduler.machine.effect.color? = some (shownColor state).toRgb) ∨
        ((∀ key ∈ channelKeys, Bridge.keyOf? path ≠ some key) ∧
          shownColor state = shownColor s.state ∧
          (Bridge.keyOf? path ≠ some "color" →
            scheduler.machine.effect.color? = s.scheduler.machine.effect.color?))) := by
  cases hto with
  | ignored hpath =>
    exact ⟨h.finite, h.colored, .inr ⟨by simp [hpath], rfl, fun _ => rfl⟩⟩
  | refused hpath _ =>
    obtain ⟨hfinite, hne, hshown⟩ := h.spared hpath speed_notMem_channelKeys
      (effectNumber?_withEffectValue_of_notMem speed_notMem_channelKeys s.state v)
    exact ⟨hfinite, h.colored, .inr ⟨hne, hshown, fun _ => rfl⟩⟩
  | @speed ms hpath _ =>
    have hsame : ∀ k ∈ channelKeys,
        ((s.state.withEffectValue "speed" v).withInterval
          (s.scheduler.setSpeed (s.range.clamp ms)).speed).effectNumber? k =
            s.state.effectNumber? k := by
      intro k hk
      have hk' : k ≠ "speed" := by
        rintro rfl
        exact speed_notMem_channelKeys hk
      rw [PanelState.effectNumber?_withInterval_of_ne hk']
      exact effectNumber?_withEffectValue_of_notMem speed_notMem_channelKeys s.state v k hk
    obtain ⟨hfinite, hne, hshown⟩ := h.spared hpath speed_notMem_channelKeys hsame
    rw [Scheduler.effect_setSpeed]
    exact ⟨hfinite, h.colored, .inr ⟨hne, hshown, fun _ => rfl⟩⟩
  | @color key color answer scheduler hpath _ _ hcolor hset =>
    have hfinite : (s.state.withEffectValue key v).FiniteChannels :=
      h.finite.withEffectValue fun _ => hv
    have hvalue : colorValue color.toJson = .ok color.toRgb :=
      hcolor ▸ colorValue_shownColor hdiv hfinite
    obtain ⟨hok, htaken⟩ := Scheduler.setConfig_color h.colored hvalue
    rw [hset] at hok htaken
    obtain rfl : answer = .ok () := hok
    subst hcolor
    exact ⟨hfinite, by simp [htaken], .inl ⟨rfl, htaken⟩⟩
  | @config key sent answer scheduler hpath hspeed hmem _ hset =>
    have hkey : key ∉ channelKeys := fun hk => hmem (h.keys key hk)
    obtain ⟨hfinite, hne, hshown⟩ := h.spared hpath hkey
      (effectNumber?_withEffectValue_of_notMem hkey s.state v)
    have hcolored := Scheduler.isSome_color?_setConfig s.scheduler hspeed sent
    rw [hset] at hcolored
    refine ⟨hfinite, hcolored.trans h.colored, .inr ⟨hne, hshown, fun hcolor => ?_⟩⟩
    have hkeep := Scheduler.color?_setConfig_of_ne s.scheduler hspeed
      (fun hk => hcolor (hk ▸ hpath)) sent
    rwa [hset] at hkeep

omit hdiv in
theorem isFinite_of_edit? {op : Op R} (hop : op.IsFinite) {path : String} {v : Json R}
    (h : s.edit? op = some (path, v)) : v.IsFinite := by
  cases op with
  | edit path' v' =>
    cases h
    exact hop
  | nudgeSpeed ms =>
    cases h
    exact SpeedRange.isFinite_clamp _ _
  | adjustControl index steps =>
    obtain ⟨c, -, he⟩ := Option.map_eq_some_iff.mp h
    cases he
    exact isFinite_numberValue _
  | _ => cases h

/-- **What an operation does to the color.** -/
theorem CanColor.step (h : s.CanColor) {op : Op R} (hop : op.IsFinite) :
    (s.step op).CanColor ∧
      (∀ key ∈ channelKeys, s.key? op = some key →
        (∃ c, s.answer? op = some (.ok (.color c))) ∧ (s.step op).InTune) ∧
      (s.key? op ≠ some "color" → s.InTune → (s.step op).InTune) := by
  obtain ⟨-, -, -, hconfig⟩ := h.declarative.step_setup op
  have hdeclarative := h.declarative.step op
  have hkeys : ∀ key ∈ channelKeys, key ∈ (s.step op).bridge.config.colorKeys := by
    rw [hconfig]
    exact h.keys
  cases he : s.edit? op with
  | none =>
    obtain ⟨-, scheduler, hcontrol, hstep⟩ := step_of_no_edit he
    have hcolor : (s.step op).scheduler.machine.effect.color? =
        s.scheduler.machine.effect.color? := by
      rw [hstep]
      exact hcontrol.color?
    have hstate : (s.step op).state = s.state := by rw [hstep]; rfl
    refine ⟨⟨hdeclarative, hkeys, hstate ▸ h.finite, hcolor ▸ h.colored⟩, fun key _ hkey => ?_,
      fun _ htune => ?_⟩
    · rw [key?, he] at hkey
      cases hkey
    · unfold InTune
      rw [hcolor, hstate]
      exact htune
  | some e =>
    obtain ⟨path, v⟩ := e
    obtain ⟨hstep, hanswer⟩ := step_of_edit he
    obtain ⟨answer, state, scheduler, shown, hto, hedit⟩ := h.declarative.edit_eq path v
    have hkey? : s.key? op = Bridge.keyOf? path := by rw [key?, he, Option.bind_some]
    obtain ⟨hfinite, hcolored, hcases⟩ :=
      h.editsTo hdiv (isFinite_of_edit? hop he) hto
    rw [hedit] at hstep hanswer
    rw [hkey?, hanswer]
    rw [hstep] at hdeclarative hkeys ⊢
    refine ⟨⟨hdeclarative, hkeys, hfinite, hcolored⟩, ?_⟩
    rcases hcases with ⟨rfl, htaken⟩ | ⟨hne, hshown, hkept⟩
    · exact ⟨fun key _ _ => ⟨⟨_, rfl⟩, htaken⟩, fun _ _ => htaken⟩
    · refine ⟨fun key hkey hpath => absurd hpath (hne key hkey), fun hcolor htune => ?_⟩
      show scheduler.machine.effect.color? = some (shownColor state).toRgb
      rw [hkept hcolor, hshown]
      exact htune

/-! ### Runs -/

theorem CanColor.run (h : s.CanColor) {ops : List (Op R)} (hops : ∀ op ∈ ops, op.IsFinite) :
    (s.run ops).CanColor := by
  induction ops generalizing s with
  | nil => exact h
  | cons op ops ih =>
    exact ih (h.step hdiv (hops op List.mem_cons_self)).1 fun op' hop' =>
      hops op' (List.mem_cons_of_mem op hop')

/-- Who does not set `color` leaves the two together. -/
theorem CanColor.inTune_run (h : s.CanColor) (htune : s.InTune) {ops : List (Op R)}
    (hops : ∀ op ∈ ops, op.IsFinite) (hspares : s.Spares "color" ops) : (s.run ops).InTune := by
  induction ops generalizing s with
  | nil => exact htune
  | cons op ops ih =>
    obtain ⟨hkey, hlater⟩ := hspares
    obtain ⟨hcan, -, hkept⟩ := h.step hdiv (hops op List.mem_cons_self)
    exact ih hcan (hkept hkey htune) (fun op' hop' => hops op' (List.mem_cons_of_mem op hop'))
      hlater

end OneStep

/-- A new session whose panel names the channels as color keys. -/
theorem Created.canColor {f : Factory R (Builtin R)}
    (hf : f ∈ [Builtin.blinkFactory, Builtin.chaseFactory, Builtin.waveFactory])
    {spec : PanelSpec R} {options : SessionOptions R} {s : Session R (Builtin R)}
    (h : Created f (some (.spec spec)) options s) {config : BridgeConfig R}
    (hconfig : spec.bridge = some config) (hkeys : ∀ key ∈ channelKeys, key ∈ config.colorKeys)
    (hfinite : s.state.FiniteChannels) : s.CanColor := by
  obtain ⟨m, hm, hscheduler⟩ := h.machine_eq
  have hdata : Created f ((some spec).map .spec) options s := h
  have hdeclarative : s.IsDeclarative := hdata.isDeclarative
  have hbridge : s.bridge.config = config := by
    rw [h.bridge_eq]
    show (spec.bridge.getD {}) = config
    rw [hconfig]
    rfl
  refine ⟨hdeclarative, hbridge ▸ hkeys, hfinite, ?_⟩
  rw [hscheduler]
  exact Builtin.color?_of_create hf hm

/-- **The picker shows the color of the strip.**  In a session over blink, chase or wave with a panel
that is data, let a picker be bound to the three channels, and let the channels be color keys.  Then
whatever happened before, an edit of a channel is taken and answered with a color; and whatever
happens after it, the line of the picker shows the color that the effect paints with, as long as
nobody sets `color`.  A hundredth of a finite scalar has to be finite, which it is for doubles
(`Binary64.isFinite_div_hundred`) as well as for rationals. -/
theorem picker_shows_color [LawfulScalar R]
    (hdiv : ∀ x : R, Scalar.isFinite x = true → Scalar.isFinite (x / Scalar.ofNat 100) = true)
    {f : Factory R (Builtin R)}
    (hf : f ∈ [Builtin.blinkFactory, Builtin.chaseFactory, Builtin.waveFactory])
    {spec : PanelSpec R} {config : BridgeConfig R} (hconfig : spec.bridge = some config)
    (hkeys : ∀ key ∈ channelKeys, key ∈ config.colorKeys) {options : SessionOptions R}
    {s : Session R (Builtin R)} (hs : create f (some (.spec spec)) options = .ok s)
    (hfinite : s.state.FiniteChannels) {tree w : Widget R} (htree : spec.compile = .ok tree)
    (hw : w ∈ tree.nodes) (hpicks : w.PicksColor) {before : List (Op R)}
    (hbefore : ∀ op ∈ before, op.IsFinite) {op : Op R} (hop : op.IsFinite) {key : String}
    (hkey : key ∈ channelKeys) (hedit : (s.run before).key? op = some key) :
    (∃ c, (s.run before).answer? op = some (.ok (.color c))) ∧
      ∀ after : List (Op R), (∀ op ∈ after, op.IsFinite) →
        ((s.run before).step op).Spares "color" after →
        let s' := ((s.run before).step op).run after
        ∃ c, s'.scheduler.machine.PaintsWith c ∧ w.swatch s'.state = c ∧
          ∃ indent, w.swatchLine s'.state indent c ∈ s'.panelLines := by
  have hcreated := created_of_create hs
  have hcan : (s.run before).CanColor :=
    (hcreated.canColor hf hconfig hkeys hfinite).run hdiv hbefore
  obtain ⟨hnext, htaken, -⟩ := hcan.step hdiv hop
  obtain ⟨hanswer, htune⟩ := htaken key hkey hedit
  refine ⟨hanswer, fun after hafter hspares => ?_⟩
  have htune' := hnext.inTune_run hdiv htune hafter hspares
  have hwidgets : (((s.run before).step op).run after).widgets = some tree := by
    obtain ⟨tree', htree', hwidgets⟩ := hcreated.widgets_eq (.spec spec) rfl
    obtain rfl : tree = tree' := Except.ok.inj (htree.symm.trans htree')
    have hdeclarative := (hcreated.canColor hf hconfig hkeys hfinite).declarative
    have hrun := hdeclarative.run_setup before
    rw [(hnext.declarative.run_setup after).2.1, (hrun.1.step_setup op).2.1, hrun.2.1, hwidgets]
  intro s'
  have hswatch := hpicks.swatch_eq s'.state
  refine ⟨_, Machine.paintsWith_of_color? htune', hswatch, ?_⟩
  obtain ⟨indent, hline⟩ := hpicks.swatchLine_mem hw s'.state
  refine ⟨indent, ?_⟩
  rw [← hswatch, panelLines, hwidgets]
  exact hline

/-- A panel with nothing but a picker, whose state is no object. -/
def pickerPanel : PanelSpec Rat where
  root := "picker"
  elements :=
    [("picker",
      { component := "ColorHSV",
        props :=
          [("brightness", .obj [(bindKey, .str "/effect/brightness")]),
           ("hue", .obj [(bindKey, .str "/effect/hue")]), ("label", .str "Color"),
           ("saturation", .obj [(bindKey, .str "/effect/saturation")])] })]
  state := .str "none"
  bridge := some { colorKeys := ["hue", "saturation", "brightness"] }

/-- The widget of that panel. -/
def picker : Widget Rat :=
  .mk "picker" .colorPicker
    [("brightness", .bound "/effect/brightness"), ("hue", .bound "/effect/hue"),
     ("label", .literal (.str "Color")), ("saturation", .bound "/effect/saturation")] []

/-- Green, and still green after a saturation that is no number. -/
theorem picker_shows_green :
    ∃ s : Session Rat (Builtin Rat),
      create Builtin.chaseFactory (some (.spec pickerPanel)) {} = .ok s ∧
        pickerPanel.compile = .ok picker ∧
        (let turn : Op Rat := .edit "/effect/hue" (.int 120)
         let fill : Op Rat := .edit "/effect/saturation" (.str "full")
         let s' := ((s.run [.start]).step turn).run [fill, .elapse 500]
         ∃ c, s'.scheduler.machine.PaintsWith c ∧ c = ⟨0, 255, 0⟩ ∧
           ∃ indent, picker.swatchLine s'.state indent c ∈ s'.panelLines) := by
  refine ⟨_, rfl, rfl, ?_⟩
  have hops : ∀ ops : List (Op Rat), ∀ op ∈ ops, op.IsFinite := by
    intro ops op _
    cases op with
    | edit path v => exact fun _ _ => rfl
    | _ => trivial
  have hpicks : picker.PicksColor := ⟨rfl, by decide⟩
  obtain ⟨-, hshown⟩ := @picker_shows_color Rat _ _ (fun _ _ => rfl) Builtin.chaseFactory (by simp)
    pickerPanel _ rfl (by decide) {} _ rfl (fun _ _ _ _ => rfl) picker picker rfl
    List.mem_cons_self hpicks [.start] (hops _) (.edit "/effect/hue" (.int 120))
    (hops [_] _ List.mem_cons_self) "hue" (by decide) rfl
  obtain ⟨c, hpaints, hswatch, hline⟩ :=
    hshown [.edit "/effect/saturation" (.str "full"), .elapse 500] (hops _)
      ⟨by decide, by decide, trivial⟩
  exact ⟨c, hpaints, hswatch.symm.trans (by decide +kernel), hline⟩

end Session
end LedStrip
