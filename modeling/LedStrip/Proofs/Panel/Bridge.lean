import LedStrip.Panel.Bridge
import LedStrip.Panel.Rendering

/-!
# The state under edits

An edit sets one key of the effect: what the state holds under that key is the new value, and under
any other key what it held before, whatever shape the state had.  `Bridge.apply` makes at most one
call on the machine for it, and which one depends on the key alone.
-/

namespace LedStrip

/-! ### Steps of a path -/

namespace Json

variable {R : Type}

/-- A step that is looked up as it is written. -/
def IsPlainStep (step : String) : Prop := String.ofList (unescapeStep step.toList) = step

instance (step : String) : Decidable (IsPlainStep step) :=
  inferInstanceAs (Decidable (String.ofList (unescapeStep step.toList) = step))

theorem isPlainStep_effectNamespace : IsPlainStep effectNamespace := rfl

theorem isPlainStep_empty : IsPlainStep "" := rfl

theorem indexStep?_effectNamespace : indexStep? effectNamespace = none := rfl

theorem indexStep?_empty : indexStep? "" = none := rfl

/-- A path that begins with a separator is followed step by step. -/
theorem pointer?_of_pieces {path : String} {steps : List String}
    (h : Text.pieces '/' path = "" :: steps) (v : Json R) :
    pointer? path v = walk? (steps.map fun s => String.ofList (unescapeStep s.toList)) v := by
  simp only [pointer?, h]

/-- The plain way to a key of the effect has two steps. -/
theorem pointer?_of_key {path key : String}
    (h : Text.pieces '/' path = ["", effectNamespace, key]) (hplain : IsPlainStep key) (v : Json R) :
    pointer? path v = (v.step? effectNamespace).bind (step? key) := by
  have hsteps : [effectNamespace, key].map (fun s => String.ofList (unescapeStep s.toList)) =
      [effectNamespace, key] := by
    rw [List.map_cons, List.map_cons, List.map_nil, isPlainStep_effectNamespace, hplain]
  rw [pointer?_of_pieces h, hsteps, walk?]
  refine congrArg _ (funext fun v => ?_)
  exact Option.bind_fun_some _

/-- A path that begins with anything else leads nowhere. -/
theorem pointer?_of_pieces_of_ne {path start : String} {steps : List String}
    (h : Text.pieces '/' path = start :: steps) (hstart : start ≠ "") (v : Json R) :
    pointer? path v = none := by
  unfold pointer?
  rw [h]
  split
  · next heq => exact absurd (List.cons.inj heq).1 hstart
  · rfl

/-- A step that is no index is the key of a member. -/
theorem step?_eq_get? {step : String} (h : indexStep? step = none) (v : Json R) :
    v.step? step = v.get? step := by
  cases v with
  | arr items =>
    show (indexStep? step).bind _ = none
    rw [h]
    rfl
  | _ => rfl

end Json

/-! ### Keys of the effect -/

namespace PanelState

variable {R : Type} {s : PanelState R} {key other : String} {v : Json R}

/-- Value under a key of the effect. -/
def effectValue? (s : PanelState R) (key : String) : Option (Json R) :=
  (s.value.get? effectNamespace).bind (·.get? key)

theorem effectNumber?_eq [Scalar R] (s : PanelState R) (key : String) :
    s.effectNumber? key = (s.effectValue? key).bind Json.asNumber? := rfl

/-- Members of the state; one that is no object has none. -/
def members (s : PanelState R) : Entries (Json R) := s.value.asObject?.getD []

/-- Members of the part that belongs to the effect, likewise. -/
def effectMembers (s : PanelState R) : Entries (Json R) :=
  ((Entries.get? effectNamespace s.members).bind Json.asObject?).getD []

/-- The members of the effect show what the state shows. -/
theorem get?_effectMembers (s : PanelState R) (key : String) :
    Entries.get? key s.effectMembers = s.effectValue? key := by
  unfold effectMembers members effectValue?
  cases s.value with
  | obj root =>
    show Entries.get? key (((Entries.get? effectNamespace root).bind Json.asObject?).getD []) =
      (Entries.get? effectNamespace root).bind (·.get? key)
    cases Entries.get? effectNamespace root with
    | none => rfl
    | some inner => cases inner <;> rfl
  | _ => rfl

theorem members_withEffectValue (s : PanelState R) (key : String) (v : Json R) :
    (s.withEffectValue key v).members =
      Entries.insert effectNamespace (.obj (Entries.insert key v s.effectMembers)) s.members := rfl

theorem effectMembers_withEffectValue (s : PanelState R) (key : String) (v : Json R) :
    (s.withEffectValue key v).effectMembers = Entries.insert key v s.effectMembers := by
  rw [effectMembers, members_withEffectValue, Entries.get?_insert_self]
  rfl

theorem effectValue?_withEffectValue (s : PanelState R) (key : String) (v : Json R)
    (other : String) :
    (s.withEffectValue key v).effectValue? other =
      Entries.get? other (Entries.insert key v s.effectMembers) := by
  rw [← get?_effectMembers, effectMembers_withEffectValue]

@[simp] theorem effectValue?_withEffectValue_self (s : PanelState R) (key : String) (v : Json R) :
    (s.withEffectValue key v).effectValue? key = some v := by
  rw [effectValue?_withEffectValue, Entries.get?_insert_self]

theorem effectValue?_withEffectValue_of_ne (h : other ≠ key) (s : PanelState R) (v : Json R) :
    (s.withEffectValue key v).effectValue? other = s.effectValue? other := by
  rw [effectValue?_withEffectValue, Entries.get?_insert_of_ne h, get?_effectMembers]

variable [Scalar R]

@[simp] theorem effectNumber?_withEffectValue_self (s : PanelState R) (key : String)
    (v : Json R) : (s.withEffectValue key v).effectNumber? key = v.asNumber? := by
  rw [effectNumber?_eq, effectValue?_withEffectValue_self, Option.bind_some]

theorem effectNumber?_withEffectValue_of_ne (h : other ≠ key) (s : PanelState R) (v : Json R) :
    (s.withEffectValue key v).effectNumber? other = s.effectNumber? other := by
  rw [effectNumber?_eq, effectValue?_withEffectValue_of_ne h, ← effectNumber?_eq]

omit [Scalar R] in
/-- A pointer to a key of the effect, where the key is a plain word. -/
theorem get?_of_pieces {path : String}
    (hpath : Text.pieces '/' path = ["", effectNamespace, key]) (hplain : Json.IsPlainStep key)
    (hword : Json.indexStep? key = none) (s : PanelState R) :
    s.get? path = s.effectValue? key := by
  show Json.pointer? path s.value = (s.value.get? effectNamespace).bind (·.get? key)
  rw [Json.pointer?_of_key hpath hplain, Json.step?_eq_get? Json.indexStep?_effectNamespace]
  exact congrArg _ (funext fun v => Json.step?_eq_get? hword v)

end PanelState

/-! ### Channels of the color picker -/

/-- The keys under which a color picker keeps its channels. -/
def channelKeys : List String := hsvChannelList.map HsvChannel.prop

/-- Where a panel reads a key of the effect. -/
def effectPath (key : String) : String := "/" ++ effectNamespace ++ "/" ++ key

theorem get?_effectPath_of_channel {R : Type} {key : String} (h : key ∈ channelKeys)
    (s : PanelState R) : s.get? (effectPath key) = s.effectValue? key := by
  simp only [channelKeys, hsvChannelList, List.map_cons, List.map_nil, List.mem_cons,
    List.not_mem_nil, or_false] at h
  rcases h with rfl | rfl | rfl
  all_goals exact PanelState.get?_of_pieces rfl (by decide) rfl s

theorem speed_notMem_channelKeys : "speed" ∉ channelKeys := by decide

/-! ### The bridge -/

namespace Bridge

/-- The steps of a path that are not empty. -/
def segments (path : String) : List String := (Text.pieces '/' path).filter (· ≠ "")

theorem keyOf?_eq_some_iff {path key : String} :
    keyOf? path = some key ↔ ∃ rest, segments path = effectNamespace :: key :: rest := by
  unfold keyOf?
  rw [show (Text.pieces '/' path).filter (· ≠ "") = segments path from rfl]
  rcases segments path with _ | ⟨root, _ | ⟨key', rest⟩⟩
  · simp
  · simp
  · by_cases h : root = effectNamespace <;> simp [h]

variable {R κ : Type} [Scalar R]

/-- The color that a state shows depends on the channels alone. -/
theorem shownColor_congr {s t : PanelState R}
    (h : ∀ key ∈ channelKeys, s.effectNumber? key = t.effectNumber? key) :
    shownColor s = shownColor t := by
  have hhue := h "hue" (by decide)
  have hsaturation := h "saturation" (by decide)
  have hbrightness := h "brightness" (by decide)
  simp only [shownColor, hhue, hsaturation, hbrightness]

theorem positiveInterval_eq_ok {ms ms' : R} (h : positiveInterval ms = .ok ms') :
    ms' = ms := by
  unfold positiveInterval at h
  split at h
  · cases h
  · exact (Except.ok.inj h).symm

/-- The interval that a value asks for. -/
def requestedInterval (v : Json R) : Except EffectError R :=
  (finiteNumber "speed" v).bind positiveInterval

section Calls

variable [MachineControl R κ] (b : Bridge R) (c : κ) {path key : String} (v : Json R)

theorem apply_of_ignored (h : keyOf? path = none) : b.apply c path v = (.ok .ignored, b, c) := by
  simp only [apply, h]

theorem apply_of_key (h : keyOf? path = some key) :
    b.apply c path v =
      (((b.writeBack key v).call c key v).1, b.writeBack key v,
        ((b.writeBack key v).call c key v).2) := by
  simp only [apply, h]

theorem call_color (hs : key ≠ "speed") (hc : key ∈ b.config.colorKeys) :
    b.call c key v =
      ((MachineControl.setConfig c "color" (shownColor b.state).toJson).1.map
          fun _ => .color (shownColor b.state),
        (MachineControl.setConfig c "color" (shownColor b.state).toJson).2) := by
  simp only [call, if_neg hs, if_pos hc]

theorem call_config (hs : key ≠ "speed") (hc : key ∉ b.config.colorKeys) :
    b.call c key v =
      ((MachineControl.setConfig c key (scaled b.config key v)).1.map
          fun _ => .config key (scaled b.config key v),
        (MachineControl.setConfig c key (scaled b.config key v)).2) := by
  simp only [call, if_neg hs, if_neg hc]

end Calls

end Bridge
end LedStrip
