import LedStrip.Proofs.Loader.Panels
import LedStrip.Proofs.Session.Runs

/-!
# Widgets that follow the state

A session keeps three things of its panel: the state, the record for which widgets were built last,
and those widgets.  `Faithful` relates them.  While it holds, an edit comes to what building the
widgets for the new state comes to (`Faithful.edit_cases`), although most edits build nothing: an
unchanged record is the record that was shown, and a panel that is data is the same for all states.
-/

namespace LedStrip

open Bridge (keyOf?)

namespace PanelState

variable {R : Type}

theorem revision_withEffectValue (s : PanelState R) (key : String) (v : Json R) :
    (s.withEffectValue key v).revision = s.revision + 1 := rfl

theorem revision_le_withInterval [Scalar R] (s : PanelState R) (ms : Nat) :
    s.revision ≤ (s.withInterval ms).revision := by
  unfold withInterval
  split
  · exact Nat.le_refl _
  · exact Nat.le_succ _

end PanelState

namespace Session

variable {R σ : Type} [Scalar R]

/-! ### The three copies -/

/-- The widgets are those for the record shown, which is the current one or an older one. -/
structure Faithful (p : EffectPanel R) (s : Session R σ) : Prop where
  panel_eq : s.panel = some p
  built : ∃ w, p.buildFor s.shown.value = .ok w ∧ s.widgets = some w
  older : s.shown.revision ≤ s.state.revision
  current : s.shown.revision = s.state.revision → s.shown = s.state

variable {p : EffectPanel R} {s : Session R σ}

/-- A new session shows the state it begins with. -/
theorem Created.faithful {f : Factory R σ} {options : SessionOptions R}
    (h : Created f (some p) options s) (hshown : s.shown = s.state) : s.Faithful p := by
  obtain ⟨w, hw, hwidgets⟩ := h.widgets_eq p rfl
  refine ⟨h.panel_eq, ⟨w, ?_, hwidgets⟩, ?_, fun _ => hshown⟩
  · rw [hshown, ← p.build_eq]
    exact hw
  · exact Nat.le_of_eq (congrArg _ hshown)

/-- The state may move on without the widgets. -/
theorem Faithful.moveOn (hs : s.Faithful p) {state : PanelState R}
    (hstate : state = s.state ∨ s.state.revision < state.revision) (scheduler : Scheduler R σ) :
    Faithful p { s with bridge := { s.bridge with state }, scheduler } := by
  have hle : s.state.revision ≤ state.revision := by
    rcases hstate with rfl | hlt
    · exact Nat.le_refl _
    · exact Nat.le_of_lt hlt
  refine ⟨hs.panel_eq, hs.built, Nat.le_trans hs.older hle, fun hsame => ?_⟩
  have hsame : s.shown.revision = state.revision := hsame
  have holder := hs.older
  rcases hstate with rfl | hlt
  · exact hs.current hsame
  · omega

/-- The widgets catch up with the state. -/
theorem Faithful.catchUp (hs : s.Faithful p) {w : Widget R}
    (hw : p.buildFor s.state.value = .ok w) :
    Faithful p { s with widgets := some w, shown := s.state } :=
  ⟨hs.panel_eq, ⟨w, hw, rfl⟩, Nat.le_refl _, fun _ => rfl⟩

/-- Where the widgets can be built for the state, refreshing leads to them. -/
theorem Faithful.refreshPanel_of_ok (hs : s.Faithful p) {w : Widget R}
    (hw : p.buildFor s.state.value = .ok w) :
    s.refreshPanel = (.ok (), { s with widgets := some w, shown := s.state }) := by
  obtain ⟨w', hw', hwidgets⟩ := hs.built
  unfold refreshPanel
  by_cases hsame : s.shown.revision = s.state.revision
  · have hshown := hs.current hsame
    have hww : w' = w := by
      rw [hshown, hw] at hw'
      exact (Except.ok.inj hw').symm
    have hrev : s.state.same s.shown = true := by simp [PanelState.same, hsame]
    rw [if_pos hrev, ← hshown, ← hww, ← hwidgets]
  · have hrev : ¬ s.state.same s.shown = true := by simp [PanelState.same, Ne.symm hsame]
    rw [if_neg hrev, hs.panel_eq]
    dsimp only
    cases hre : p.rebuilds with
    | true =>
      rw [if_pos rfl, p.build_eq, hw]
    | false =>
      -- the widgets that are there are the ones for any state
      have hww : w' = w := by
        rw [EffectPanel.buildFor_of_not_rebuilds hre _ s.state.value, hw] at hw'
        exact (Except.ok.inj hw').symm
      rw [if_neg Bool.false_ne_true, ← hww, ← hwidgets]

/-- Where they cannot, it leaves everything as it was, and the panel is a script. -/
theorem Faithful.refreshPanel_of_error (hs : s.Faithful p) {e : PanelError}
    (he : p.buildFor s.state.value = .error e) :
    s.refreshPanel = (.error e, s) ∧ p.rebuilds = true := by
  obtain ⟨w, hw, -⟩ := hs.built
  have hne : s.shown.value ≠ s.state.value := by
    intro heq
    rw [heq, he] at hw
    cases hw
  have hsame : s.shown.revision ≠ s.state.revision := fun h => hne (congrArg _ (hs.current h))
  have hrev : ¬ s.state.same s.shown = true := by simp [PanelState.same, Ne.symm hsame]
  have hre : p.rebuilds = true := by
    cases hno : p.rebuilds with
    | true => rfl
    | false =>
      rw [EffectPanel.buildFor_of_not_rebuilds hno _ s.state.value, he] at hw
      cases hw
  refine ⟨?_, hre⟩
  unfold refreshPanel
  rw [if_neg hrev, hs.panel_eq]
  dsimp only
  rw [if_pos hre, p.build_eq, he]

/-! ### One edit -/

section OneEdit

variable [Effect R σ] {path : String} {v : Json R} {answer : Except SessionError (EditAction R)}
  {state : PanelState R} {scheduler : Scheduler R σ}

/-- The state after an edit holds its value, or the interval that was made of it. -/
theorem EditsTo.state_eq (h : s.EditsTo path v answer state scheduler) :
    (keyOf? path = none ∧ state = s.state) ∨
      ∃ key, keyOf? path = some key ∧ (state = s.state.withEffectValue key v ∨
        key = "speed" ∧ state = (s.state.withEffectValue key v).withInterval scheduler.speed) := by
  cases h with
  | ignored hkey => exact .inl ⟨hkey, rfl⟩
  | refused hkey _ => exact .inr ⟨_, hkey, .inl rfl⟩
  | speed hkey _ => exact .inr ⟨_, hkey, .inr ⟨rfl, rfl⟩⟩
  | color hkey _ _ _ _ => exact .inr ⟨_, hkey, .inl rfl⟩
  | config hkey _ _ _ _ => exact .inr ⟨_, hkey, .inl rfl⟩

/-- It is the record before or a newer one. -/
theorem EditsTo.state_moves (h : s.EditsTo path v answer state scheduler) :
    state = s.state ∨ s.state.revision < state.revision := by
  rcases h.state_eq with ⟨-, rfl⟩ | ⟨key, -, rfl | ⟨-, rfl⟩⟩
  · exact .inl rfl
  · exact .inr (Nat.lt_succ_self _)
  · have hle := (s.state.withEffectValue key v).revision_le_withInterval scheduler.speed
    rw [PanelState.revision_withEffectValue] at hle
    exact .inr hle

/-- What the machine answers is no fault of the panel. -/
theorem EditsTo.answer_ne_panel (h : s.EditsTo path v answer state scheduler) (e : PanelError) :
    answer ≠ .error (.panel e) := fun he => by
  obtain ⟨_, he⟩ := h.exists_effect he
  cases he

/-- **All that an edit can come to**: the widgets for the new state with the answer of the machine,
or the fault of the panel with the widgets that were there. -/
theorem Faithful.edit_cases (hs : s.Faithful p) (path : String) (v : Json R) :
    ∃ answer state scheduler, s.EditsTo path v answer state scheduler ∧
      ((∃ w, p.buildFor state.value = .ok w ∧ s.edit path v =
          (answer, { s with bridge := { s.bridge with state }, scheduler,
                            widgets := some w, shown := state })) ∨
        ∃ e, p.buildFor state.value = .error e ∧ p.rebuilds = true ∧ s.edit path v =
          (.error (.panel e), { s with bridge := { s.bridge with state }, scheduler })) := by
  obtain ⟨answer, state, scheduler, hto, hedit⟩ := s.exists_editsTo path v
  refine ⟨answer, state, scheduler, hto, ?_⟩
  have hmoved := hs.moveOn hto.state_moves scheduler
  cases hb : p.buildFor state.value with
  | ok w =>
    refine .inl ⟨w, rfl, ?_⟩
    rw [hedit, settle, hmoved.refreshPanel_of_ok hb]
    rfl
  | error e =>
    obtain ⟨hrefresh, hre⟩ := hmoved.refreshPanel_of_error hb
    refine .inr ⟨e, rfl, hre, ?_⟩
    rw [hedit, settle, hrefresh]

theorem Faithful.edit (hs : s.Faithful p) (path : String) (v : Json R) :
    (s.edit path v).2.Faithful p := by
  obtain ⟨answer, state, scheduler, hto, ⟨w, hw, hedit⟩ | ⟨e, -, -, hedit⟩⟩ := hs.edit_cases path v
  · rw [hedit]
    exact (hs.moveOn hto.state_moves scheduler).catchUp hw
  · rw [hedit]
    exact hs.moveOn hto.state_moves scheduler

/-- An edit reports a fault of the panel exactly if the widgets cannot be built for the new state.
-/
theorem Faithful.edit_eq_panel_iff (hs : s.Faithful p) (path : String) (v : Json R)
    (e : PanelError) : (s.edit path v).1 = .error (.panel e) ↔
      p.buildFor (s.edit path v).2.state.value = .error e := by
  obtain ⟨answer, state, scheduler, hto, ⟨w, hw, hedit⟩ | ⟨e', he', -, hedit⟩⟩ :=
    hs.edit_cases path v
  · rw [hedit]
    show answer = .error (.panel e) ↔ p.buildFor state.value = .error e
    rw [hw]
    exact ⟨fun h => absurd h (hto.answer_ne_panel e), fun h => nomatch h⟩
  · rw [hedit]
    show Except.error (SessionError.panel e') = _ ↔ p.buildFor state.value = .error e
    rw [he', Except.error.injEq, SessionError.panel.injEq, Except.error.injEq]

/-! ### Runs -/

theorem Faithful.step (hs : s.Faithful p) (op : Op R) : (s.step op).Faithful p := by
  cases he : s.edit? op with
  | none =>
    obtain ⟨-, scheduler, -, hstep⟩ := step_of_no_edit he
    rw [hstep]
    exact hs.moveOn (.inl rfl) scheduler
  | some e =>
    rw [(step_of_edit he).1]
    exact hs.edit e.1 e.2

theorem Faithful.run (hs : s.Faithful p) (ops : List (Op R)) : (s.run ops).Faithful p := by
  induction ops generalizing s with
  | nil => exact hs
  | cons op ops ih => exact ih (hs.step op)

end OneEdit

/-! ### New sessions -/

section New

variable {f : Factory R σ} {options : SessionOptions R}

theorem shown_of_create (h : create f (some p) options = .ok s) : s.shown = s.state := by
  unfold create at h
  obtain ⟨m, -, h⟩ := Except.bind_eq_ok h
  obtain ⟨widgets, -, h⟩ := Except.bind_eq_ok h
  cases h
  rfl

theorem device_of_create {panel : Option (EffectPanel R)} (h : create f panel options = .ok s) :
    s.device = options.device := by
  unfold create at h
  obtain ⟨m, -, h⟩ := Except.bind_eq_ok h
  cases panel with
  | none =>
    cases h
    rfl
  | some p =>
    obtain ⟨widgets, -, h⟩ := Except.bind_eq_ok h
    cases h
    rfl

/-- With a panel that can be built for its first state, only the factory can fail. -/
theorem create_eq_error {err : SessionError} {w : Widget R}
    (hw : p.buildFor p.initialState = .ok w) (h : create f (some p) options = .error err) :
    ∃ e, err = .effect e ∧
      f.create (machineOptions { value := p.initialState } options) = .error e := by
  have hbuild : p.build { value := p.initialState } = .ok w := hw
  unfold create at h
  cases hm : f.create (machineOptions { value := p.initialState } options) with
  | error e =>
    simp only [Option.map_some, Option.getD_some, hm] at h
    cases h
    exact ⟨e, rfl, rfl⟩
  | ok m =>
    simp only [Option.map_some, Option.getD_some, hm, hbuild] at h
    cases h

end New

/-! ### The widgets along a run -/

variable [Effect R σ]

/-- The edit of a path is in the state, whatever was made of it: its value, or for the interval what
the machine made of that. -/
def Records (s t : Session R σ) (path : String) (v : Json R) : Prop :=
  match keyOf? path with
  | none => t.state = s.state
  | some key =>
    t.state = s.state.withEffectValue key v ∨
      key = "speed" ∧ t.state = (s.state.withEffectValue key v).withInterval t.speed

/-- What becomes of the widgets in an edit that leads from one session to another. -/
structure Follows (p : EffectPanel R) (s t : Session R σ)
    (answer : Except SessionError (EditAction R)) : Prop where
  /-- The answer is a fault of the panel exactly if the panel cannot be built for the new state. -/
  faults_iff : ∀ e, answer = .error (.panel e) ↔ p.buildFor t.state.value = .error e
  /-- After any other answer the new state is the one shown. -/
  shows : (∀ e, answer ≠ .error (.panel e)) → t.shown = t.state
  /-- After a fault the widgets are still those from before. -/
  keeps : ∀ e, answer = .error (.panel e) → t.widgets = s.widgets ∧ t.shown = s.shown
  /-- After a fault even an edit that means nothing is answered with the fault again. -/
  retries : ∀ e, answer = .error (.panel e) → ∀ path v, keyOf? path = none →
    t.edit path v = (.error (.panel e), t)

theorem Faithful.records (hs : s.Faithful p) (path : String) (v : Json R) :
    s.Records (s.edit path v).2 path v := by
  obtain ⟨answer, state, scheduler, hto, hedit⟩ := hs.edit_cases path v
  have hnew : (s.edit path v).2.state = state ∧ (s.edit path v).2.speed = scheduler.speed := by
    rcases hedit with ⟨w, -, hedit⟩ | ⟨e, -, -, hedit⟩
    · rw [hedit]
      exact ⟨rfl, rfl⟩
    · rw [hedit]
      exact ⟨rfl, rfl⟩
  unfold Records
  rw [hnew.1, hnew.2]
  rcases hto.state_eq with ⟨hkey, hstate⟩ | ⟨key, hkey, hstate⟩
  · rw [hkey]
    exact hstate
  · rw [hkey]
    exact hstate

theorem Faithful.retries (hs : s.Faithful p) {e : PanelError}
    (he : p.buildFor s.state.value = .error e) {path : String} (hpath : keyOf? path = none)
    (v : Json R) : s.edit path v = (.error (.panel e), s) := by
  obtain ⟨answer, state, scheduler, hto, hedit⟩ := hs.edit_cases path v
  have hkept : state = s.state ∧ scheduler = s.scheduler := by
    cases hto with
    | ignored _ => exact ⟨rfl, rfl⟩
    | refused hkey _ | speed hkey _ | color hkey _ _ _ _ | config hkey _ _ _ _ =>
      rw [hpath] at hkey
      cases hkey
  obtain ⟨rfl, rfl⟩ := hkept
  rcases hedit with ⟨w, hw, -⟩ | ⟨e', he', -, hedit⟩
  · rw [he] at hw
    cases hw
  · obtain rfl : e = e' := Except.error.inj (he.symm.trans he')
    exact hedit

theorem Faithful.follows (hs : s.Faithful p) (path : String) (v : Json R) :
    Follows p s (s.edit path v).2 (s.edit path v).1 := by
  have hnext := hs.edit path v
  have hfaults := hs.edit_eq_panel_iff path v
  refine ⟨hfaults, fun hno => ?_, fun e he => ?_, fun e he path' v' hpath =>
    hnext.retries ((hfaults e).mp he) hpath v'⟩
  · obtain ⟨_, _, _, _, ⟨w, _, hedit⟩ | ⟨e, -, -, hedit⟩⟩ := hs.edit_cases path v
    · rw [hedit]
      rfl
    · exact absurd (congrArg Prod.fst hedit) (hno e)
  · obtain ⟨answer, state, scheduler, hto, ⟨w, _, hedit⟩ | ⟨e', -, -, hedit⟩⟩ :=
      hs.edit_cases path v
    · rw [hedit] at he
      exact absurd he (hto.answer_ne_panel e)
    · rw [hedit]
      exact ⟨rfl, rfl⟩

/-- **The widgets follow the state.**  An effect is loaded only with a panel that can be built for
its first state, so that nothing but its factory can refuse a session.  In any session with a panel,
whatever has been done to it, the widgets are those for the state shown; an edit is recorded in the
state, and the widgets follow as far as the panel can be built; and an edit of a panel that is data
never answers with a fault of the panel. -/
theorem widgets_follow_state {m : Type → Type} [Monad m] [LawfulMonad m] (source : Source m)
    (checker : Option (Checker m)) (id : String) (mode : PanelMode) :
    Returns (fun answer : Except LoadError (LoadedEffect R) => ∀ l, answer = .ok l →
        (∃ w, l.panel.buildFor l.panel.initialState = .ok w) ∧
          ∀ (f : Factory R σ) options err, create f (some l.panel) options = .error err →
            ∃ e, err = .effect e ∧
              f.create (machineOptions { value := l.panel.initialState } options) = .error e)
        (Loader.load source checker id mode) ∧
      ∀ (f : Factory R σ) p options s, create f (some p) options = .ok s → ∀ ops : List (Op R),
        (∃ w, (s.run ops).widgets = some w ∧ p.buildFor (s.run ops).shown.value = .ok w) ∧
          ∀ path v answer t, (s.run ops).edit path v = (answer, t) →
            (s.run ops).Records t path v ∧ Follows p (s.run ops) t answer ∧
              ((∃ spec, p = .spec spec) → ∀ e, answer ≠ .error (.panel e)) := by
  refine ⟨(Loader.load_builds source checker id mode).imp fun answer h l hl => ?_, ?_⟩
  · obtain ⟨w, hw⟩ := h l hl
    exact ⟨⟨w, hw⟩, fun f options err herr => create_eq_error hw herr⟩
  · intro f p options s hs ops
    have hrun : (s.run ops).Faithful p :=
      ((created_of_create hs).faithful (shown_of_create hs)).run ops
    obtain ⟨w, hw, hwidgets⟩ := hrun.built
    refine ⟨⟨w, hwidgets, hw⟩, fun path v answer t hedit => ?_⟩
    have hfollows := hrun.follows path v
    have hrecords := hrun.records path v
    rw [hedit] at hfollows hrecords
    refine ⟨hrecords, hfollows, ?_⟩
    rintro ⟨spec, rfl⟩ e he
    -- the widgets of data are there, and they are the ones for every state
    have hfault := (hfollows.faults_iff e).mp he
    rw [EffectPanel.buildFor_of_not_rebuilds rfl _ (s.run ops).shown.value, hw] at hfault
    cases hfault

/-- A panel of one empty component, of the type that its state names. -/
def framePanel : EffectPanel Rat :=
  .script
    { entry := "panel"
      program :=
        { functions :=
            [{ name := "panel", params := ["state"],
               body := .map ["type"] [.chain (.var "state") [.prop "effect", .prop "frame"]] }]
          body := [] }
      state := .obj [("effect", .obj [("frame", .str "Card")])] }

/-- It can be built for the state it begins with. -/
theorem framePanel_card :
    framePanel.buildFor framePanel.initialState = .ok (.mk "n0" .card [] []) := rfl

/-- For a state that names no component it cannot. -/
theorem framePanel_box {s : PanelState Rat} (hs : s.value = framePanel.initialState) :
    framePanel.buildFor (s.withEffectValue "frame" (.str "Box")).value =
      .error (.unknownComponent "n0" "Box") := by
  rw [PanelState.withEffectValue, hs]
  rfl

/-- A card, and still a card while the state names no component; every further edit says so. -/
theorem frame_follows_state :
    ∃ s : Session Rat (Builtin Rat), create Builtin.chaseFactory (some framePanel) {} = .ok s ∧
      s.widgets = some (.mk "n0" .card [] []) ∧
      ∃ e t, s.edit "/effect/frame" (.str "Box") = (.error (.panel e), t) ∧
        e = .unknownComponent "n0" "Box" ∧ s.Records t "/effect/frame" (.str "Box") ∧
        t.widgets = s.widgets ∧ ∀ v, t.edit "/frame" v = (.error (.panel e), t) := by
  have hcreated : (create Builtin.chaseFactory (some framePanel) {}).isOk = true := by
    decide +kernel
  cases hs : create Builtin.chaseFactory (some framePanel) {} with
  | error err =>
    rw [hs] at hcreated
    cases hcreated
  | ok s =>
    have hkey : keyOf? "/effect/frame" = some "frame" := by decide +kernel
    have hnone : keyOf? "/frame" = none := by decide +kernel
    have hstate : s.state.value = framePanel.initialState := by
      rw [state, (created_of_create hs).bridge_eq]
      rfl
    obtain ⟨-, hfollow⟩ :=
      @widgets_follow_state Rat (Builtin Rat) _ _ Id _ _ (Source.ofEntries []) none "chase" .script
    obtain ⟨⟨w, hwidgets, hw⟩, hedits⟩ := hfollow _ _ _ s hs []
    have hcard : w = .mk "n0" .card [] [] := by
      rw [show s.run [] = s from rfl, shown_of_create hs, hstate, framePanel_card] at hw
      exact (Except.ok.inj hw).symm
    rcases hedit : s.edit "/effect/frame" (.str "Box") with ⟨answer, t⟩
    obtain ⟨hrecords, hfollows, -⟩ := hedits "/effect/frame" (.str "Box") answer t hedit
    have hnew := hrecords
    unfold Records at hnew
    rw [hkey] at hnew
    obtain hnew | ⟨habsurd, -⟩ := hnew
    · have hbuild : framePanel.buildFor t.state.value = .error (.unknownComponent "n0" "Box") := by
        rw [hnew]
        exact framePanel_box hstate
      obtain rfl := (hfollows.faults_iff _).mpr hbuild
      exact ⟨s, rfl, hcard ▸ hwidgets, _, t, hedit, rfl, hrecords, (hfollows.keeps _ rfl).1,
        fun v => hfollows.retries _ rfl _ v hnone⟩
    · exact absurd habsurd (by decide)

end Session
end LedStrip
