import Mathlib.Data.Finset.Card
import LedStrip.Proofs.Entries
import LedStrip.Proofs.Loader.Stages

/-!
# Remembered answers

A cache over a checker that has a state of its own, may answer anything at any time and may fail at
any call.  What the inner checker is asked, and what it answers, is the history since the cache was
cleared last (`Cache.Run.asked`).  The cache holds the first answer of each source in it, errors not
counted (`Cache.Run.Remembers`), which every call preserves (`Cache.remembers_step`).  So a loader
whose checker answers by the source alone cannot tell whether there is a cache
(`Cache.loads_alike`).
-/

namespace LedStrip
namespace Cache

/-! ### Calls and their history -/

/-- A question that reached the inner checker, and its answer. -/
structure Asked where
  source : String
  answer : Except FetchError (List Diagnostic)

/-- Whether the inner checker could be reached. -/
def Asked.isOk (a : Asked) : Bool := a.answer.isOk

variable {σ : Type}

/-- A checker that keeps a list of what it was asked. -/
def recorded (inner : Checker (StateM σ)) : Checker (StateM (σ × List Asked)) := fun source w =>
  let (answer, w') := inner source w.1
  (answer, w', w.2 ++ [⟨source, answer⟩])

inductive Call where
  | check (source : String)
  | size
  | clear

inductive Reply where
  | checked (answer : Except FetchError (List Diagnostic))
  | size (n : Nat)
  | cleared

/-- A cache in use. -/
structure Run (σ : Type) where
  cache : Cache
  /-- The state of the inner checker. -/
  world : σ
  /-- What the inner checker was asked since the cache was cleared. -/
  asked : List Asked

def step (inner : Checker (StateM σ)) : Call → Run σ → Reply × Run σ
  | .check source, r =>
    let ((answer, cache), world, asked) :=
      Cache.check (recorded inner) source r.cache (r.world, r.asked)
    (.checked answer, { cache, world, asked })
  | .size, r => (.size r.cache.size, r)
  | .clear, r => (.cleared, { r with cache := r.cache.clear, asked := [] })

/-- A new cache over a checker, after some calls. -/
def after (inner : Checker (StateM σ)) (world : σ) (calls : List Call) : Run σ :=
  calls.foldl (fun r call => (step inner call r).2) { cache := {}, world, asked := [] }

/-- The first answer to a source that is no error. -/
def firstOk? (source : String) (asked : List Asked) : Option (List Diagnostic) :=
  asked.findSome? fun a => if a.source = source then a.answer.toOption else none

/-- Sources that were answered, in the order of the answers. -/
def answered (asked : List Asked) : List String := (asked.filter Asked.isOk).map Asked.source

/-! ### One check -/

/-- The cache after an answer of the inner checker. -/
def remember (source : String) (answer : Except FetchError (List Diagnostic)) (c : Cache) : Cache :=
  match answer with
  | .ok ds => { c with answers := Entries.insert source ds c.answers }
  | .error _ => c

section Check

variable {m : Type → Type} [Monad m] {inner : Checker m} {source : String} {c : Cache}

theorem check_of_remembered {ds : List Diagnostic} (h : Entries.get? source c.answers = some ds) :
    Cache.check inner source c = pure (.ok ds, c) := by
  rw [Cache.check, h]

theorem check_of_new [LawfulMonad m] (h : Entries.get? source c.answers = none) :
    Cache.check inner source c =
      (fun answer => (answer, remember source answer c)) <$> inner source := by
  rw [Cache.check, h, map_eq_pure_bind]
  refine congrArg (inner source >>= ·) (funext fun answer => ?_)
  cases answer <;> rfl

end Check

section Step

variable {inner : Checker (StateM σ)} {source : String} {r : Run σ}

theorem step_of_remembered {ds : List Diagnostic}
    (h : Entries.get? source r.cache.answers = some ds) :
    step inner (.check source) r = (.checked (.ok ds), r) := by
  rw [step, check_of_remembered h]
  rfl

theorem step_of_new (h : Entries.get? source r.cache.answers = none) :
    step inner (.check source) r =
      (.checked (inner source r.world).1,
        { cache := remember source (inner source r.world).1 r.cache
          world := (inner source r.world).2
          asked := r.asked ++ [⟨source, (inner source r.world).1⟩] }) := by
  rw [step, check_of_new h]
  rfl

/-- The records are kept beside: without them the cache does the same. -/
theorem exists_step_eq (inner : Checker (StateM σ)) (source : String) (r : Run σ) :
    let ((answer, cache), world) := Cache.check inner source r.cache r.world
    ∃ asked, step inner (.check source) r = (.checked answer, { cache, world, asked }) := by
  cases hs : Entries.get? source r.cache.answers with
  | some ds =>
    rw [check_of_remembered hs, step_of_remembered hs]
    exact ⟨r.asked, rfl⟩
  | none =>
    rw [check_of_new hs, step_of_new hs]
    exact ⟨_, rfl⟩

end Step

/-! ### What the cache holds -/

theorem firstOk?_concat (source : String) (asked : List Asked) (a : Asked) :
    firstOk? source (asked ++ [a]) =
      (firstOk? source asked).or (if a.source = source then a.answer.toOption else none) := by
  rw [firstOk?, List.findSome?_append, List.findSome?_singleton, firstOk?]

theorem firstOk?_eq_none_iff {source : String} {asked : List Asked} :
    firstOk? source asked = none ↔ ∀ a ∈ asked, a.isOk = true → a.source ≠ source := by
  rw [firstOk?, List.findSome?_eq_none_iff]
  refine forall₂_congr fun a _ => ?_
  by_cases hs : a.source = source
  · cases ha : a.answer <;> simp [hs, Asked.isOk, ha, Except.isOk, Except.toBool, Except.toOption]
  · simp [hs]

theorem mem_answered_iff {source : String} {asked : List Asked} :
    source ∈ answered asked ↔ ∃ a ∈ asked, a.isOk = true ∧ a.source = source := by
  simp [answered, and_assoc]

theorem answered_concat (asked : List Asked) (a : Asked) :
    answered (asked ++ [a]) = answered asked ++ if a.isOk then [a.source] else [] := by
  rw [answered, List.filter_append, List.map_append, ← answered]
  cases ha : a.isOk <;> simp [ha]

/-- What a cache has to do with its history. -/
structure Run.Remembers (r : Run σ) : Prop where
  /-- It holds the first answer of every source. -/
  answers : ∀ source, Entries.get? source r.cache.answers = firstOk? source r.asked
  /-- It holds nothing else, and nothing twice. -/
  sources : (Entries.keys r.cache.answers).Perm (answered r.asked)
  /-- No source was asked about again after its answer. -/
  once : r.asked.Pairwise fun earlier later => earlier.isOk = true → later.source ≠ earlier.source

namespace Run.Remembers

variable {r : Run σ} (h : r.Remembers)

include h

theorem nodup_answered : (answered r.asked).Nodup := by
  refine List.pairwise_map.mpr (List.Pairwise.filter _ h.once |>.imp_of_mem ?_)
  intro a b ha _ hab
  exact (hab (List.mem_filter.mp ha).2).symm

theorem size_eq : r.cache.size = (answered r.asked).toFinset.card := by
  rw [List.toFinset_card_of_nodup h.nodup_answered, ← h.sources.length_eq, Entries.keys,
    List.length_map, Cache.size]

/-- An answer to a source that has none yet. -/
theorem ask {source : String} (hnew : firstOk? source r.asked = none)
    (answer : Except FetchError (List Diagnostic)) (world : σ) :
    Run.Remembers { cache := remember source answer r.cache, world,
                    asked := r.asked ++ [⟨source, answer⟩] } := by
  have hbefore := firstOk?_eq_none_iff.mp hnew
  have honce : (r.asked ++ [(⟨source, answer⟩ : Asked)]).Pairwise fun earlier later =>
      earlier.isOk = true → later.source ≠ earlier.source := by
    refine List.pairwise_append.mpr ⟨h.once, List.pairwise_singleton _ _, fun a ha b hb hok => ?_⟩
    rw [List.mem_singleton.mp hb]
    exact (hbefore a ha hok).symm
  cases answer with
  | error e =>
    refine ⟨fun s => ?_, ?_, honce⟩
    · rw [firstOk?_concat]
      simp [remember, h.answers, Except.toOption]
    · rw [answered_concat]
      simpa [remember, Asked.isOk, Except.isOk, Except.toBool] using h.sources
  | ok ds =>
    refine ⟨fun s => ?_, ?_, honce⟩
    · rw [firstOk?_concat]
      by_cases hs : source = s
      · subst hs
        simp [remember, hnew, Except.toOption]
      · simp [remember, hs, Entries.get?_insert_of_ne (Ne.symm hs), h.answers]
    · have hfresh : source ∉ Entries.keys r.cache.answers := fun hmem => by
        obtain ⟨a, ha, hok, hsource⟩ := mem_answered_iff.mp (h.sources.mem_iff.mp hmem)
        exact hbefore a ha hok hsource
      rw [answered_concat]
      have hsources : (Entries.keys (Entries.insert source ds r.cache.answers)).Perm
          (source :: Entries.keys r.cache.answers) := (Entries.insert_perm hfresh ds).map Prod.fst
      refine hsources.trans ((h.sources.cons source).trans ?_)
      exact (List.perm_append_singleton source _).symm

end Run.Remembers

variable {inner : Checker (StateM σ)}

/-- **Every call keeps the cache and its history together.** -/
theorem remembers_step {r : Run σ} (h : r.Remembers) (call : Call) :
    (step inner call r).2.Remembers := by
  cases call with
  | check source =>
    cases hs : Entries.get? source r.cache.answers with
    | some ds => rwa [step_of_remembered hs]
    | none =>
      rw [step_of_new hs]
      exact h.ask (h.answers source ▸ hs) _ _
  | size => exact h
  | clear => exact ⟨fun _ => rfl, .refl _, .nil⟩

theorem remembers_after (inner : Checker (StateM σ)) (world : σ) (calls : List Call) :
    (after inner world calls).Remembers := by
  induction calls using List.reverseRecOn with
  | nil => exact ⟨fun _ => rfl, .refl _, .nil⟩
  | append_singleton calls call ih =>
    rw [after, List.foldl_concat]
    exact remembers_step ih call

/-! ### Loads through a cache -/

/-- What a cache holds are answers that a function gives. -/
def Faithful (f : String → Except FetchError (List Diagnostic)) (c : Cache) : Prop :=
  ∀ source ds, Entries.get? source c.answers = some ds → f source = .ok ds

section Faithful

variable {f : String → Except FetchError (List Diagnostic)} {c : Cache}

theorem faithful_empty : Faithful f {} := fun _ _ h => nomatch h

theorem Faithful.remember (h : Faithful f c) (source : String) :
    Faithful f (remember source (f source) c) := by
  cases hf : f source with
  | error e => exact h
  | ok ds =>
    intro s ds' hs
    by_cases he : s = source
    · subst he
      rw [Cache.remember, Entries.get?_insert_self] at hs
      rw [hf, Option.some.inj hs]
    · rw [Cache.remember, Entries.get?_insert_of_ne he] at hs
      exact h s ds' hs

theorem Faithful.step (hinner : ∀ source w, (inner source w).1 = f source) {r : Run σ}
    (h : Faithful f r.cache) (call : Call) : Faithful f (step inner call r).2.cache := by
  cases call with
  | check source =>
    cases hs : Entries.get? source r.cache.answers with
    | some ds => rwa [step_of_remembered hs]
    | none =>
      rw [step_of_new hs, hinner]
      exact h.remember source
  | size => exact h
  | clear => exact faithful_empty

theorem faithful_after (hinner : ∀ source w, (inner source w).1 = f source) (world : σ)
    (calls : List Call) : Faithful f (after inner world calls).cache := by
  induction calls using List.reverseRecOn with
  | nil => exact faithful_empty
  | append_singleton calls call ih =>
    rw [after, List.foldl_concat]
    exact ih.step hinner call

end Faithful

section Loads

open Loader

variable {R : Type} [Scalar R] {m n : Type → Type} [Monad m] [Monad n]

/-- A source in a monad with more effects, which it does not have. -/
def besides [MonadLiftT m n] (source : Source m) : Source n where
  location := source.location
  fetch r := liftM (source.fetch r)

/-- A checker with a state of its own, among the effects of a source. -/
def among (inner : Checker (StateM σ)) : Checker (StateT σ m) := fun source =>
  modifyGet (inner source)

/-- What is fetched for a load. -/
def fetched (R : Type) [Scalar R] (source : Source m) (id : String) (mode : PanelMode) :
    m (Except FetchError Sources) :=
  if isValidId id then fetchSources R source mode id else pure (.error (.invalidResource id))

/-- What a load comes to, by what was fetched and the answers of a checker. -/
def verdict (R : Type) [Scalar R] (f : String → Except FetchError (List Diagnostic)) (id : String)
    (mode : PanelMode) : Except FetchError Sources → Except LoadError (LoadedEffect R)
  | .error e => .error (.fetch e)
  | .ok s => judged (outcome R mode id s) (f (combined (segmentsOf mode id s)))

/-- Loads, one after the other. -/
def loads (R : Type) [Scalar R] (source : Source m) (check : Checker m)
    (requests : List (String × PanelMode)) : m (List (Except LoadError (LoadedEffect R))) :=
  requests.mapM fun q => load source (some check) q.1 q.2

theorem load_eq [LawfulMonad m] (source : Source m) (check : Checker m) (id : String)
    (mode : PanelMode) :
    load (R := R) source (some check) id mode = (do
      match ← fetched R source id mode with
      | .error e => pure (.error (.fetch e))
      | .ok s => judged (outcome R mode id s) <$> check (combined (segmentsOf mode id s))) := by
  cases hid : isValidId id with
  | true =>
    rw [fetched, if_pos hid]
    exact load_checked hid check
  | false =>
    rw [load_of_not_isValidId hid, fetched, if_neg (by simp [hid]), pure_bind]

section Lift

variable [MonadLiftT m n] [LawfulMonadLiftT m n]

theorem liftM_andThen {α β : Type} {x : m α} {g : α → m β} {g' : α → n β}
    (h : ∀ a, g' a = liftM (g a)) : liftM x >>= g' = liftM (x >>= g) := by
  rw [liftM_bind]
  exact congrArg (liftM x >>= ·) (funext h)

theorem fetchJson_besides (source : Source m) (id : String) :
    (besides (n := n) source).fetchJson (EffectMeta.decode (R := R)) (Resource.about id) =
      liftM (source.fetchJson (EffectMeta.decode (R := R)) (Resource.about id)) := by
  refine liftM_andThen fun text => ?_
  cases text with
  | error e => exact (liftM_pure _).symm
  | ok text =>
    dsimp only
    cases Decoder.ofText (EffectMeta.decode (R := R)) text <;> exact (liftM_pure _).symm

theorem fetchSources_besides (source : Source m) (id : String) (mode : PanelMode) :
    fetchSources R (besides (n := n) source) mode id = liftM (fetchSources R source mode id) := by
  rw [fetchSources_eq, fetchSources_eq, fetchJson_besides]
  refine liftM_andThen fun about => ?_
  cases about with
  | error e => exact (liftM_pure _).symm
  | ok about =>
    refine liftM_andThen fun runtime => ?_
    cases runtime with
    | error e => exact (liftM_pure _).symm
    | ok runtime =>
      refine liftM_andThen fun logic => ?_
      cases logic with
      | error e => exact (liftM_pure _).symm
      | ok logic =>
        refine liftM_andThen fun panel => ?_
        cases panel <;> exact (liftM_pure _).symm

/-- What is fetched does not depend on the other effects. -/
theorem fetched_besides (source : Source m) (id : String) (mode : PanelMode) :
    fetched R (besides (n := n) source) id mode = liftM (fetched R source id mode) := by
  unfold fetched
  split
  · exact fetchSources_besides source id mode
  · exact (liftM_pure _).symm

end Lift

variable [LawfulMonad m]

theorem run_map_of_run {α β : Type} {x : StateT σ m α} {w w' : σ} {a : α}
    (h : x.run w = pure (a, w')) (g : α → β) : (g <$> x).run w = pure (g a, w') := by
  rw [StateT.run_map, h, map_pure]

variable {f : String → Except FetchError (List Diagnostic)}
  (hinner : ∀ source w, (inner source w).1 = f source)

include hinner

omit [LawfulMonad m] in
theorem run_among (source : String) (w : σ) :
    (among inner source : StateT σ m _).run w = pure (f source, (inner source w).2) := by
  rw [among, ← hinner source w]
  rfl

/-- A load with a checker that answers by the source alone. -/
theorem load_among (source : Source m) (id : String) (mode : PanelMode) (w : σ) :
    ∃ next : Except FetchError Sources → σ,
      (load (R := R) (besides source) (some (among inner)) id mode).run w =
        (fun x => (verdict R f id mode x, next x)) <$> fetched R source id mode := by
  refine ⟨fun x => match x with
    | .error _ => w
    | .ok s => (inner (combined (segmentsOf mode id s)) w).2, ?_⟩
  rw [load_eq, fetched_besides, map_eq_pure_bind]
  refine (StateT.run_bind_lift _ _ _).trans ?_
  refine congrArg (fetched R source id mode >>= ·) (funext fun x => ?_)
  cases x with
  | error e => rfl
  | ok s => exact run_map_of_run (run_among hinner _ w) _

theorem run_check_among {c : Cache} (h : Faithful f c) (source : String) (w : σ) :
    ∃ c' w', Faithful f c' ∧
      ((Cache.check (among inner) source : StateT Cache (StateT σ m) _).run c).run w =
        pure ((f source, c'), w') := by
  cases hs : Entries.get? source c.answers with
  | some ds =>
    refine ⟨c, w, h, ?_⟩
    show (Cache.check (among inner) source c).run w = _
    rw [check_of_remembered hs, h source ds hs]
    rfl
  | none =>
    refine ⟨_, (inner source w).2, h.remember source, ?_⟩
    show (Cache.check (among inner) source c).run w = _
    rw [check_of_new hs]
    exact run_map_of_run (run_among hinner source w) _

/-- The same with a cache in between: what was fetched comes to the same. -/
theorem load_cached {c : Cache} (h : Faithful f c) (source : Source m) (id : String)
    (mode : PanelMode) (w : σ) :
    ∃ next : Except FetchError Sources → Cache × σ, (∀ x, Faithful f (next x).1) ∧
      ((load (R := R) (besides source) (some (Cache.check (among inner))) id mode).run c).run w =
        (fun x => ((verdict R f id mode x, (next x).1), (next x).2)) <$>
          fetched R source id mode := by
  choose c' w' hfaithful hcheck using fun text => run_check_among (m := m) hinner h text w
  refine ⟨fun x => match x with
    | .error _ => (c, w)
    | .ok s => (c' (combined (segmentsOf mode id s)), w' (combined (segmentsOf mode id s))),
    fun x => ?_, ?_⟩
  · cases x with
    | error e => exact h
    | ok s => exact hfaithful _
  · rw [load_eq, fetched_besides, map_eq_pure_bind]
    refine (congrArg (StateT.run · w) (StateT.run_bind_lift _ _ _)).trans ?_
    refine (StateT.run_bind_lift _ _ _).trans ?_
    refine congrArg (fetched R source id mode >>= ·) (funext fun x => ?_)
    cases x with
    | error e => rfl
    | ok s =>
      dsimp only
      rw [StateT.run_map]
      exact run_map_of_run (hcheck _) _

theorem loads_alike {c : Cache} (h : Faithful f c) (source : Source m)
    (requests : List (String × PanelMode)) (w w' : σ) :
    ((loads R (besides source) (Cache.check (among (m := m) inner)) requests).run' c).run' w =
      (loads R (besides source) (among (m := m) inner) requests).run' w' := by
  unfold loads
  induction requests generalizing c w w' with
  | nil => simp only [List.mapM_nil, StateT.run'_eq, StateT.run_pure, map_pure]
  | cons q rest ih =>
    obtain ⟨next, hdirect⟩ := load_among (R := R) hinner source q.1 q.2 w'
    obtain ⟨next', hfaithful, hcached⟩ := load_cached (R := R) hinner h source q.1 q.2 w
    simp only [List.mapM_cons, StateT.run'_eq, StateT.run_bind, StateT.run_pure, map_bind,
      map_pure]
    rw [hdirect, hcached, bind_map_left, bind_map_left]
    refine congrArg (fetched R source q.1 q.2 >>= ·) (funext fun x => ?_)
    have hrest := congrArg ((verdict R f q.1 q.2 x :: ·) <$> ·)
      (ih (hfaithful x) (next' x).2 (next x))
    simpa only [StateT.run'_eq, StateT.run_bind, StateT.run_pure, map_eq_pure_bind, bind_assoc,
      pure_bind] using hrest

end Loads

/-- **A cache remembers first answers, and nothing else.**  After any calls of a new cache over any
checker, where `asked` is what the checker was asked since the cache was cleared:

* A source that the checker has answered gets its first answer again, and the checker is not asked.
* About any other source the checker is asked exactly once, and its answer is passed on; an error
  leaves the cache as it was.
* Nobody asks again about a source with an answer, and the size is the number of such sources.
* The records are kept beside: without them the cache does the same.
* Where the checker answers by the source alone, loads through the cache come to the same as loads
  without it, whatever the source of the effects does in between. -/
theorem answers_remembered (inner : Checker (StateM σ)) (world : σ) (calls : List Call) :
    let r := after inner world calls
    (∀ source ds, firstOk? source r.asked = some ds →
        step inner (.check source) r = (.checked (.ok ds), r)) ∧
      (∀ source, firstOk? source r.asked = none →
        let (answer, world') := inner source r.world
        ∃ cache, step inner (.check source) r = (.checked answer,
            { cache, world := world', asked := r.asked ++ [⟨source, answer⟩] }) ∧
          (answer.isOk = false → cache = r.cache)) ∧
      (r.asked.Pairwise fun earlier later =>
        earlier.isOk = true → later.source ≠ earlier.source) ∧
      step inner .size r = (.size (answered r.asked).toFinset.card, r) ∧
      (∀ source,
        let ((answer, cache), world') := Cache.check inner source r.cache r.world
        ∃ asked,
          step inner (.check source) r = (.checked answer, { cache, world := world', asked })) ∧
      ∀ f : String → Except FetchError (List Diagnostic),
        (∀ source w, (inner source w).1 = f source) →
        ∀ {R : Type} [Scalar R] {m : Type → Type} [Monad m] [LawfulMonad m] (source : Source m)
          (requests : List (String × PanelMode)) (w : σ),
          ((loads R (besides source) (Cache.check (among (m := m) inner)) requests).run'
              r.cache).run' r.world =
            (loads R (besides source) (among (m := m) inner) requests).run' w := by
  intro r
  have h : r.Remembers := remembers_after inner world calls
  refine ⟨fun source ds hs => step_of_remembered ((h.answers source).trans hs), fun source hs => ?_,
    h.once, ?_, fun source => exists_step_eq inner source r,
    fun f hinner R _ m _ _ source requests w => ?_⟩
  · refine ⟨_, step_of_new ((h.answers source).trans hs), fun herror => ?_⟩
    cases hanswer : (inner source r.world).1 with
    | error e => rfl
    | ok ds =>
      rw [hanswer] at herror
      cases herror
  · rw [← h.size_eq]
    rfl
  · exact loads_alike hinner (faithful_after hinner world calls) source requests r.world w

/-- A checker that counts its calls and cannot be reached the first time. -/
def waking : Checker (StateM Nat) := fun _ n =>
  (if n = 0 then .error (.http "connection refused") else .ok [.warning "counted"], n + 1)

/-- A checker that counts its calls and has nothing to say. -/
def content : Checker (StateM Nat) := fun _ n => (.ok [], n + 1)

/-- A source that is gone after four requests. -/
def vanishing : Source (StateM Nat) where
  location := "vanishing"
  fetch r n := (if n < 4 then Loader.answersOf Loader.bareDot r else .error (.notFound r), n + 1)

/-- A refusal is not remembered, the answer after it is, so the second source is the third question;
and two loads of an effect that vanishes after the first cannot tell a cache over a checker that
always says the same. -/
theorem refusal_is_asked_again :
    let r := after waking 0 [.check "a", .check "a", .check "a", .check "b"]
    r.world = 3 ∧ step waking .size r = (.size 2, r) ∧
      step waking (.check "a") r = (.checked (.ok [.warning "counted"]), r) ∧
      (step waking (.check "c") r).2.world = 4 ∧
      let requests := [("dot", PanelMode.json), ("dot", PanelMode.json)]
      ((loads Rat (besides vanishing) (Cache.check (among (m := StateM Nat) content)) requests).run'
          {}).run' 0 =
        (loads Rat (besides vanishing) (among (m := StateM Nat) content) requests).run' 0 := by
  intro r
  obtain ⟨hold, hnew, -, hsize, -, -⟩ :=
    answers_remembered waking 0 [.check "a", .check "a", .check "a", .check "b"]
  obtain ⟨-, -, -, -, -, hloads⟩ := answers_remembered content 0 []
  obtain ⟨cache, hc, -⟩ := hnew "c" rfl
  refine ⟨rfl, ?_, hold "a" _ rfl, ?_, ?_⟩
  · have htwo : (answered r.asked).toFinset.card = 2 := by decide
    exact htwo ▸ hsize
  · exact congrArg (fun p : Reply × Run Nat => p.2.world) hc
  · exact hloads (fun _ => .ok []) (fun _ _ => rfl) _ _ 0

end Cache
end LedStrip
