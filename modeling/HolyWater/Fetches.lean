/-
The fetches of a run.

Screens are opened and closed in any order, the network answers when it likes, and
the main queue delivers in any order.  Whatever happens, the fetches keep to a
protocol between the screens and the SDK.

* `request_unique` — no two requests are on their way at once, and one is exactly
  while the SDK has a fetch down as in progress;
* `answered_once` — a fetch that has been answered has one answer, on its way or
  delivered, and any other fetch has none;
* `fetches_finish` — the SDK and the main queue come to an end, and then every
  screen has been delivered exactly one answer;
* `never_throttled` — no fetch is refused because of the backoff: its interval is
  doubled from 0, and only a state that cannot be reached sets it to the minimum.
-/
import HolyWater.Screens

namespace HolyWater

namespace Screens

open RCNConfigFetch

/-! ### One step of a fetch -/

/-- The event is one of the SDK or of the main queue. -/
def Event.IsFetch : Event → Prop
  | .runFetch _ _ _ => True
  | .failRequest _ => True
  | .respond _ _ => True
  | .complete _ _ _ => True
  | .deliver _ _ => True
  | _ => False

/-- What an event does to the fetch of screen `i` and to the settings, and the answers
it gives. -/
inductive FetchMove (i : ℕ) : Event → FetchProgress → RCNConfigSettings → FetchProgress →
    RCNConfigSettings → List (ℕ × FetchAnswer) → Prop
  | stay {event : Event} (fetch : FetchProgress) (settings : RCNConfigSettings)
      (hevent : ¬ event.IsFetch) : FetchMove i event fetch settings fetch settings []
  | answer {now : ℚ} {hasDeviceContextChanged : Bool} {settings settings' : RCNConfigSettings}
      {result : FetchAnswer}
      (hfetch : fetchConfig RCNConfigSettings.RCNDefaultMinimumFetchInterval now
        hasDeviceContextChanged settings = (settings', some result)) :
      FetchMove i (.runFetch i now hasDeviceContextChanged) .queued settings .answered settings'
        [(i, result)]
  | request {now : ℚ} {hasDeviceContextChanged : Bool} {settings settings' : RCNConfigSettings}
      (hfetch : fetchConfig RCNConfigSettings.RCNDefaultMinimumFetchInterval now
        hasDeviceContextChanged settings = (settings', none)) :
      FetchMove i (.runFetch i now hasDeviceContextChanged) .queued settings .inProgress settings'
        []
  | fail (settings : RCNConfigSettings) :
      FetchMove i (.failRequest i) .inProgress settings .answered (requestFailed settings).1
        [(i, (requestFailed settings).2)]
  | respond (settings : RCNConfigSettings) (response : NetworkResponse) :
      FetchMove i (.respond i response) .inProgress settings (.responded response)
        { settings with isFetchInProgress := false } []
  | complete (settings : RCNConfigSettings) (response : NetworkResponse) (now : ℚ)
      (randomPlusMinusInterval : Bool) :
      FetchMove i (.complete i now randomPlusMinusInterval) (.responded response) settings
        .answered (fetcherCompletion now randomPlusMinusInterval response settings).1
        [(i, (fetcherCompletion now randomPlusMinusInterval response settings).2)]

/-- What an event does to the fetches: a screen is opened, one fetch moves, or an
answer is delivered. -/
inductive FetchStep (app : Screens) (event : Event) (app' : Screens) : Prop
  | opening (screen : Screen) (hevent : ¬ event.IsFetch) (hqueued : screen.fetch = .queued)
      (happ : app' = { app with screens := app.screens ++ [screen] })
  | moving (i : ℕ) (screen screen' : Screen) (settings : RCNConfigSettings)
      (answers : List (ℕ × FetchAnswer)) (hscreen : app.screens[i]? = some screen)
      (hmove : FetchMove i event screen.fetch app.settings screen'.fetch settings answers)
      (happ : app' = { app with
        settings := settings
        screens := app.screens.set i screen'
        waiting := app.waiting ++ answers })
  | delivering (getConfigValue : String → String) (k i : ℕ) (answer : FetchAnswer)
      (screen screen' : Screen) (delivery : Delivery)
      (hevent : event = .deliver getConfigValue k)
      (hwaiting : app.waiting[k]? = some (i, answer)) (hscreen : app.screens[i]? = some screen)
      (hfetch : screen'.fetch = screen.fetch) (hdelivery : delivery.screen = i)
      (hanswer : delivery.answer = answer)
      (happ : app' = { app with
        screens := app.screens.set i screen'
        waiting := app.waiting.eraseIdx k
        delivered := app.delivered ++ [delivery] })

/-- What is answered at once leaves the request in progress alone. -/
theorem isFetchInProgress_of_answer {now : ℚ} {hasDeviceContextChanged : Bool}
    {expirationDuration : ℚ} {settings settings' : RCNConfigSettings} {result : FetchAnswer}
    (h : fetchConfig expirationDuration now hasDeviceContextChanged settings =
      (settings', some result)) :
    settings'.isFetchInProgress = settings.isFetchInProgress := by
  rw [fetchConfig] at h
  split at h
  · rw [← (Prod.mk.inj h).1]
  · split at h
    · split at h <;> rw [← (Prod.mk.inj h).1]
    · split at h
      · rw [← (Prod.mk.inj h).1]
      · exact absurd (Prod.mk.inj h).2 (by simp)

/-- A request is sent when none is in progress. -/
theorem isFetchInProgress_of_request {now : ℚ} {hasDeviceContextChanged : Bool}
    {expirationDuration : ℚ} {settings settings' : RCNConfigSettings}
    (h : fetchConfig expirationDuration now hasDeviceContextChanged settings = (settings', none)) :
    settings.isFetchInProgress = false ∧
      settings' = { settings with isFetchInProgress := true } := by
  rw [fetchConfig] at h
  split at h
  · exact absurd (Prod.mk.inj h).2 (by simp)
  · split at h
    · split at h <;> exact absurd (Prod.mk.inj h).2 (by simp)
    · rename_i hbusy
      split at h
      · exact absurd (Prod.mk.inj h).2 (by simp)
      · exact ⟨by simpa using hbusy, (Prod.mk.inj h).1.symm⟩

theorem isFetchInProgress_fetcherCompletion (now : ℚ) (randomPlusMinusInterval : Bool)
    (response : NetworkResponse) (settings : RCNConfigSettings) :
    (fetcherCompletion now randomPlusMinusInterval response settings).1.isFetchInProgress =
      settings.isFetchInProgress := by
  rw [fetcherCompletion]
  split
  · dsimp only
    split
    · split <;> rfl
    · rfl
  · cases response.data <;> rfl

section Steps

variable {S : JSONServices} {width : ℚ} {app app' : Screens} {event : Event}

theorem runFetch_fetchStep {i : ℕ} {now : ℚ} {hasDeviceContextChanged : Bool}
    (h : app.runFetch i now hasDeviceContextChanged = some app') :
    FetchStep app (.runFetch i now hasDeviceContextChanged) app' := by
  rw [runFetch] at h
  split at h
  · rename_i controller isOpen hscreen
    split at h
    · rename_i settings result hfetch
      exact .moving i _ _ settings _ hscreen (.answer hfetch) (Option.some.inj h).symm
    · rename_i settings hfetch
      refine .moving i _ ⟨controller, isOpen, .inProgress⟩ settings _ hscreen
        (.request hfetch) ?_
      rw [List.append_nil]
      exact (Option.some.inj h).symm
  · exact absurd h (by simp)

theorem failRequest_fetchStep {i : ℕ} (h : app.failRequest i = some app') :
    FetchStep app (.failRequest i) app' := by
  rw [failRequest] at h
  split at h
  · rename_i controller isOpen hscreen
    exact .moving i _ _ _ _ hscreen (.fail app.settings) (Option.some.inj h).symm
  · exact absurd h (by simp)

theorem respond_fetchStep {i : ℕ} {response : NetworkResponse}
    (h : app.respond i response = some app') : FetchStep app (.respond i response) app' := by
  rw [respond] at h
  split at h
  · rename_i controller isOpen hscreen
    refine .moving i _ ⟨controller, isOpen, .responded response⟩ _ _ hscreen
      (.respond app.settings response) ?_
    rw [List.append_nil]
    exact (Option.some.inj h).symm
  · exact absurd h (by simp)

theorem complete_fetchStep {i : ℕ} {now : ℚ} {randomPlusMinusInterval : Bool}
    (h : app.complete i now randomPlusMinusInterval = some app') :
    FetchStep app (.complete i now randomPlusMinusInterval) app' := by
  rw [complete] at h
  split at h
  · rename_i controller isOpen response hscreen
    exact .moving i _ _ _ _ hscreen
      (.complete app.settings response now randomPlusMinusInterval) (Option.some.inj h).symm
  · exact absurd h (by simp)

theorem deliver_fetchStep {getConfigValue : String → String} {k : ℕ}
    (h : app.deliver S getConfigValue k = some app') :
    FetchStep app (.deliver getConfigValue k) app' := by
  rw [deliver] at h
  split at h
  · rename_i i answer hwaiting
    obtain ⟨screen, hscreen, rfl⟩ := Option.map_eq_some_iff.mp h
    exact .delivering getConfigValue k i answer screen
      { screen with controller := (delivery S getConfigValue i answer screen).after }
      (delivery S getConfigValue i answer screen) rfl hwaiting hscreen rfl rfl rfl rfl
  · exact absurd h (by simp)

/-- An event of a screen leaves its fetch alone. -/
theorem stay_fetchStep {i : ℕ} {screen screen' : Screen} (hscreen : app.screens[i]? = some screen)
    (hevent : ¬ event.IsFetch) (hfetch : screen'.fetch = screen.fetch) :
    FetchStep app event { app with screens := app.screens.set i screen' } := by
  refine .moving i screen screen' app.settings [] hscreen ?_ ?_
  · rw [hfetch]
    exact .stay screen.fetch app.settings hevent
  · rw [List.append_nil]

theorem fetchStep_of_next (hnext : step S width app event = some app') :
    FetchStep app event app' := by
  cases event with
  | openLibrary =>
    obtain rfl := Option.some.inj hnext
    exact .opening _ id rfl rfl
  | openRecommended currentCellIndex labels =>
    obtain rfl := Option.some.inj hnext
    exact .opening _ id rfl rfl
  | close i =>
    obtain ⟨screen, hscreen, rfl⟩ := Option.map_eq_some_iff.mp hnext
    exact stay_fetchStep hscreen id rfl
  | runFetch i now hasDeviceContextChanged => exact runFetch_fetchStep hnext
  | failRequest i => exact failRequest_fetchStep hnext
  | respond i response => exact respond_fetchStep hnext
  | complete i now randomPlusMinusInterval => exact complete_fetchStep hnext
  | deliver getConfigValue k => exact deliver_fetchStep hnext
  | library i event =>
    rw [step] at hnext
    split at hnext
    · rename_i vc isOpen fetch hscreen
      obtain ⟨vc', -, rfl⟩ := Option.map_eq_some_iff.mp hnext
      exact stay_fetchStep hscreen id rfl
    · exact absurd hnext (by simp)
  | recommended i event =>
    rw [step] at hnext
    split at hnext
    · rename_i vc isOpen fetch hscreen
      obtain ⟨vc', -, rfl⟩ := Option.map_eq_some_iff.mp hnext
      exact stay_fetchStep hscreen id rfl
    · exact absurd hnext (by simp)

end Steps

/-! ### Fetches and answers -/

/-- How far the fetch of screen `i` has come. -/
def fetchOf (app : Screens) (i : ℕ) : Option FetchProgress :=
  app.screens[i]?.map Screen.fetch

/-- The answers to screen `i`, on their way or delivered. -/
def answersTo (app : Screens) (i : ℕ) : ℕ :=
  app.waiting.countP (·.1 = i) + app.delivered.countP (·.screen = i)

section Fetches

variable {app app' : Screens} {event : Event} {i j : ℕ} {screen screen' : Screen}

theorem fetchOf_eq_some {fetch : FetchProgress} :
    app.fetchOf i = some fetch ↔ ∃ screen, app.screens[i]? = some screen ∧ screen.fetch = fetch :=
  Option.map_eq_some_iff

theorem fetchOf_append (happ : app'.screens = app.screens ++ [screen]) (j : ℕ) :
    app'.fetchOf j = if j = app.screens.length then some screen.fetch else app.fetchOf j := by
  rw [fetchOf, fetchOf, happ]
  split
  · rename_i hj
    rw [hj, List.getElem?_concat_length]
    rfl
  · rename_i hj
    rw [List.getElem?_append]
    split
    · rfl
    · rename_i hle
      have hlt : app.screens.length < j := by omega
      rw [List.getElem?_eq_none (by simp; omega), List.getElem?_eq_none hlt.le]

theorem fetchOf_set (hscreen : app.screens[i]? = some screen)
    (happ : app'.screens = app.screens.set i screen') (j : ℕ) :
    app'.fetchOf j = if j = i then some screen'.fetch else app.fetchOf j := by
  rw [fetchOf, fetchOf, happ]
  split
  · rename_i hj
    obtain ⟨hlt, -⟩ := List.getElem?_eq_some_iff.mp hscreen
    rw [hj, List.getElem?_set_self hlt]
    rfl
  · rename_i hj
    rw [List.getElem?_set_ne (Ne.symm hj)]

/-- A new screen has not been fetched for. -/
theorem fetchOf_length : app.fetchOf app.screens.length = none := by
  rw [fetchOf, List.getElem?_eq_none le_rfl]
  rfl

/-- A delivery moves an answer. -/
theorem answersTo_deliver {k : ℕ} {answer : FetchAnswer} {delivery : Delivery}
    (hwaiting : app.waiting[k]? = some (i, answer)) (hdelivery : delivery.screen = i)
    (hwaiting' : app'.waiting = app.waiting.eraseIdx k)
    (hdelivered' : app'.delivered = app.delivered ++ [delivery]) (j : ℕ) :
    app'.answersTo j = app.answersTo j := by
  obtain ⟨hlt, hk⟩ := List.getElem?_eq_some_iff.mp hwaiting
  have hperm := (List.getElem_cons_eraseIdx_perm hlt).countP_eq (fun p => decide (p.1 = j))
  rw [hk, List.countP_cons] at hperm
  dsimp only at hperm
  rw [answersTo, answersTo, hwaiting', hdelivered', List.countP_append, List.countP_singleton,
    hdelivery]
  omega

/-- What a move means for the request: it ends, it begins with none under way, or there
is no change. -/
theorem FetchMove.busy {fetch fetch' : FetchProgress} {settings settings' : RCNConfigSettings}
    {answers : List (ℕ × FetchAnswer)}
    (h : FetchMove i event fetch settings fetch' settings' answers) :
    (fetch = .inProgress ∧ fetch' ≠ .inProgress ∧ settings'.isFetchInProgress = false) ∨
      (fetch ≠ .inProgress ∧ fetch' = .inProgress ∧ settings.isFetchInProgress = false ∧
        settings'.isFetchInProgress = true) ∨
      ((fetch' = .inProgress ↔ fetch = .inProgress) ∧
        settings'.isFetchInProgress = settings.isFetchInProgress) := by
  cases h with
  | stay fetch settings hevent => exact .inr (.inr ⟨Iff.rfl, rfl⟩)
  | answer hfetch => exact .inr (.inr ⟨by simp, isFetchInProgress_of_answer hfetch⟩)
  | request hfetch =>
    obtain ⟨hidle, rfl⟩ := isFetchInProgress_of_request hfetch
    exact .inr (.inl ⟨by simp, rfl, hidle, rfl⟩)
  | fail settings => exact .inl ⟨rfl, by simp, rfl⟩
  | respond settings response => exact .inl ⟨rfl, by simp, rfl⟩
  | complete settings response now randomPlusMinusInterval =>
    exact .inr (.inr ⟨by simp, isFetchInProgress_fetcherCompletion ..⟩)

/-- A fetch is answered when it comes to its end, and only then. -/
theorem FetchMove.answers {fetch fetch' : FetchProgress} {settings settings' : RCNConfigSettings}
    {answers : List (ℕ × FetchAnswer)}
    (h : FetchMove i event fetch settings fetch' settings' answers) :
    (answers = [] ∧ (fetch' = .answered ↔ fetch = .answered)) ∨
      (∃ answer, answers = [(i, answer)]) ∧ fetch ≠ .answered ∧ fetch' = .answered := by
  cases h with
  | stay fetch settings hevent => exact .inl ⟨rfl, Iff.rfl⟩
  | answer hfetch => exact .inr ⟨⟨_, rfl⟩, by simp, rfl⟩
  | request hfetch => exact .inl ⟨rfl, by simp⟩
  | fail settings => exact .inr ⟨⟨_, rfl⟩, by simp, rfl⟩
  | respond settings response => exact .inl ⟨rfl, by simp⟩
  | complete settings response now randomPlusMinusInterval =>
    exact .inr ⟨⟨_, rfl⟩, by simp, rfl⟩

end Fetches

/-! ### One request, and one answer for each fetch -/

/-- At most one fetch is on the network, and the SDK has it down. -/
structure OneRequest (app : Screens) : Prop where
  unique : ∀ i j, app.fetchOf i = some .inProgress → app.fetchOf j = some .inProgress → i = j
  busy : app.settings.isFetchInProgress = true ↔ ∃ i, app.fetchOf i = some .inProgress

/-- A fetch that has come to its end has one answer, and any other has none. -/
def OneAnswer (app : Screens) : Prop :=
  ∀ i, app.answersTo i = if app.fetchOf i = some .answered then 1 else 0

section Invariants

variable {S : JSONServices} {width : ℚ} {app app' : Screens} {event : Event}

/-- No request is sent or ends. -/
theorem OneRequest.congr (h : app.OneRequest)
    (hfetch : ∀ i, app'.fetchOf i = some .inProgress ↔ app.fetchOf i = some .inProgress)
    (hsettings : app'.settings.isFetchInProgress = app.settings.isFetchInProgress) :
    app'.OneRequest where
  unique i j hi hj := h.unique i j ((hfetch i).mp hi) ((hfetch j).mp hj)
  busy := by
    rw [hsettings, h.busy]
    exact (exists_congr hfetch).symm

theorem OneRequest.step (h : app.OneRequest) (hstep : FetchStep app event app') :
    app'.OneRequest := by
  cases hstep with
  | opening screen _ hqueued happ =>
    refine h.congr (fun j => ?_) (by rw [happ])
    rw [fetchOf_append (by rw [happ]) j]
    split
    · rename_i hj
      rw [hj, fetchOf_length, hqueued]
      simp
    · exact Iff.rfl
  | moving i screen screen' settings answers hscreen hmove happ =>
    have hfetch : app.fetchOf i = some screen.fetch := fetchOf_eq_some.mpr ⟨screen, hscreen, rfl⟩
    have hset : ∀ j, app'.fetchOf j = if j = i then some screen'.fetch else app.fetchOf j :=
      fetchOf_set hscreen (by rw [happ])
    have hsettings : app'.settings = settings := by rw [happ]
    rcases hmove.busy with ⟨hbefore, hafter, hidle⟩ | ⟨hbefore, hafter, hidle, hbusy⟩ |
      ⟨hsame, hflag⟩
    · -- The request of this screen was the only one, and it has ended.
      have hnone : ∀ j, app'.fetchOf j ≠ some .inProgress := by
        intro j hj
        rw [hset j] at hj
        split at hj
        · exact hafter (Option.some.inj hj)
        · rename_i hne
          exact hne (h.unique j i hj (hfetch.trans (congrArg some hbefore)))
      refine ⟨fun j _ hj => absurd hj (hnone j), ?_⟩
      rw [hsettings, hidle]
      exact iff_of_false (by simp) fun ⟨j, hj⟩ => hnone j hj
    · -- There was no request, and now there is the one of this screen.
      have hnone : ∀ j, app.fetchOf j ≠ some .inProgress := by
        intro j hj
        exact absurd (h.busy.mpr ⟨j, hj⟩) (by simp [hidle])
      have honly : ∀ j, app'.fetchOf j = some .inProgress ↔ j = i := by
        intro j
        rw [hset j]
        split
        · rename_i hj
          exact iff_of_true (congrArg some hafter) hj
        · rename_i hj
          exact iff_of_false (hnone j) hj
      refine ⟨fun j k hj hk => ((honly j).mp hj).trans ((honly k).mp hk).symm, ?_⟩
      rw [hsettings, hbusy]
      exact iff_of_true rfl ⟨i, (honly i).mpr rfl⟩
    · refine h.congr (fun j => ?_) (by rw [hsettings, hflag])
      rw [hset j]
      split
      · rename_i hj
        rw [hj, hfetch, Option.some_inj, Option.some_inj, hsame]
      · exact Iff.rfl
  | delivering getConfigValue k i answer screen screen' delivery _ _ hscreen hfetch _ _ happ =>
    refine h.congr (fun j => ?_) (by rw [happ])
    rw [fetchOf_set hscreen (by rw [happ]) j]
    split
    · rename_i hj
      rw [hj, hfetch, fetchOf_eq_some.mpr ⟨screen, hscreen, rfl⟩]
    · exact Iff.rfl

/-- No fetch comes to its end, and no answer is given or lost. -/
theorem OneAnswer.congr (h : app.OneAnswer)
    (hfetch : ∀ i, app'.fetchOf i = some .answered ↔ app.fetchOf i = some .answered)
    (hanswers : ∀ i, app'.answersTo i = app.answersTo i) : app'.OneAnswer := by
  intro i
  rw [hanswers, h i]
  exact if_congr (hfetch i).symm rfl rfl

theorem OneAnswer.step (h : app.OneAnswer) (hstep : FetchStep app event app') :
    app'.OneAnswer := by
  cases hstep with
  | opening screen _ hqueued happ =>
    refine h.congr (fun j => ?_) fun j => by rw [happ, answersTo, answersTo]
    have happend : app'.fetchOf j =
        if j = app.screens.length then some screen.fetch else app.fetchOf j :=
      fetchOf_append (by rw [happ]) j
    rw [happend]
    split
    · rename_i hj
      rw [hj, fetchOf_length, hqueued]
      simp
    · exact Iff.rfl
  | moving i screen screen' settings answers hscreen hmove happ =>
    have hfetch : app.fetchOf i = some screen.fetch := fetchOf_eq_some.mpr ⟨screen, hscreen, rfl⟩
    have hset : ∀ j, app'.fetchOf j = if j = i then some screen'.fetch else app.fetchOf j :=
      fetchOf_set hscreen (by rw [happ])
    have hmore : ∀ j, app'.answersTo j = app.answersTo j + answers.countP (·.1 = j) := by
      intro j
      rw [answersTo, answersTo, happ, List.countP_append]
      exact Nat.add_right_comm ..
    -- The fetch goes on, or is answered once and for all.
    rcases hmove.answers with ⟨rfl, hsame⟩ | ⟨⟨answer, rfl⟩, hbefore, hafter⟩
    · refine h.congr (fun j => ?_) hmore
      rw [hset j]
      split
      · rename_i hj
        rw [hj, hfetch, Option.some_inj, Option.some_inj, hsame]
      · exact Iff.rfl
    · intro j
      rw [hmore, h j, List.countP_singleton, hset]
      by_cases hji : j = i
      · subst hji
        simp [hfetch, hbefore, hafter]
      · simp [hji, Ne.symm hji]
  | delivering getConfigValue k i answer screen screen' delivery _ hwaiting hscreen hfetch hdelivery
      _ happ =>
    refine h.congr (fun j => ?_)
      (answersTo_deliver hwaiting hdelivery (by rw [happ]) (by rw [happ]))
    have hset : app'.fetchOf j = if j = i then some screen'.fetch else app.fetchOf j :=
      fetchOf_set hscreen (by rw [happ]) j
    rw [hset]
    split
    · rename_i hj
      rw [hj, hfetch, fetchOf_eq_some.mpr ⟨screen, hscreen, rfl⟩]
    · exact Iff.rfl

variable {settings : RCNConfigSettings} {events : List Event}

theorem fetchOf_launched (settings : RCNConfigSettings) (i : ℕ) :
    (launched settings).fetchOf i = none := rfl

theorem oneAnswer_run (hrun : (system S width).Run (launched settings) events app) :
    app.OneAnswer :=
  hrun.invariant (I := OneAnswer) (fun _ _ _ h hstep => h.step (fetchStep_of_next hstep.2))
    fun i => by rw [fetchOf_launched]; rfl

/-- **There is one request at a time.**  However screens are opened and closed and the
network answers, no two fetches are on the network at once; and one is exactly when the
SDK has a fetch down as in progress. -/
theorem request_unique (hrun : (system S width).Run (launched settings) events app) :
    (∀ i j, app.fetchOf i = some .inProgress → app.fetchOf j = some .inProgress → i = j) ∧
      (app.settings.isFetchInProgress = true ↔ ∃ i, app.fetchOf i = some .inProgress) := by
  have hstart : (launched settings).OneRequest := by
    refine ⟨fun i _ hi => absurd hi (by simp [fetchOf_launched]), ?_⟩
    exact iff_of_false (by simp [launched]) fun ⟨i, hi⟩ =>
      absurd hi (by simp [fetchOf_launched])
  have h := hrun.invariant (I := OneRequest)
    (fun _ _ _ h hstep => h.step (fetchStep_of_next hstep.2)) hstart
  exact ⟨h.unique, h.busy⟩

/-- The library has sent its request, and a Recommended screen has been told that the last
fetch failed. -/
def twoFetches : Screens where
  settings := { isFetchInProgress := true }
  screens := [⟨.library {}, true, .inProgress⟩,
    ⟨.recommended (.opened none default), true, .answered⟩]
  waiting := [(1, ⟨.failure, none⟩)]

theorem run_twoFetches : (system (carouselServices [cosmosEntry]) 320).Run (launched {})
    [.openLibrary, .openRecommended none default, .runFetch 0 100 false, .runFetch 1 101 false]
    twoFetches :=
  .cons ⟨rfl, rfl⟩ (.cons ⟨rfl, rfl⟩ (.cons ⟨rfl, rfl⟩ (.cons ⟨rfl, rfl⟩ (.nil _))))

theorem request_unique_first :
    (∀ i j, twoFetches.fetchOf i = some .inProgress → twoFetches.fetchOf j = some .inProgress →
        i = j) ∧
      (twoFetches.settings.isFetchInProgress = true ↔
        ∃ i, twoFetches.fetchOf i = some .inProgress) :=
  request_unique run_twoFetches

/-- **A fetch is answered once.**  In every state that can be reached, a fetch that has
come to its end has exactly one answer, on its way or delivered, and any other fetch
has none: no answer is lost, given twice, or given to another screen. -/
theorem answered_once (hrun : (system S width).Run (launched settings) events app) {i : ℕ}
    {screen : Screen} (hscreen : app.screens[i]? = some screen) :
    app.answersTo i = if screen.fetch = .answered then 1 else 0 := by
  rw [oneAnswer_run hrun i, fetchOf_eq_some.mpr ⟨screen, hscreen, rfl⟩]
  exact if_congr Option.some_inj rfl rfl

theorem answered_once_first : twoFetches.answersTo 1 = 1 :=
  answered_once run_twoFetches (i := 1) rfl

/-! ### The end of the fetches -/

/-- The steps that a fetch still needs, its delivery included. -/
def FetchProgress.work : FetchProgress → ℕ
  | .queued => 4
  | .inProgress => 3
  | .responded _ => 2
  | .answered => 0

/-- The steps that the fetches still need. -/
def work (app : Screens) : ℕ :=
  (app.screens.map fun screen => FetchProgress.work screen.fetch).sum + app.waiting.length

/-- Setting one entry changes the sum by it. -/
theorem sum_map_set {α : Type} (f : α → ℕ) {l : List α} {i : ℕ} {x y : α} (h : l[i]? = some x) :
    ((l.set i y).map f).sum + f x = (l.map f).sum + f y := by
  induction l generalizing i with
  | nil => exact absurd h (by simp)
  | cons z l ih =>
    cases i with
    | zero =>
      obtain rfl := Option.some.inj h
      simp only [List.set_cons_zero, List.map_cons, List.sum_cons]
      omega
    | succ i =>
      have hrest := ih (i := i) (by simpa using h)
      simp only [List.set_cons_succ, List.map_cons, List.sum_cons]
      omega

theorem FetchMove.work_lt {i : ℕ} {fetch fetch' : FetchProgress}
    {before after : RCNConfigSettings} {answers : List (ℕ × FetchAnswer)}
    (h : FetchMove i event fetch before fetch' after answers) (hevent : event.IsFetch) :
    FetchProgress.work fetch' + answers.length < FetchProgress.work fetch := by
  cases h with
  | stay _ _ hother => exact absurd hevent hother
  | answer _ => simp [FetchProgress.work]
  | request _ => simp [FetchProgress.work]
  | fail _ => simp [FetchProgress.work]
  | respond _ _ => simp [FetchProgress.work]
  | complete _ _ _ _ => simp [FetchProgress.work]

/-- Every event of the SDK and of the main queue brings the end nearer. -/
theorem FetchStep.work_lt (h : FetchStep app event app') (hevent : event.IsFetch) :
    app'.work < app.work := by
  cases h with
  | opening _ hother _ _ => exact absurd hevent hother
  | moving i screen screen' settings answers hscreen hmove happ =>
    have hlt := hmove.work_lt hevent
    have hsum := sum_map_set (fun screen => FetchProgress.work screen.fetch) (y := screen') hscreen
    subst happ
    simp only [work, List.length_append]
    omega
  | delivering _ k i answer screen screen' _ _ hwaiting hscreen hfetch _ _ happ =>
    have hsum := sum_map_set (fun screen => FetchProgress.work screen.fetch) (y := screen') hscreen
    obtain ⟨hlt, -⟩ := List.getElem?_eq_some_iff.mp hwaiting
    rw [hfetch] at hsum
    subst happ
    simp only [work, List.length_eraseIdx_of_lt hlt]
    omega

/-- Only the SDK and the main queue go on. -/
def Fetching (S : JSONServices) (width : ℚ) : EventSystem Screens Event :=
  (system S width).restrict fun _ event => event.IsFetch

theorem length_le_work (hrun : (Fetching S width).Run app events app') :
    events.length + app'.work ≤ app.work := by
  induction hrun with
  | nil => simp
  | cons hstep _ ih =>
    obtain ⟨hstep, hevent⟩ := EventSystem.step_restrict_iff.mp hstep
    have hlt := (fetchStep_of_next hstep.2).work_lt hevent
    rw [List.length_cons]
    omega

/-- An event that the app handles can happen. -/
theorem exists_fetching_step (hevent : event.IsFetch) (hsome : (step S width app event).isSome) :
    ∃ app', (Fetching S width).Step app event app' := by
  obtain ⟨app', hnext⟩ := Option.isSome_iff_exists.mp hsome
  refine ⟨app', EventSystem.step_restrict_iff.mpr ⟨⟨?_, hnext⟩, hevent⟩⟩
  cases event <;> first | exact hsome | exact absurd hevent id

/-- A fetch that has not come to its end can go on. -/
theorem exists_step_of_fetch {i : ℕ} {screen : Screen} (hscreen : app.screens[i]? = some screen)
    (hfetch : screen.fetch ≠ .answered) : ∃ event app', (Fetching S width).Step app event app' := by
  obtain ⟨controller, isOpen, fetch⟩ := screen
  cases fetch with
  | queued =>
    refine ⟨.runFetch i 0 false, exists_fetching_step trivial ?_⟩
    show (app.runFetch i 0 false).isSome
    rw [runFetch, hscreen]
    dsimp only
    split <;> rfl
  | inProgress =>
    refine ⟨.failRequest i, exists_fetching_step trivial ?_⟩
    show (app.failRequest i).isSome
    rw [failRequest, hscreen]
    rfl
  | responded response =>
    refine ⟨.complete i 0 false, exists_fetching_step trivial ?_⟩
    show (app.complete i 0 false).isSome
    rw [complete, hscreen]
    rfl
  | answered => exact absurd rfl hfetch

/-- The first answer that waits can be delivered. -/
theorem exists_step_of_waiting (h : app.OneAnswer) (hwaiting : app.waiting ≠ []) :
    ∃ event app', (Fetching S width).Step app event app' := by
  obtain ⟨⟨i, answer⟩, rest, hfirst⟩ := List.exists_cons_of_ne_nil hwaiting
  have hpos : app.answersTo i ≠ 0 := by
    rw [answersTo, hfirst, List.countP_cons]
    simp
  have hanswered : app.fetchOf i = some .answered := by
    by_contra hne
    exact hpos ((h i).trans (if_neg hne))
  obtain ⟨screen, hscreen, -⟩ := fetchOf_eq_some.mp hanswered
  refine ⟨.deliver (fun _ => "") 0, exists_fetching_step trivial ?_⟩
  show (app.deliver S (fun _ => "") 0).isSome
  rw [deliver, hfirst]
  show (app.screens[i]?.map _).isSome
  rw [hscreen]
  rfl

/-- **The fetches come to an end.**  From every state that can be reached, the SDK and
the main queue take only so many steps, whatever the network answers; and when they can
go no further, every screen has been delivered one answer. -/
theorem fetches_finish (hrun : (system S width).Run (launched settings) events app)
    {later : List Event} (hlater : (Fetching S width).Run app later app') :
    later.length ≤ app.work ∧
      ((¬ ∃ event app'', (Fetching S width).Step app' event app'') →
        app'.waiting = [] ∧
          ∀ i < app'.screens.length, app'.delivered.countP (·.screen = i) = 1) := by
  have hwork := length_le_work hlater
  refine ⟨by omega, fun hend => ?_⟩
  have hone : app'.OneAnswer :=
    hlater.of_restrict.invariant (I := OneAnswer)
      (fun _ _ _ h hstep => h.step (fetchStep_of_next hstep.2)) (oneAnswer_run hrun)
  have hwaiting : app'.waiting = [] := by
    by_contra hne
    exact hend (exists_step_of_waiting hone hne)
  refine ⟨hwaiting, fun i hi => ?_⟩
  have hscreen : app'.screens[i]? = some app'.screens[i] := List.getElem?_eq_getElem hi
  have hanswered : app'.screens[i].fetch = .answered := by
    by_contra hne
    exact hend (exists_step_of_fetch hscreen hne)
  have hanswers := hone i
  rw [answersTo, hwaiting, List.countP_nil, Nat.zero_add] at hanswers
  exact hanswers.trans (if_pos (fetchOf_eq_some.mpr ⟨_, hscreen, hanswered⟩))

/-- The request of the library fails, and both answers are delivered. -/
theorem fetches_finish_first :
    ∃ app, (Fetching (carouselServices [cosmosEntry]) 320).Run twoFetches
        [.failRequest 0, .deliver (fun _ => "") 0, .deliver (fun _ => "") 0] app ∧
      3 ≤ twoFetches.work ∧
      ((¬ ∃ event app', (Fetching (carouselServices [cosmosEntry]) 320).Step app event app') →
        app.waiting = [] ∧
          ∀ i < app.screens.length, app.delivered.countP (·.screen = i) = 1) := by
  suffices h : ∃ app, (Fetching (carouselServices [cosmosEntry]) 320).Run twoFetches
      [.failRequest 0, .deliver (fun _ => "") 0, .deliver (fun _ => "") 0] app by
    obtain ⟨app, hrun⟩ := h
    exact ⟨app, hrun, fetches_finish run_twoFetches hrun⟩
  exact ⟨_, .cons ⟨⟨rfl, trivial⟩, rfl⟩ (.cons ⟨⟨rfl, trivial⟩, rfl⟩
    (.cons ⟨⟨rfl, trivial⟩, rfl⟩ (.nil _)))⟩

end Invariants

/-! ### The backoff -/

/-- The answer is no refusal. -/
def Allowed (answer : FetchAnswer) : Prop :=
  answer.status ≠ .throttled ∧ answer.error ≠ some .throttled

/-- Nothing has been refused, and nothing will be: the interval is 0, and the backoff
was over when it began. -/
structure Unthrottled (settings : RCNConfigSettings) (clock : ℚ) : Prop where
  lastFetchStatus : settings.lastFetchStatus ≠ .throttled
  retryInterval : settings.exponentialBackoffRetryInterval = 0
  throttleEndTime : settings.exponentialBackoffThrottleEndTime ≤ clock

section Backoff

variable {settings settings' : RCNConfigSettings} {clock now : ℚ}

theorem Unthrottled.mono (h : Unthrottled settings clock) (hnow : clock ≤ now) :
    Unthrottled settings now :=
  ⟨h.lastFetchStatus, h.retryInterval, h.throttleEndTime.trans hnow⟩

theorem Unthrottled.shouldThrottle (h : Unthrottled settings clock) :
    settings.shouldThrottle clock = false :=
  RCNConfigSettings.shouldThrottle_of_le h.throttleEndTime

/-- The interval is doubled, and stays 0: when the backoff is updated, the last fetch is
already remembered as a failure. -/
theorem Unthrottled.updateExponentialBackoffTime (h : Unthrottled settings clock)
    (hstatus : settings.lastFetchStatus ≠ .success) (randomPlusMinusInterval : Bool) :
    Unthrottled (settings.updateExponentialBackoffTime clock randomPlusMinusInterval) clock := by
  have hinterval : (settings.updateExponentialBackoffTime clock
      randomPlusMinusInterval).exponentialBackoffRetryInterval = 0 := by
    simp [RCNConfigSettings.updateExponentialBackoffTime, hstatus, h.retryInterval]
  refine ⟨h.lastFetchStatus, hinterval, ?_⟩
  have hend : (settings.updateExponentialBackoffTime clock
      randomPlusMinusInterval).exponentialBackoffThrottleEndTime =
      clock + (0 + 1 / 2 * 0 * if randomPlusMinusInterval then 1 else -1) := by
    rw [← hinterval]
    rfl
  rw [hend]
  simp

theorem unthrottled_fetchConfig {hasDeviceContextChanged : Bool} {expirationDuration : ℚ}
    {result : Option FetchAnswer} (h : Unthrottled settings clock)
    (hfetch : fetchConfig expirationDuration clock hasDeviceContextChanged settings =
      (settings', result)) :
    Unthrottled settings' clock ∧ ∀ answer ∈ result, Allowed answer := by
  rw [fetchConfig, h.shouldThrottle] at hfetch
  split at hfetch
  · obtain ⟨rfl, rfl⟩ := Prod.mk.inj hfetch
    exact ⟨h, by simp [Allowed]⟩
  · split at hfetch
    · split at hfetch
      · obtain ⟨rfl, rfl⟩ := Prod.mk.inj hfetch
        exact ⟨h, by simp [Allowed, h.lastFetchStatus]⟩
      · obtain ⟨rfl, rfl⟩ := Prod.mk.inj hfetch
        exact ⟨h, by simp [Allowed]⟩
    · obtain ⟨rfl, rfl⟩ := Prod.mk.inj hfetch
      exact ⟨⟨h.lastFetchStatus, h.retryInterval, h.throttleEndTime⟩, by simp⟩

theorem unthrottled_answerFailure (h : Unthrottled settings clock) :
    Unthrottled (answerFailure settings).1 clock ∧ Allowed (answerFailure settings).2 :=
  ⟨⟨by simp [answerFailure], h.retryInterval, h.throttleEndTime⟩, by simp [answerFailure, Allowed]⟩

theorem unthrottled_fetcherCompletion (h : Unthrottled settings clock)
    (randomPlusMinusInterval : Bool) (response : NetworkResponse) :
    Unthrottled (fetcherCompletion clock randomPlusMinusInterval response settings).1 clock ∧
      Allowed (fetcherCompletion clock randomPlusMinusInterval response settings).2 := by
  have hfailed : Unthrottled (settings.updateMetadataWithFetchSuccessStatus clock false) clock :=
    ⟨by simp [RCNConfigSettings.updateMetadataWithFetchSuccessStatus], h.retryInterval,
      h.throttleEndTime⟩
  have hstatus : (settings.updateMetadataWithFetchSuccessStatus clock false).lastFetchStatus ≠
      .success := by
    simp [RCNConfigSettings.updateMetadataWithFetchSuccessStatus]
  rw [fetcherCompletion]
  split
  · dsimp only
    split
    · have hupdated := hfailed.updateExponentialBackoffTime hstatus randomPlusMinusInterval
      rw [if_neg (by simp [hupdated.shouldThrottle])]
      exact unthrottled_answerFailure hupdated
    · exact unthrottled_answerFailure hfailed
  · cases response.data with
    | none => exact ⟨h, by simp [Allowed]⟩
    | serverError => exact ⟨h, by simp [Allowed]⟩
    | config =>
      refine ⟨⟨?_, h.retryInterval, h.throttleEndTime⟩, by simp [Allowed]⟩
      simp [RCNConfigSettings.updateMetadataWithFetchSuccessStatus]

end Backoff

/-- The time at which a job of the SDK runs. -/
def Event.time : Event → Option ℚ
  | .runFetch _ now _ => some now
  | .complete _ now _ => some now
  | _ => none

/-- The runs whose clock does not go back. -/
def Timed (S : JSONServices) (width : ℚ) : EventSystem (Screens × ℚ) Event :=
  (system S width).clocked (· ≤ ·) Event.time

/-- Nothing has been refused. -/
structure NeverThrottled (app : Screens) (clock : ℚ) : Prop where
  settings : Unthrottled app.settings clock
  waiting : ∀ p ∈ app.waiting, Allowed p.2
  delivered : ∀ delivery ∈ app.delivered, Allowed delivery.answer

section Clock

variable {S : JSONServices} {width : ℚ} {app app' : Screens} {event : Event} {clock clock' : ℚ}

theorem FetchMove.unthrottled {i : ℕ} {fetch fetch' : FetchProgress}
    {before after : RCNConfigSettings} {answers : List (ℕ × FetchAnswer)}
    (h : FetchMove i event fetch before fetch' after answers)
    (hbefore : Unthrottled before ((Event.time event).getD clock)) :
    Unthrottled after ((Event.time event).getD clock) ∧ ∀ p ∈ answers, Allowed p.2 := by
  cases h with
  | stay _ _ _ => exact ⟨hbefore, by simp⟩
  | answer hfetch =>
    obtain ⟨hafter, hallowed⟩ := unthrottled_fetchConfig hbefore hfetch
    exact ⟨hafter, by simpa using hallowed⟩
  | request hfetch => exact ⟨(unthrottled_fetchConfig hbefore hfetch).1, by simp⟩
  | fail _ =>
    exact ⟨⟨hbefore.lastFetchStatus, hbefore.retryInterval, hbefore.throttleEndTime⟩,
      by simp [requestFailed, Allowed]⟩
  | respond _ _ =>
    exact ⟨⟨hbefore.lastFetchStatus, hbefore.retryInterval, hbefore.throttleEndTime⟩, by simp⟩
  | complete _ response now randomPlusMinusInterval =>
    obtain ⟨hafter, hallowed⟩ := unthrottled_fetcherCompletion hbefore randomPlusMinusInterval
      response
    refine ⟨hafter, fun p hp => ?_⟩
    rw [List.mem_singleton.mp hp]
    exact hallowed

theorem NeverThrottled.step (h : NeverThrottled app clock)
    (hstep : (Timed S width).Step (app, clock) event (app', clock')) :
    NeverThrottled app' clock' := by
  obtain ⟨⟨-, hnext⟩, htime, rfl⟩ := EventSystem.step_clocked_iff.mp hstep
  have hlater : clock ≤ (Event.time event).getD clock := by
    cases hevent : Event.time event with
    | none => exact le_rfl
    | some now => exact htime now hevent
  have hsettings := h.settings.mono hlater
  cases fetchStep_of_next hnext with
  | opening screen _ _ happ =>
    subst happ
    exact ⟨hsettings, h.waiting, h.delivered⟩
  | moving i screen screen' settings answers _ hmove happ =>
    subst happ
    obtain ⟨hafter, hallowed⟩ := hmove.unthrottled hsettings
    refine ⟨hafter, fun p hp => ?_, h.delivered⟩
    rcases List.mem_append.mp hp with hold | hnew
    · exact h.waiting p hold
    · exact hallowed p hnew
  | delivering _ k i answer screen screen' delivery _ hwaiting _ _ _ hanswer happ =>
    subst happ
    refine ⟨hsettings, fun p hp => h.waiting p (List.mem_of_mem_eraseIdx hp), fun d hd => ?_⟩
    rcases List.mem_append.mp hd with hold | hnew
    · exact h.delivered d hold
    · rw [List.mem_singleton.mp hnew, hanswer]
      exact h.waiting (i, answer) (List.mem_of_getElem? hwaiting)

/-- **The backoff never takes effect.**  Unless the clock goes back, no fetch is refused
in a whole run, however often the server answers that it is overloaded; and at no later
time would the next one be. -/
theorem never_throttled {settings : RCNConfigSettings} {events : List Event}
    (hsettings : Unthrottled settings clock)
    (hrun : (Timed S width).Run (launched settings, clock) events (app, clock')) :
    (∀ p ∈ app.waiting, Allowed p.2) ∧ (∀ delivery ∈ app.delivered, Allowed delivery.answer) ∧
      ∀ now, clock' ≤ now → app.settings.shouldThrottle now = false := by
  have hstart : NeverThrottled (launched settings) clock :=
    ⟨⟨hsettings.lastFetchStatus, hsettings.retryInterval, hsettings.throttleEndTime⟩,
      by simp [launched], by simp [launched]⟩
  have h := hrun.invariant (I := fun state => NeverThrottled state.1 state.2)
    (fun _ _ _ h hstep => h.step hstep) hstart
  exact ⟨h.waiting, h.delivered, fun now hnow => (h.settings.mono hnow).shouldThrottle⟩

/-- The server is overloaded when the library fetches. -/
theorem never_throttled_first :
    ∃ app clock, (Timed (carouselServices [cosmosEntry]) 320).Run (launched {}, 0)
        [.openLibrary, .runFetch 0 100 false, .respond 0 ⟨false, 503, .none⟩,
          .complete 0 101 true] (app, clock) ∧
      (∀ p ∈ app.waiting, Allowed p.2) ∧ (∀ delivery ∈ app.delivered, Allowed delivery.answer) ∧
      ∀ now, clock ≤ now → app.settings.shouldThrottle now = false := by
  suffices h : ∃ app clock, (Timed (carouselServices [cosmosEntry]) 320).Run (launched {}, 0)
      [.openLibrary, .runFetch 0 100 false, .respond 0 ⟨false, 503, .none⟩,
        .complete 0 101 true] (app, clock) by
    obtain ⟨app, clock, hrun⟩ := h
    exact ⟨app, clock, hrun, never_throttled ⟨by decide, rfl, le_rfl⟩ hrun⟩
  refine ⟨_, _, .cons ⟨⟨rfl, by simp [Event.time]⟩, rfl⟩
    (.cons ⟨⟨rfl, by simp [Event.time]⟩, rfl⟩
      (.cons ⟨⟨rfl, by simp [Event.time]⟩, rfl⟩
        (.cons ⟨⟨rfl, fun now hnow => ?_⟩, rfl⟩ (.nil _))))⟩
  obtain rfl := Option.some.inj hnow
  show (100 : ℚ) ≤ 101
  norm_num

end Clock

end Screens

end HolyWater
