/-
The screens and their fetches.

Library and Recommended screens are opened and closed in any order, and each
fetches when it is opened; the SDK answers the fetches, and each answer passes
through the manager, a view model and a view controller.

* `Delivery` — what became of an answer on its way through the layers;
* `Delivery.Honest` — an answer that is no success arrives as an error and
  changes nothing;
* `delivery_honest_iff` — which is to say that it carried an error;
* `invariant_run`, `dishonest_run` — along runs in which no fetch is answered out
  of order, and along all others;
* `failures_reported` — both directions, over whole runs.
-/
import HolyWater.FetchAnswers
import HolyWater.LibraryScreen
import HolyWater.Opening

namespace HolyWater

/-! ### A screen -/

/-- A view controller with its view model. -/
inductive Controller where
  | library (vc : LibraryViewController)
  | recommended (vc : RecommendedViewController)

namespace Controller

/-- What the completion of `fetchData` is passed, when the manager passes `error`
to the view model; `isOpen` is whether the view model is still there. -/
def received (S : JSONServices) (getConfigValue : String → String) (isOpen : Bool)
    (error : Option RemoteConfigError) : Controller → Option RemoteConfigError
  | library vc => (LibraryViewModel.fetchRemoteConfig S getConfigValue
      (if isOpen then some vc.viewModel else none) error).2
  | recommended vc => (RecommendedViewModel.fetchRemoteConfig S getConfigValue
      (if isOpen then some vc.viewModel else none) error).2

def fetchData (S : JSONServices) (getConfigValue : String → String)
    (error : Option RemoteConfigError) : Controller → Controller
  | library vc => library (vc.fetchData S getConfigValue error)
  | recommended vc => recommended (vc.fetchData S getConfigValue error)

/-- The answer to the fetch is no longer outstanding; nothing else changes. -/
def answered : Controller → Controller
  | library vc => library vc
  | recommended vc => recommended { vc with fetching := false }

/-- The lists of the view model and of the view controller are those of a screen
that has just been opened, and no page has been asked for. -/
def Untouched : Controller → Prop
  | library vc => vc.viewModel = {} ∧ vc.booksModel = [] ∧ vc.bannerSlides = [] ∧
      vc.numberOfPages = 5
  | recommended vc => vc.viewModel = {} ∧ vc.carouselModel = [] ∧ vc.recommendedModel = [] ∧
      vc.requestedPage = none ∧ vc.isViewShowedFirstly = false

/-- Whatever the layers do, the view controller is passed what the manager
passes on. -/
@[simp] theorem received_eq (S : JSONServices) (getConfigValue : String → String) (isOpen : Bool)
    (error : Option RemoteConfigError) (controller : Controller) :
    controller.received S getConfigValue isOpen error = error := by
  cases controller <;> cases error <;> rfl

@[simp] theorem fetchData_some (S : JSONServices) (getConfigValue : String → String)
    (error : RemoteConfigError) (controller : Controller) :
    controller.fetchData S getConfigValue (some error) = controller.answered := by
  cases controller <;> rfl

theorem Untouched.answered {controller : Controller} (h : controller.Untouched) :
    controller.answered.Untouched := by
  cases controller <;> exact h

end Controller

/-- How far the fetch of a screen has come: it waits for its job, it is preparing
or sending its request, it has got a response, or it has been answered. -/
inductive FetchProgress where
  | queued
  | inProgress
  | responded (response : NetworkResponse)
  | answered
  deriving DecidableEq, Repr

structure Screen where
  controller : Controller
  /-- View controller and view model are still there. -/
  isOpen : Bool := true
  fetch : FetchProgress := .queued

/-! ### The app -/

/-- What became of an answer: what was passed to the closure of the view model,
what to that of the view controller, and how the screen was left. -/
structure Delivery where
  screen : ℕ
  answer : FetchAnswer
  toViewModel : Option RemoteConfigError
  toViewController : Option RemoteConfigError
  before : Controller
  after : Controller

structure Screens where
  settings : RCNConfigSettings
  /-- The screens opened so far; each makes one fetch. -/
  screens : List Screen := []
  /-- The answers that wait on the main queue, with the screens that fetched. -/
  waiting : List (ℕ × FetchAnswer) := []
  delivered : List Delivery := []

namespace Screens

open RCNConfigFetch

def openScreen (controller : Controller) (app : Screens) : Screens :=
  { app with screens := app.screens ++ [{ controller := controller }] }

/-- View controller and view model of the screen are deallocated. -/
def close (i : ℕ) (app : Screens) : Option Screens :=
  app.screens[i]?.map fun screen =>
    { app with screens := app.screens.set i { screen with isOpen := false } }

/-- The fetch of a screen is answered: its completion goes to the main queue. -/
def answer (i : ℕ) (screen : Screen) (result : RCNConfigSettings × FetchAnswer) (app : Screens) :
    Screens :=
  { app with
    settings := result.1
    screens := app.screens.set i { screen with fetch := .answered }
    waiting := app.waiting ++ [(i, result.2)] }

/-- The job of the fetch runs. -/
def runFetch (i : ℕ) (now : ℚ) (hasDeviceContextChanged : Bool) (app : Screens) :
    Option Screens :=
  match app.screens[i]? with
  | some ⟨controller, isOpen, .queued⟩ =>
    match fetchConfig RCNConfigSettings.RCNDefaultMinimumFetchInterval now
        hasDeviceContextChanged app.settings with
    | (settings, some result) =>
      some (app.answer i ⟨controller, isOpen, .queued⟩ (settings, result))
    | (settings, none) => some { app with
        settings := settings
        screens := app.screens.set i ⟨controller, isOpen, .inProgress⟩ }
  | _ => none

/-- The fetch fails on its way to the network. -/
def failRequest (i : ℕ) (app : Screens) : Option Screens :=
  match app.screens[i]? with
  | some ⟨controller, isOpen, .inProgress⟩ =>
    some (app.answer i ⟨controller, isOpen, .inProgress⟩ (requestFailed app.settings))
  | _ => none

/-- The network task returns; the job that handles the response is queued. -/
def respond (i : ℕ) (response : NetworkResponse) (app : Screens) : Option Screens :=
  match app.screens[i]? with
  | some ⟨controller, isOpen, .inProgress⟩ => some { app with
      settings := { app.settings with isFetchInProgress := false }
      screens := app.screens.set i ⟨controller, isOpen, .responded response⟩ }
  | _ => none

/-- The job that handles the response runs. -/
def complete (i : ℕ) (now : ℚ) (randomPlusMinusInterval : Bool) (app : Screens) :
    Option Screens :=
  match app.screens[i]? with
  | some ⟨controller, isOpen, .responded response⟩ =>
    some (app.answer i ⟨controller, isOpen, .responded response⟩
      (fetcherCompletion now randomPlusMinusInterval response app.settings))
  | _ => none

/-- The way of an answer through the manager to the screen. -/
def delivery (S : JSONServices) (getConfigValue : String → String) (i : ℕ) (answer : FetchAnswer)
    (screen : Screen) : Delivery :=
  -- The manager passes on `nil` for a success, and whatever error there is otherwise.
  let (_, error) := FirebaseRemoteConfigManager.fetchRemoteConfig answer.status answer.error
  { screen := i
    answer := answer
    toViewModel := error
    toViewController := screen.controller.received S getConfigValue screen.isOpen error
    before := screen.controller
    after := if screen.isOpen then screen.controller.fetchData S getConfigValue error
      else screen.controller.answered }

/-- The main queue runs the completion at index `k`. -/
def deliver (S : JSONServices) (getConfigValue : String → String) (k : ℕ) (app : Screens) :
    Option Screens :=
  match app.waiting[k]? with
  | some (i, answer) =>
    app.screens[i]?.map fun screen =>
      let delivery := delivery S getConfigValue i answer screen
      { app with
        screens := app.screens.set i { screen with controller := delivery.after }
        waiting := app.waiting.eraseIdx k
        delivered := app.delivered ++ [delivery] }
  | none => none

inductive Event where
  | openLibrary
  | openRecommended (currentCellIndex : Option Int) (labels : BookLabels)
  | close (i : ℕ)
  | runFetch (i : ℕ) (now : ℚ) (hasDeviceContextChanged : Bool)
  | failRequest (i : ℕ)
  | respond (i : ℕ) (response : NetworkResponse)
  | complete (i : ℕ) (now : ℚ) (randomPlusMinusInterval : Bool)
  | deliver (getConfigValue : String → String) (k : ℕ)
  | library (i : ℕ) (event : LibraryViewController.Event)
  | recommended (i : ℕ) (event : RecommendedViewController.Event)

/-- What an event does to the app; the events of a screen are handled as that
screen handles them. -/
def step (S : JSONServices) (width : ℚ) (app : Screens) : Event → Option Screens
  | .openLibrary => some (app.openScreen (.library {}))
  | .openRecommended currentCellIndex labels =>
    some (app.openScreen (.recommended (.opened currentCellIndex labels)))
  | .close i => app.close i
  | .runFetch i now hasDeviceContextChanged => app.runFetch i now hasDeviceContextChanged
  | .failRequest i => app.failRequest i
  | .respond i response => app.respond i response
  | .complete i now randomPlusMinusInterval => app.complete i now randomPlusMinusInterval
  | .deliver getConfigValue k => app.deliver S getConfigValue k
  | .library i event =>
    match app.screens[i]? with
    | some ⟨.library vc, isOpen, fetch⟩ =>
      ((LibraryViewController.system S).next vc event).map fun vc =>
        { app with screens := app.screens.set i ⟨.library vc, isOpen, fetch⟩ }
    | _ => none
  | .recommended i event =>
    match app.screens[i]? with
    | some ⟨.recommended vc, isOpen, fetch⟩ =>
      ((RecommendedViewController.system S width).next vc event).map fun vc =>
        { app with screens := app.screens.set i ⟨.recommended vc, isOpen, fetch⟩ }
    | _ => none

end Screens

/-- The event is the answer to a fetch, which the app delivers itself. -/
def LibraryViewController.Event.IsAnswer : LibraryViewController.Event → Prop
  | .fetched _ _ => True
  | _ => False

/-- The event is the answer to a fetch, which the app delivers itself. -/
def RecommendedViewController.Event.IsAnswer : RecommendedViewController.Event → Prop
  | .fetched _ _ => True
  | _ => False

namespace Screens

/-- The screens, the main queue and the SDK, in any interleaving. -/
def system (S : JSONServices) (width : ℚ) : EventSystem Screens Event where
  enabled app
    | .library i event => ∃ vc fetch, app.screens[i]? = some ⟨.library vc, true, fetch⟩ ∧
      ¬ event.IsAnswer ∧ (LibraryViewController.system S).enabled vc event
    | .recommended i event => ∃ vc fetch, app.screens[i]? = some ⟨.recommended vc, true, fetch⟩ ∧
      ¬ event.IsAnswer ∧ (RecommendedViewController.system S width).enabled vc event
    | event => (app.step S width event).isSome
  next := step S width

/-- A fetch whose job runs is in order. -/
def InOrder (app : Screens) : Event → Prop
  | .runFetch _ now hasDeviceContextChanged =>
    RCNConfigFetch.MayFetch RCNConfigSettings.RCNDefaultMinimumFetchInterval now
      hasDeviceContextChanged app.settings
  | _ => True

end Screens

/-! ### What screens do between answers -/

theorem LibraryViewController.untouched_step {S : JSONServices} {vc vc' : LibraryViewController}
    {event : LibraryViewController.Event} (hanswer : ¬ event.IsAnswer)
    (hnext : (LibraryViewController.system S).next vc event = some vc')
    (h : (Controller.library vc).Untouched) : (Controller.library vc').Untouched := by
  obtain ⟨hviewModel, hbooks, hbanners, hpages⟩ := h
  rcases lists_of_next hnext with ⟨getConfigValue, rfl⟩ | ⟨hviewModel', hbooks', hbanners', hpages'⟩
  · exact absurd trivial hanswer
  · exact ⟨hviewModel'.trans hviewModel, hbooks'.trans hbooks, hbanners'.trans hbanners,
      hpages'.trans hpages⟩

/-- Before an answer there is no page to come to, and scrolling shows none. -/
theorem RecommendedViewController.untouched_step {S : JSONServices} {width : ℚ}
    {vc vc' : RecommendedViewController} {event : RecommendedViewController.Event}
    (hanswer : ¬ event.IsAnswer)
    (hstep : (RecommendedViewController.system S width).Step vc event vc')
    (h : (Controller.recommended vc).Untouched) : (Controller.recommended vc').Untouched := by
  cases event with
  | fetched getConfigValue error => exact absurd trivial hanswer
  | pageReached =>
    have hpage : vc.requestedPage.isSome := hstep.1
    rw [h.2.2.2.1] at hpage
    exact absurd hpage (by simp)
  | scrolled scrollView x =>
    rcases scrolled_cases hstep.2 with rfl | rfl | ⟨hshown, -⟩
    · exact h
    · exact h
    · exact absurd (h.2.2.2.2.symm.trans hshown) (by simp)
  | fadeOutCompleted i =>
    obtain ⟨book, -, rfl⟩ := Option.map_eq_some_iff.mp hstep.2
    exact h

/-! ### The way of an answer -/

/-- An answer that is no success arrives as an error, at the view model and at
the view controller, and changes nothing. -/
def Delivery.Honest (delivery : Delivery) : Prop :=
  delivery.answer.status ≠ .success →
    delivery.toViewModel ≠ none ∧ delivery.toViewController ≠ none ∧
      delivery.after = delivery.before.answered

/-- An answer arrives honestly exactly when it is a success or carries an
error. -/
theorem delivery_honest_iff (S : JSONServices) (getConfigValue : String → String) (i : ℕ)
    (answer : FetchAnswer) (screen : Screen) :
    (Screens.delivery S getConfigValue i answer screen).Honest ↔ answer.Reported := by
  constructor
  · intro h hstatus herror
    refine (h hstatus).1 ?_
    show (FirebaseRemoteConfigManager.fetchRemoteConfig answer.status answer.error).2 = none
    rw [FirebaseRemoteConfigManager.fetchRemoteConfig, if_neg hstatus]
    exact herror
  · intro h hstatus
    have hpassed : FirebaseRemoteConfigManager.fetchRemoteConfig answer.status answer.error =
        (false, answer.error) := if_neg hstatus
    obtain ⟨error, herror⟩ := Option.ne_none_iff_exists'.mp (h hstatus)
    rw [Screens.delivery, hpassed, herror]
    refine ⟨by simp, by simp, ?_⟩
    show (if screen.isOpen then _ else _) = _
    split
    · exact Controller.fetchData_some S getConfigValue error screen.controller
    · rfl

namespace Screens

open RCNConfigFetch

section Steps

variable {S : JSONServices} {width : ℚ} {app app' : Screens} {event : Event}

/-- What an event does: it opens a screen; the SDK or the closing of a screen
brings answers, if any; an answer is delivered; or a screen handles an event of
its own. -/
inductive StepCases (S : JSONServices) (app : Screens) (event : Event) (app' : Screens) : Prop
  | opening (controller : Controller) (huntouched : controller.Untouched)
      (horder : app.InOrder event) (happ : app' = app.openScreen controller)
  | fetching (i : ℕ) (screen screen' : Screen) (settings : RCNConfigSettings)
      (answers : List (ℕ × FetchAnswer)) (hscreen : app.screens[i]? = some screen)
      (hcontroller : screen'.controller = screen.controller)
      (horder : app.InOrder event ↔ ∀ p ∈ answers, p.2.Reported)
      (happ : app' = { app with
        settings := settings
        screens := app.screens.set i screen'
        waiting := app.waiting ++ answers })
  | delivering (getConfigValue : String → String) (k i : ℕ) (answer : FetchAnswer)
      (screen : Screen) (hwaiting : app.waiting[k]? = some (i, answer))
      (hscreen : app.screens[i]? = some screen) (horder : app.InOrder event)
      (happ : app' = { app with
        screens := app.screens.set i
          { screen with controller := (delivery S getConfigValue i answer screen).after }
        waiting := app.waiting.eraseIdx k
        delivered := app.delivered ++ [delivery S getConfigValue i answer screen] })
  | handling (i : ℕ) (screen : Screen) (controller : Controller)
      (hscreen : app.screens[i]? = some screen)
      (huntouched : screen.controller.Untouched → controller.Untouched)
      (horder : app.InOrder event)
      (happ : app' = { app with
        screens := app.screens.set i { screen with controller := controller } })

theorem runFetch_cases {i : ℕ} {now : ℚ} {hasDeviceContextChanged : Bool}
    (h : app.runFetch i now hasDeviceContextChanged = some app') :
    StepCases S app (.runFetch i now hasDeviceContextChanged) app' := by
  have horder : (∀ answer, (fetchConfig RCNConfigSettings.RCNDefaultMinimumFetchInterval now
        hasDeviceContextChanged app.settings).2 = some answer → answer.Reported) ↔
      app.InOrder (.runFetch i now hasDeviceContextChanged) := fetchConfig_reported_iff
  rw [runFetch] at h
  split at h
  · rename_i controller isOpen hscreen
    split at h
    · rename_i settings result hfetch
      refine .fetching i _ _ settings [(i, result)] hscreen ?_ ?_ (Option.some.inj h).symm
      · rfl
      · rw [← horder, hfetch]
        simp
    · rename_i settings hfetch
      refine .fetching i _ ⟨controller, isOpen, .inProgress⟩ settings [] hscreen ?_ ?_ ?_
      · rfl
      · rw [← horder, hfetch]
        simp
      · rw [List.append_nil]
        exact (Option.some.inj h).symm
  · exact absurd h (by simp)

theorem failRequest_cases {i : ℕ} (h : app.failRequest i = some app') :
    StepCases S app (.failRequest i) app' := by
  rw [failRequest] at h
  split at h
  · rename_i controller isOpen hscreen
    refine .fetching i _ _ _ [(i, (requestFailed app.settings).2)] hscreen ?_ ?_
      (Option.some.inj h).symm
    · rfl
    · refine iff_of_true trivial fun p hp => ?_
      rw [List.mem_singleton.mp hp]
      exact reported_requestFailed app.settings
  · exact absurd h (by simp)

theorem respond_cases {i : ℕ} {response : NetworkResponse}
    (h : app.respond i response = some app') : StepCases S app (.respond i response) app' := by
  rw [respond] at h
  split at h
  · rename_i controller isOpen hscreen
    refine .fetching i _ ⟨controller, isOpen, .responded response⟩
      { app.settings with isFetchInProgress := false } [] hscreen rfl
      (iff_of_true trivial (by simp)) ?_
    rw [List.append_nil]
    exact (Option.some.inj h).symm
  · exact absurd h (by simp)

theorem complete_cases {i : ℕ} {now : ℚ} {randomPlusMinusInterval : Bool}
    (h : app.complete i now randomPlusMinusInterval = some app') :
    StepCases S app (.complete i now randomPlusMinusInterval) app' := by
  rw [complete] at h
  split at h
  · rename_i controller isOpen response hscreen
    refine .fetching i _ _ _ [(i, (fetcherCompletion now randomPlusMinusInterval response
      app.settings).2)] hscreen ?_ ?_ (Option.some.inj h).symm
    · rfl
    · refine iff_of_true trivial fun p hp => ?_
      rw [List.mem_singleton.mp hp]
      exact reported_fetcherCompletion now randomPlusMinusInterval response app.settings
  · exact absurd h (by simp)

theorem close_cases {i : ℕ} (h : app.close i = some app') : StepCases S app (.close i) app' := by
  obtain ⟨screen, hscreen, rfl⟩ := Option.map_eq_some_iff.mp h
  refine .fetching i screen { screen with isOpen := false } app.settings [] hscreen rfl
    (iff_of_true trivial (by simp)) ?_
  rw [List.append_nil]

theorem deliver_cases {getConfigValue : String → String} {k : ℕ}
    (h : app.deliver S getConfigValue k = some app') :
    StepCases S app (.deliver getConfigValue k) app' := by
  rw [deliver] at h
  split at h
  · rename_i i answer hwaiting
    obtain ⟨screen, hscreen, rfl⟩ := Option.map_eq_some_iff.mp h
    exact .delivering getConfigValue k i answer screen hwaiting hscreen trivial rfl
  · exact absurd h (by simp)

theorem step_cases (hstep : (system S width).Step app event app') :
    StepCases S app event app' := by
  obtain ⟨henabled, hnext⟩ := hstep
  cases event with
  | openLibrary =>
    obtain rfl := Option.some.inj hnext
    exact .opening (.library {}) ⟨rfl, rfl, rfl, rfl⟩ trivial rfl
  | openRecommended currentCellIndex labels =>
    obtain rfl := Option.some.inj hnext
    exact .opening (.recommended (.opened currentCellIndex labels)) ⟨rfl, rfl, rfl, rfl, rfl⟩
      trivial rfl
  | close i => exact close_cases hnext
  | runFetch i now hasDeviceContextChanged => exact runFetch_cases hnext
  | failRequest i => exact failRequest_cases hnext
  | respond i response => exact respond_cases hnext
  | complete i now randomPlusMinusInterval => exact complete_cases hnext
  | deliver getConfigValue k => exact deliver_cases hnext
  | library i event =>
    obtain ⟨vc, fetch, hscreen, hanswer, hvc⟩ := henabled
    simp only [system, step, hscreen] at hnext
    obtain ⟨vc', hvc', rfl⟩ := Option.map_eq_some_iff.mp hnext
    exact .handling i _ (.library vc') hscreen
      (LibraryViewController.untouched_step hanswer hvc') trivial rfl
  | recommended i event =>
    obtain ⟨vc, fetch, hscreen, hanswer, hvc⟩ := henabled
    simp only [system, step, hscreen] at hnext
    obtain ⟨vc', hvc', rfl⟩ := Option.map_eq_some_iff.mp hnext
    exact .handling i _ (.recommended vc') hscreen
      (RecommendedViewController.untouched_step hanswer ⟨hvc, hvc'⟩) trivial rfl

section RunFetch

variable {i : ℕ} {now : ℚ} {hasDeviceContextChanged isOpen : Bool} {controller : Controller}

theorem step_runFetch (h : app.runFetch i now hasDeviceContextChanged = some app') :
    (system S width).Step app (.runFetch i now hasDeviceContextChanged) app' := by
  refine ⟨?_, h⟩
  show (app.runFetch i now hasDeviceContextChanged).isSome = true
  rw [h]
  rfl

theorem runFetch_of_answer {settings : RCNConfigSettings} {result : FetchAnswer}
    (hscreen : app.screens[i]? = some ⟨controller, isOpen, .queued⟩)
    (hfetch : fetchConfig RCNConfigSettings.RCNDefaultMinimumFetchInterval now
      hasDeviceContextChanged app.settings = (settings, some result)) :
    (system S width).Step app (.runFetch i now hasDeviceContextChanged)
      (app.answer i ⟨controller, isOpen, .queued⟩ (settings, result)) := by
  apply step_runFetch
  rw [runFetch, hscreen]
  dsimp only
  rw [hfetch]

theorem runFetch_of_network {settings : RCNConfigSettings}
    (hscreen : app.screens[i]? = some ⟨controller, isOpen, .queued⟩)
    (hfetch : fetchConfig RCNConfigSettings.RCNDefaultMinimumFetchInterval now
      hasDeviceContextChanged app.settings = (settings, none)) :
    (system S width).Step app (.runFetch i now hasDeviceContextChanged)
      { app with
        settings := settings
        screens := app.screens.set i ⟨controller, isOpen, .inProgress⟩ } := by
  apply step_runFetch
  rw [runFetch, hscreen]
  dsimp only
  rw [hfetch]

end RunFetch

theorem step_deliver {i k : ℕ} {result : FetchAnswer} {screen : Screen}
    (getConfigValue : String → String) (hwaiting : app.waiting[k]? = some (i, result))
    (hscreen : app.screens[i]? = some screen) :
    (system S width).Step app (.deliver getConfigValue k) { app with
      screens := app.screens.set i
        { screen with controller := (delivery S getConfigValue i result screen).after }
      waiting := app.waiting.eraseIdx k
      delivered := app.delivered ++ [delivery S getConfigValue i result screen] } := by
  have hdeliver : app.deliver S getConfigValue k = some { app with
      screens := app.screens.set i
        { screen with controller := (delivery S getConfigValue i result screen).after }
      waiting := app.waiting.eraseIdx k
      delivered := app.delivered ++ [delivery S getConfigValue i result screen] } := by
    rw [deliver, hwaiting]
    dsimp only
    rw [hscreen]
    rfl
  refine ⟨?_, hdeliver⟩
  show (app.deliver S getConfigValue k).isSome = true
  rw [hdeliver]
  rfl

end Steps

/-! ### Along a run -/

/-- What holds as long as every fetch is in order. -/
structure Invariant (app : Screens) : Prop where
  waiting : ∀ p ∈ app.waiting, p.2.Reported
  delivered : ∀ delivery ∈ app.delivered, delivery.Honest
  /-- Only a success touches a screen. -/
  untouched : ∀ i screen, app.screens[i]? = some screen →
    (∀ delivery ∈ app.delivered, delivery.screen = i → delivery.answer.status ≠ .success) →
      screen.controller.Untouched

/-- An answer that is no success carries no error, and is on its way or has
arrived. -/
def Dishonest (app : Screens) : Prop :=
  (∃ p ∈ app.waiting, ¬ p.2.Reported) ∨ ∃ delivery ∈ app.delivered, ¬ delivery.Honest

section Runs

variable {S : JSONServices} {width : ℚ} {app app' : Screens} {event : Event}

theorem delivery_after_untouched {getConfigValue : String → String} {i : ℕ}
    {answer : FetchAnswer} {screen : Screen} (hreported : answer.Reported)
    (hstatus : answer.status ≠ .success) (h : screen.controller.Untouched) :
    (delivery S getConfigValue i answer screen).after.Untouched := by
  have hhonest := (delivery_honest_iff S getConfigValue i answer screen).mpr hreported
  rw [(hhonest hstatus).2.2]
  exact h.answered

/-- A screen is the one that has just been set, or there was no change to it. -/
theorem screen_set {i j : ℕ} {screen screen' : Screen}
    (h : (app.screens.set i screen')[j]? = some screen) :
    (j = i ∧ screen = screen') ∨ app.screens[j]? = some screen := by
  rw [List.getElem?_set] at h
  split at h
  · rename_i hij
    split at h
    · exact .inl ⟨hij.symm, (Option.some.inj h).symm⟩
    · exact absurd h (by simp)
  · exact .inr h

/-- While every fetch is in order, each event keeps the layers honest. -/
theorem invariant_step (h : app.Invariant) (hstep : (system S width).Step app event app')
    (horder : app.InOrder event) : app'.Invariant := by
  cases step_cases hstep with
  | opening controller huntouched _ happ =>
    subst happ
    refine ⟨h.waiting, h.delivered, fun i screen hscreen hnone => ?_⟩
    change (app.screens ++ [{ controller := controller }])[i]? = some screen at hscreen
    rw [List.getElem?_append] at hscreen
    split at hscreen
    · exact h.untouched i screen hscreen hnone
    · rw [List.mem_singleton.mp (List.mem_of_getElem? hscreen)]
      exact huntouched
  | fetching i screen screen' settings answers hscreen hcontroller hanswers happ =>
    subst happ
    refine ⟨fun p hp => ?_, h.delivered, fun j screen'' hscreen'' hnone => ?_⟩
    · -- What the SDK adds is reported because the event was in order.
      rcases List.mem_append.mp hp with hold | hnew
      · exact h.waiting p hold
      · exact hanswers.mp horder p hnew
    · rcases screen_set hscreen'' with ⟨rfl, rfl⟩ | hold
      · rw [hcontroller]
        exact h.untouched j screen hscreen hnone
      · exact h.untouched j screen'' hold hnone
  | delivering getConfigValue k i answer screen hwaiting hscreen _ happ =>
    subst happ
    have hreported : answer.Reported := h.waiting (i, answer) (List.mem_of_getElem? hwaiting)
    refine ⟨fun p hp => h.waiting p (List.mem_of_mem_eraseIdx hp), fun d hd => ?_,
      fun j screen' hscreen' hnone => ?_⟩
    · rcases List.mem_append.mp hd with hold | hnew
      · exact h.delivered d hold
      · rw [List.mem_singleton.mp hnew]
        exact (delivery_honest_iff S getConfigValue i answer screen).mpr hreported
    · -- Neither the earlier deliveries to this screen nor this one is a success.
      have hearlier : ∀ d ∈ app.delivered, d.screen = j → d.answer.status ≠ .success :=
        fun d hd => hnone d (List.mem_append_left _ hd)
      rcases screen_set hscreen' with ⟨rfl, rfl⟩ | hold
      · have hstatus : answer.status ≠ .success :=
          hnone _ (List.mem_append_right _ (List.mem_singleton_self _)) rfl
        exact delivery_after_untouched (i := j) hreported hstatus
          (h.untouched j screen hscreen hearlier)
      · exact h.untouched j screen' hold hearlier
  | handling i screen controller hscreen huntouched _ happ =>
    subst happ
    refine ⟨h.waiting, h.delivered, fun j screen' hscreen' hnone => ?_⟩
    rcases screen_set hscreen' with ⟨rfl, rfl⟩ | hold
    · exact huntouched (h.untouched j screen hscreen hnone)
    · exact h.untouched j screen' hold hnone

/-- A fetch that is out of order is answered dishonestly. -/
theorem dishonest_of_not_inOrder (hstep : (system S width).Step app event app')
    (horder : ¬ app.InOrder event) : app'.Dishonest := by
  cases step_cases hstep with
  | opening _ _ horder' _ => exact absurd horder' horder
  | fetching i screen screen' settings answers hscreen hcontroller hanswers happ =>
    subst happ
    rw [hanswers] at horder
    push Not at horder
    obtain ⟨p, hp, hreported⟩ := horder
    exact .inl ⟨p, List.mem_append_right _ hp, hreported⟩
  | delivering _ _ _ _ _ _ _ horder' _ => exact absurd horder' horder
  | handling _ _ _ _ _ horder' _ => exact absurd horder' horder

/-- An answer is not lost, and its delivery is not forgotten. -/
theorem dishonest_step (h : app.Dishonest) (hstep : (system S width).Step app event app') :
    app'.Dishonest := by
  cases step_cases hstep with
  | opening controller huntouched _ happ =>
    subst happ
    exact h
  | fetching i screen screen' settings answers hscreen hcontroller hanswers happ =>
    subst happ
    refine h.imp_left fun ⟨p, hp, hreported⟩ => ?_
    exact ⟨p, List.mem_append_left _ hp, hreported⟩
  | delivering getConfigValue k i answer screen hwaiting hscreen _ happ =>
    subst happ
    rcases h with ⟨p, hp, hreported⟩ | ⟨d, hd, hhonest⟩
    · -- The answer arrives as it was given, or stays on its way.
      by_cases hthis : p = (i, answer)
      · subst hthis
        refine .inr ⟨_, List.mem_append_right _ (List.mem_singleton_self _), fun hhonest => ?_⟩
        exact hreported ((delivery_honest_iff S getConfigValue i answer screen).mp hhonest)
      · obtain ⟨l, hl⟩ := List.mem_iff_getElem?.mp hp
        have hlk : l ≠ k := by
          rintro rfl
          exact hthis (Option.some.inj (hl.symm.trans hwaiting))
        exact .inl ⟨p, List.mem_eraseIdx_iff_getElem?.mpr ⟨l, hlk, hl⟩, hreported⟩
    · exact .inr ⟨d, List.mem_append_left _ hd, hhonest⟩
  | handling i screen controller hscreen huntouched _ happ =>
    subst happ
    exact h

variable {settings : RCNConfigSettings} {events : List Event}

/-- The app at launch, with what the SDK remembers of earlier launches. -/
def launched (settings : RCNConfigSettings) : Screens where
  settings := { settings with isFetchInProgress := false }

theorem invariant_run
    (hrun : ((system S width).restrict InOrder).Run (launched settings) events app) :
    app.Invariant := by
  refine hrun.invariant (I := Invariant) (fun app event app' h hstep => ?_) ⟨?_, ?_, ?_⟩
  · obtain ⟨hstep, horder⟩ := EventSystem.step_restrict_iff.mp hstep
    exact invariant_step h hstep horder
  · intro p hp
    exact absurd hp (by simp [launched])
  · intro delivery hdelivery
    exact absurd hdelivery (by simp [launched])
  · intro i screen hscreen
    exact absurd hscreen (by simp [launched])

/-- A run with a fetch that is out of order ends with a dishonest answer, on its
way or delivered. -/
theorem dishonest_run (hrun : (system S width).Run (launched settings) events app)
    (horder : ¬ ((system S width).restrict InOrder).Run (launched settings) events app) :
    app.Dishonest := by
  rcases hrun.restrict_or (C := InOrder) with hrestricted | hfirst
  · exact absurd hrestricted horder
  · obtain ⟨_, event, later, t, t', -, -, hstep, hnot, hrest⟩ := hfirst
    exact hrest.invariant (I := Dishonest) (fun _ _ _ => dishonest_step)
      (dishonest_of_not_inOrder hstep hnot)

/-- **When a failed fetch stays off the success path.**  As long as each fetch
whose job finds another one in progress finds the last one remembered as a
success, an answer that is no success reaches view model and view controller as
an error and changes nothing, and a screen whose fetch has not succeeded is as it
was opened.  And once all answers are delivered, they have all arrived honestly
only in such runs. -/
theorem failures_reported (hrun : (system S width).Run (launched settings) events app) :
    (((system S width).restrict InOrder).Run (launched settings) events app →
      (∀ delivery ∈ app.delivered, delivery.Honest) ∧
      ∀ i screen, app.screens[i]? = some screen →
        (∀ delivery ∈ app.delivered, delivery.screen = i → delivery.answer.status ≠ .success) →
          screen.controller.Untouched) ∧
    (app.waiting = [] → (∀ delivery ∈ app.delivered, delivery.Honest) →
      ((system S width).restrict InOrder).Run (launched settings) events app) := by
  constructor
  · intro hrestricted
    have h := invariant_run hrestricted
    exact ⟨h.delivered, h.untouched⟩
  · intro hdrained hhonest
    by_contra horder
    rcases dishonest_run hrun horder with ⟨p, hp, -⟩ | ⟨delivery, hdelivery, hnot⟩
    · rw [hdrained] at hp
      exact absurd hp (by simp)
    · exact hnot (hhonest delivery hdelivery)

end Runs

/-- Half a day after the last fetch the cache is too old. -/
theorem cacheExpired_halfDay {settings : RCNConfigSettings} {now : ℚ}
    (hlast : settings.lastFetchTimeInterval = 1) (hnow : 50000 ≤ now) :
    CacheExpired RCNConfigSettings.RCNDefaultMinimumFetchInterval now false settings := by
  refine cacheExpired_of_lt ?_
  rw [hlast, RCNConfigSettings.RCNDefaultMinimumFetchInterval]
  linarith

theorem fetchConfig_halfDay {settings : RCNConfigSettings} {now : ℚ}
    (hlast : settings.lastFetchTimeInterval = 1) (hidle : settings.isFetchInProgress = false)
    (hend : settings.exponentialBackoffThrottleEndTime = 0) (hnow : 50000 ≤ now) :
    fetchConfig RCNConfigSettings.RCNDefaultMinimumFetchInterval now false settings =
      ({ settings with isFetchInProgress := true }, none) := by
  refine fetchConfig_network (cacheExpired_halfDay hlast hnow) hidle ?_
  refine RCNConfigSettings.shouldThrottle_of_le ?_
  linarith

theorem fetchConfig_halfDay_inProgress {settings : RCNConfigSettings} {now : ℚ}
    (hlast : settings.lastFetchTimeInterval = 1) (hbusy : settings.isFetchInProgress = true)
    (hnow : 50000 ≤ now) :
    fetchConfig RCNConfigSettings.RCNDefaultMinimumFetchInterval now false settings =
      (settings, some ⟨settings.lastFetchStatus, none⟩) := by
  rw [fetchConfig_inProgress (cacheExpired_halfDay hlast hnow) hbusy, hlast, if_pos one_pos]

/-- The Library fetches, and the fetch of a Recommended screen finds that in progress
and the last one remembered as a success; then the first one fails. -/
theorem failures_reported_overlap :
    ∃ app, (system (carouselServices [cosmosEntry]) 320).Run
        (launched { lastFetchTimeInterval := 1, lastFetchStatus := .success })
        [.openLibrary, .openRecommended none default, .runFetch 0 50000 false,
          .runFetch 1 50001 false, .respond 0 ⟨true, 0, .none⟩, .complete 0 50060 true,
          .deliver (carouselConfig [cosmosEntry]) 0, .deliver (carouselConfig [cosmosEntry]) 0]
        app ∧
      app.delivered.map (fun delivery => (delivery.screen, delivery.answer)) =
        [(1, ⟨.success, none⟩), (0, ⟨.failure, some .internalError⟩)] ∧
      (∀ delivery ∈ app.delivered, delivery.Honest) ∧
      ∃ screen, app.screens[0]? = some screen ∧ screen.controller.Untouched := by
  suffices h : ∃ app, ((system (carouselServices [cosmosEntry]) 320).restrict InOrder).Run
      (launched { lastFetchTimeInterval := 1, lastFetchStatus := .success })
      [.openLibrary, .openRecommended none default, .runFetch 0 50000 false,
        .runFetch 1 50001 false, .respond 0 ⟨true, 0, .none⟩, .complete 0 50060 true,
        .deliver (carouselConfig [cosmosEntry]) 0, .deliver (carouselConfig [cosmosEntry]) 0]
      app ∧
      app.delivered.map (fun delivery => (delivery.screen, delivery.answer)) =
        [(1, ⟨.success, none⟩), (0, ⟨.failure, some .internalError⟩)] ∧
      ∃ screen, app.screens[0]? = some screen by
    obtain ⟨app, hrun, hdelivered, screen, hscreen⟩ := h
    obtain ⟨hhonest, huntouched⟩ := (failures_reported hrun.of_restrict).1 hrun
    refine ⟨app, hrun.of_restrict, hdelivered, hhonest, screen, hscreen,
      huntouched 0 screen hscreen fun delivery hdelivery hzero => ?_⟩
    have hmem : (delivery.screen, delivery.answer) ∈
        app.delivered.map fun delivery => (delivery.screen, delivery.answer) :=
      List.mem_map_of_mem hdelivery
    rw [hdelivered, hzero] at hmem
    simp only [List.mem_cons, Prod.mk.injEq, List.not_mem_nil, or_false] at hmem
    rcases hmem with ⟨hother, -⟩ | ⟨-, hanswer⟩
    · exact absurd hother (by decide)
    · rw [hanswer]
      decide
  -- Event by event; the condition is about the two fetches only.
  refine ⟨?app, ?run, ?delivered, ?screen⟩
  case run =>
    iterate 2 refine .cons ⟨⟨rfl, trivial⟩, rfl⟩ ?_
    refine .cons (EventSystem.step_restrict_iff.mpr ⟨runFetch_of_network rfl
      (fetchConfig_halfDay rfl rfl rfl (by norm_num)), fun _ hbusy => ?_⟩) ?_
    · exact absurd hbusy (by simp [launched, openScreen])
    refine .cons (EventSystem.step_restrict_iff.mpr ⟨runFetch_of_answer rfl
      (fetchConfig_halfDay_inProgress rfl rfl (by norm_num)), fun _ _ => ⟨one_pos, rfl⟩⟩) ?_
    iterate 4 refine .cons ⟨⟨rfl, trivial⟩, rfl⟩ ?_
    exact .nil _
  case delivered => rfl
  case screen => exact ⟨_, rfl⟩

/-- The library is shown from the cache.  Half a day later the fetch of a
Recommended screen fails; the next screen fetches again and is closed while it
waits, and the one after that is told of the earlier failure, but of no error: it
replaces its model and goes to the selected page. -/
theorem failed_fetch_takes_success_path :
    ∃ app, (system (carouselServices [cosmosEntry]) 320).Run
        (launched { lastFetchTimeInterval := 1, lastFetchStatus := .success })
        [.openLibrary, .runFetch 0 10 false, .deliver (carouselConfig [cosmosEntry]) 0,
          .openRecommended (some 0) default, .runFetch 1 50000 false,
          .respond 1 ⟨true, 0, .none⟩, .complete 1 50060 true,
          .deliver (carouselConfig [cosmosEntry]) 0, .close 1,
          .openRecommended (some 0) default, .runFetch 2 50100 false, .close 2,
          .openRecommended (some 0) default, .runFetch 3 50101 false,
          .deliver (carouselConfig [cosmosEntry]) 0] app ∧
      ∃ delivery ∈ app.delivered, delivery.answer.status = .failure ∧ ¬ delivery.Honest ∧
        delivery.toViewController = none ∧
        ∃ vc, delivery.after = .recommended vc ∧ vc.carouselModel = [cosmosEntry] ∧
          vc.requestedPage = some 0 := by
  have hcached : ¬ CacheExpired RCNConfigSettings.RCNDefaultMinimumFetchInterval 10 false
      { lastFetchTimeInterval := 1, lastFetchStatus := .success } := by
    refine not_cacheExpired_of_le (by norm_num) ?_
    norm_num [RCNConfigSettings.RCNDefaultMinimumFetchInterval]
  -- The run up to the last delivery, at which the third screen is told of a failure.
  have hwaiting : ∃ app, (system (carouselServices [cosmosEntry]) 320).Run
      (launched { lastFetchTimeInterval := 1, lastFetchStatus := .success })
      [.openLibrary, .runFetch 0 10 false, .deliver (carouselConfig [cosmosEntry]) 0,
        .openRecommended (some 0) default, .runFetch 1 50000 false,
        .respond 1 ⟨true, 0, .none⟩, .complete 1 50060 true,
        .deliver (carouselConfig [cosmosEntry]) 0, .close 1,
        .openRecommended (some 0) default, .runFetch 2 50100 false, .close 2,
        .openRecommended (some 0) default, .runFetch 3 50101 false] app ∧
      app.waiting[0]? = some (3, ⟨.failure, none⟩) ∧
      app.screens[3]? = some ⟨.recommended (.opened (some 0) default), true, .answered⟩ := by
    refine ⟨?app, ?run, ?waiting, ?screen⟩
    case run =>
      refine .cons ⟨rfl, rfl⟩ (.cons (runFetch_of_answer rfl (fetchConfig_cached hcached)) ?_)
      iterate 2 refine .cons ⟨rfl, rfl⟩ ?_
      refine .cons (runFetch_of_network rfl (fetchConfig_halfDay rfl rfl rfl (by norm_num))) ?_
      iterate 5 refine .cons ⟨rfl, rfl⟩ ?_
      refine .cons (runFetch_of_network rfl (fetchConfig_halfDay rfl rfl rfl (by norm_num))) ?_
      iterate 2 refine .cons ⟨rfl, rfl⟩ ?_
      refine .cons (runFetch_of_answer rfl (fetchConfig_halfDay_inProgress rfl rfl
        (by norm_num))) ?_
      exact .nil _
    case waiting => rfl
    case screen => rfl
  obtain ⟨app, hrun, hwaiting, hscreen⟩ := hwaiting
  have hempty : (RecommendedViewController.opened (some 0) default).viewModel.carousel = [] := rfl
  obtain ⟨recommended, views, hvc⟩ := RecommendedViewController.fetchData_none
    (carouselServices [cosmosEntry]) (carouselConfig [cosmosEntry]) hempty
  rw [RecommendedViewController.decodedCarousel_of_describes describesCarousel_cosmos] at hvc
  refine ⟨_, hrun.snoc (step_deliver _ hwaiting hscreen), _,
    List.mem_append_right _ (List.mem_singleton_self _), rfl, ?_, rfl, ?_⟩
  · rw [delivery_honest_iff]
    exact fun hreported => hreported (by decide) rfl
  · exact ⟨_, congrArg Controller.recommended hvc, rfl, rfl⟩

end Screens

end HolyWater
