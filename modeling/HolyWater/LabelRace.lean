/-
The labels and the order of the fade-outs.

Each page change leaves a fade-out in flight whose completion puts the texts of
its own book on the labels.  Nothing ties a completion to the page that is
current when it runs: the labels are a register that fade-outs write, and that
shows whatever completed last.

* `matches_run` — every run of the screen is a run of such a register;
* `labels_settle` — the labels settle on the last page change along all runs in
  which the newest fade-out completes last (or before others with the same
  texts), and any other completion can end with the wrong labels;
* `labels_show_earlier_page` — which a drag off a page and back brings about.
-/
import HolyWater.InFlight
import HolyWater.PageTracking

namespace HolyWater

namespace RecommendedViewController

variable {S : JSONServices} {width : ℚ} {vc vc' : RecommendedViewController}
  {f f' : InFlight Carousel}

/-! ### The labels as a register -/

/-- The fade-outs are the writes in flight, the last page change is the write
started last, and the labels show the write completed last, unless they are
faded out. -/
structure Matches (vc : RecommendedViewController) (f : InFlight Carousel) : Prop where
  fadeOuts : vc.fadeOuts = f.pending
  shown : vc.shown.getLast? = f.latest
  labels : f.pending = [] → ∀ book, f.written = some book → vc.labels = .showing book

/-- The newest fade-out in flight completes only when the others in flight have
the same texts. -/
def FadeOutsInOrder (vc : RecommendedViewController) : Event → Prop
  | .fadeOutCompleted i => i + 1 = vc.fadeOuts.length →
      ∀ book ∈ vc.fadeOuts, ∀ newest, vc.fadeOuts[i]? = some newest →
        BookLabels.SameTexts newest book
  | _ => True

theorem Matches.inOrder_iff (h : Matches vc f) (i : ℕ) (hi : i < vc.fadeOuts.length) :
    FadeOutsInOrder vc (.fadeOutCompleted i) ↔ f.InOrder BookLabels.showing (.inr i) := by
  have hget := List.getElem?_eq_getElem hi
  simp only [FadeOutsInOrder, InFlight.InOrder, ← h.fadeOuts, hget, Option.map_some,
    Option.some_inj, BookLabels.showing_eq_iff]
  constructor
  · intro horder hnewest book hbook
    exact horder hnewest book hbook _ rfl
  · intro horder hnewest book hbook newest heq
    exact heq ▸ horder hnewest book hbook

/-- A page change starts a write. -/
theorem Matches.start (h : Matches vc f) {book : Carousel}
    (hfadeOuts : vc'.fadeOuts = vc.fadeOuts ++ [book]) (hshown : vc'.shown = vc.shown ++ [book]) :
    Matches vc' (f.start book) := by
  refine ⟨?_, ?_, fun hpending => absurd hpending (by simp [InFlight.start])⟩
  · rw [hfadeOuts, h.fadeOuts]
    rfl
  · rw [hshown, List.getLast?_append_of_ne_nil _ (by simp)]
    rfl

/-- A completion completes a write. -/
theorem Matches.deliver (h : Matches vc f) {i : ℕ} (hvc : vc.fadeOutCompleted i = some vc') :
    ∃ f', f.deliver i = some f' ∧ Matches vc' f' := by
  obtain ⟨book, hbook, rfl⟩ := Option.map_eq_some_iff.mp hvc
  rw [h.fadeOuts] at hbook
  refine ⟨{ f with pending := f.pending.eraseIdx i, written := some book }, ?_, ?_, h.shown, ?_⟩
  · rw [InFlight.deliver, hbook, Option.map_some]
  · show vc.fadeOuts.eraseIdx i = f.pending.eraseIdx i
    rw [h.fadeOuts]
  · intro _ book' hbook'
    obtain rfl := Option.some.inj hbook'
    exact BookLabels.fadeIn_setTexts book vc.labels

/-- Everything else leaves the register alone. -/
theorem Matches.stutter (h : Matches vc f) (hlabels : vc'.labels = vc.labels)
    (hfadeOuts : vc'.fadeOuts = vc.fadeOuts) (hshown : vc'.shown = vc.shown) : Matches vc' f := by
  refine ⟨by rw [hfadeOuts, h.fadeOuts], by rw [hshown, h.shown], fun hpending book hbook => ?_⟩
  rw [hlabels]
  exact h.labels hpending book hbook

/-- Each step of the screen is a step of the register, or none. -/
theorem matches_step {event : Event} (h : Matches vc f) (hstep : (system S width).Step vc event vc')
    (horder : FadeOutsInOrder vc event) :
    ∃ events f', ((InFlight.system Carousel).restrict
      (InFlight.InOrder BookLabels.showing)).Run f events f' ∧ Matches vc' f' := by
  obtain ⟨henabled, hnext⟩ := hstep
  -- A page change is a single start; an event without one is a stutter.
  have hstart : ∀ book, ((InFlight.system Carousel).restrict
      (InFlight.InOrder BookLabels.showing)).Run f [.inl book] (f.start book) := by
    intro book
    exact EventSystem.run_singleton_iff.mpr ⟨⟨trivial, trivial⟩, rfl⟩
  cases event with
  | fetched getConfigValue error =>
    obtain rfl := Option.some.inj hnext
    obtain ⟨-, -, hlabels, hfadeOuts, hshown⟩ := fetchData_frame S getConfigValue error vc
    exact ⟨[], f, .nil _, h.stutter hlabels hfadeOuts hshown⟩
  | pageReached =>
    obtain ⟨page, book, -, -, rfl⟩ := next_pageReached_cases hnext
    exact ⟨_, _, hstart book, h.start rfl rfl⟩
  | scrolled scrollView x =>
    rcases scrolled_cases hnext with rfl | rfl | ⟨-, book, -, rfl⟩
    · exact ⟨[], f, .nil _, h⟩
    · exact ⟨[], f, .nil _, h.stutter rfl rfl rfl⟩
    · exact ⟨_, _, hstart book, h.start rfl rfl⟩
  | fadeOutCompleted i =>
    obtain ⟨f', hdeliver, hmatches⟩ := h.deliver hnext
    refine ⟨[.inr i], f', EventSystem.run_singleton_iff.mpr ?_, hmatches⟩
    exact EventSystem.step_restrict_iff.mpr
      ⟨InFlight.step_inr_iff.mpr hdeliver, (h.inOrder_iff i henabled).mp horder⟩

/-- **Every run of the screen is a run of the register.** -/
theorem matches_run {events : List Event}
    (hrun : ((system S width).restrict FadeOutsInOrder).Run vc events vc') (h : Matches vc f) :
    ∃ events f', ((InFlight.system Carousel).restrict
      (InFlight.InOrder BookLabels.showing)).Run f events f' ∧ Matches vc' f' := by
  induction hrun generalizing f with
  | nil => exact ⟨[], f, .nil _, h⟩
  | cons hstep _ ih =>
    obtain ⟨hstep, horder⟩ := EventSystem.step_restrict_iff.mp hstep
    obtain ⟨events₁, f₁, hrun₁, hmatches₁⟩ := matches_step h hstep horder
    obtain ⟨events₂, f₂, hrun₂, hmatches₂⟩ := ih hmatches₁
    exact ⟨_, f₂, EventSystem.run_append_iff.mpr ⟨f₁, hrun₁, hrun₂⟩, hmatches₂⟩

/-- Completions of the register are completions of fade-outs. -/
theorem Matches.run_deliver {is : List ℕ} (h : Matches vc f)
    (hrun : (InFlight.system Carousel).Run f (is.map .inr) f') :
    ∃ vc', (system S width).Run vc (is.map .fadeOutCompleted) vc' ∧ Matches vc' f' := by
  induction is generalizing vc f with
  | nil =>
    rw [List.map_nil, EventSystem.run_nil_iff] at hrun
    exact ⟨vc, .nil _, hrun ▸ h⟩
  | cons i is ih =>
    rw [List.map_cons, EventSystem.run_cons_iff] at hrun
    obtain ⟨f₁, hfirst, hrest⟩ := hrun
    have hi : i < vc.fadeOuts.length := by
      rw [h.fadeOuts]
      exact hfirst.1
    obtain ⟨vc₁, hvc₁⟩ : ∃ vc₁, vc.fadeOutCompleted i = some vc₁ := by
      rw [fadeOutCompleted, List.getElem?_eq_getElem hi]
      exact ⟨_, rfl⟩
    obtain ⟨f₁', hdeliver, hmatches⟩ := h.deliver hvc₁
    obtain rfl := Option.some.inj (hdeliver.symm.trans (InFlight.step_inr_iff.mp hfirst))
    obtain ⟨vc', hrun', hmatches'⟩ := ih hmatches hrest
    exact ⟨vc', .cons ⟨hi, hvc₁⟩ hrun', hmatches'⟩

/-! ### Where the labels settle -/

/-- With no fade-out in flight, the labels show the book of the last page
change. -/
def LabelsSettled (vc : RecommendedViewController) : Prop :=
  vc.fadeOuts = [] → ∀ book, vc.shown.getLast? = some book → vc.labels = .showing book

theorem Matches.labelsSettled (h : Matches vc f) (hsettled : f.Settled BookLabels.showing) :
    LabelsSettled vc := by
  intro hfadeOuts book hbook
  have hpending : f.pending = [] := h.fadeOuts.symm.trans hfadeOuts
  rw [h.shown] at hbook
  have hseen := hsettled hpending (by rw [hbook]; rfl)
  rw [hbook, Option.map_some, Option.map_eq_some_iff] at hseen
  obtain ⟨written, hwritten, hsame⟩ := hseen
  rw [h.labels hpending written hwritten, hsame]

theorem matches_opened (idx : Option Int) (labels : BookLabels) :
    Matches (opened idx labels) {} :=
  ⟨rfl, rfl, fun _ _ hwritten => absurd hwritten (by simp)⟩

/-- **Where the labels settle.**  Along all runs in which the newest fade-out in
flight completes only when the others in flight have the same texts, the labels
settle on the book of the last page change; and wherever such a run has come to,
any other completion can be followed by completions alone that leave the labels
with another book. -/
theorem labels_settle (S : JSONServices) (width : ℚ) (idx : Option Int) (labels : BookLabels)
    (events : List Event) (vc : RecommendedViewController)
    (hrun : ((system S width).restrict FadeOutsInOrder).Run (opened idx labels) events vc) :
    LabelsSettled vc ∧
    ∀ i, i < vc.fadeOuts.length → ¬ FadeOutsInOrder vc (.fadeOutCompleted i) →
      ∃ is vc', (system S width).Run vc ((i :: is).map .fadeOutCompleted) vc' ∧
        vc'.fadeOuts = [] ∧ ¬ LabelsSettled vc' := by
  obtain ⟨events', f, hregister, hmatches⟩ := matches_run hrun (matches_opened idx labels)
  obtain ⟨hleads, hsettled⟩ := InFlight.settled_run hregister
  refine ⟨hmatches.labelsSettled hsettled, fun i hi horder => ?_⟩
  rw [hmatches.inOrder_iff i hi] at horder
  obtain ⟨is, f', shown, last, hdeliver, hpending, hwritten, hlatest, hdiffer⟩ :=
    InFlight.exists_unsettled hleads (hmatches.fadeOuts ▸ hi) horder
  obtain ⟨vc', hrun', hmatches'⟩ := hmatches.run_deliver hdeliver
  have hfadeOuts : vc'.fadeOuts = [] := hmatches'.fadeOuts.trans hpending
  refine ⟨is, vc', hrun', hfadeOuts, fun hlabels => hdiffer ?_⟩
  rw [← hmatches'.labels hpending shown hwritten,
    hlabels hfadeOuts last (hmatches'.shown.trans hlatest)]

/-- Off the first page and back, with three fade-outs in flight: completing in
order, they leave the labels with the first page; were the newest one to complete
first, the others could leave them with another book. -/
theorem labels_settle_two :
    ∃ vc vc', (system (carouselServices [cosmosEntry, emmaEntry]) 320).Run
        (opened (some (0 : ℕ)) default)
        [.fetched (carouselConfig [cosmosEntry, emmaEntry]) none, .pageReached,
          .scrolled .carousel ((1 : ℕ) * 320), .scrolled .carousel ((0 : ℕ) * 320)] vc ∧
      vc.fadeOuts = [cosmosEntry, emmaEntry, cosmosEntry] ∧
      (system (carouselServices [cosmosEntry, emmaEntry]) 320).Run vc
        [.fadeOutCompleted 0, .fadeOutCompleted 0, .fadeOutCompleted 0] vc' ∧
      vc'.fadeOuts = [] ∧ vc'.labels = .showing cosmosEntry ∧
      ∃ is vc'', (system (carouselServices [cosmosEntry, emmaEntry]) 320).Run vc
        ((2 :: is).map .fadeOutCompleted) vc'' ∧ vc''.fadeOuts = [] ∧ ¬ LabelsSettled vc'' := by
  have hwidth : (0 : ℚ) < 320 := by norm_num
  obtain ⟨vc₂, hopen, -, hpage₂⟩ := exists_open describesCarousel_two hwidth Nat.two_pos default
  obtain ⟨vc₃, hstep₃, hpage₃⟩ := hpage₂.scrolled _ hwidth Nat.one_lt_two Nat.zero_ne_one
  obtain ⟨vc₄, hstep₄, hpage₄⟩ := hpage₃.scrolled _ hwidth Nat.two_pos Nat.one_ne_zero
  obtain ⟨vc₅, hstep₅, hpage₅, -⟩ :=
    hpage₄.fadeOutCompleted (carouselServices [cosmosEntry, emmaEntry]) 320 (i := 0) (by simp)
  obtain ⟨vc₆, hstep₆, hpage₆, -⟩ :=
    hpage₅.fadeOutCompleted (carouselServices [cosmosEntry, emmaEntry]) 320 (i := 0) (by simp)
  obtain ⟨vc₇, hstep₇, hpage₇, -⟩ :=
    hpage₆.fadeOutCompleted (carouselServices [cosmosEntry, emmaEntry]) 320 (i := 0) (by simp)
  have hrun₄ := (hopen.of_restrict.of_restrict.snoc hstep₃).snoc hstep₄
  have horder₄ := hrun₄.restrict (C := FadeOutsInOrder) (by simp [FadeOutsInOrder])
  -- The newest fade-out is the last of three, then of two, and then the only one.
  have hfirst : FadeOutsInOrder vc₄ (.fadeOutCompleted 0) := by
    simp [FadeOutsInOrder, hpage₄.fadeOuts]
  have hsecond : FadeOutsInOrder vc₅ (.fadeOutCompleted 0) := by
    simp [FadeOutsInOrder, hpage₅.fadeOuts]
  have hthird : FadeOutsInOrder vc₆ (.fadeOutCompleted 0) := by
    simp [FadeOutsInOrder, hpage₆.fadeOuts, BookLabels.SameTexts]
  have horder₇ := ((horder₄.snoc (EventSystem.step_restrict_iff.mpr ⟨hstep₅, hfirst⟩)).snoc
    (EventSystem.step_restrict_iff.mpr ⟨hstep₆, hsecond⟩)).snoc
    (EventSystem.step_restrict_iff.mpr ⟨hstep₇, hthird⟩)
  have hnewest : ¬ FadeOutsInOrder vc₄ (.fadeOutCompleted 2) := by
    intro hinOrder
    have hsame := hinOrder (by simp [hpage₄.fadeOuts]) emmaEntry (by simp [hpage₄.fadeOuts])
      cosmosEntry (by simp [hpage₄.fadeOuts])
    exact absurd hsame.1 (by decide)
  refine ⟨vc₄, vc₇, hrun₄, hpage₄.fadeOuts, .cons hstep₅ (.cons hstep₆ (.cons hstep₇ (.nil _))),
    hpage₇.fadeOuts, (labels_settle _ _ _ _ _ _ horder₇).1 hpage₇.fadeOuts _ ?_,
    (labels_settle _ _ _ _ _ _ horder₄).2 2 ?_ hnewest⟩
  · rw [hpage₇.shown]
    rfl
  · simp [hpage₄.fadeOuts]

/-! ### A drag off a page and back -/

/-- Off the first page and back before the first fade-out completes: the labels
end with the book of the page that was left again. -/
theorem exists_race {getConfigValue : String → String} {carousel : List Carousel}
    (hcarousel : DescribesCarousel S (getConfigValue "details_carousel") carousel)
    (hwidth : 0 < width) (hlength : 1 < carousel.length) (labels : BookLabels) :
    ∃ vc, (system S width).Run (opened (some (0 : ℕ)) labels)
        [.fetched getConfigValue none, .pageReached, .fadeOutCompleted 0,
          .scrolled .carousel ((1 : ℕ) * width), .scrolled .carousel ((0 : ℕ) * width),
          .fadeOutCompleted 1, .fadeOutCompleted 0] vc ∧
      vc.fadeOuts = [] ∧ vc.shown.getLast? = some carousel[0] ∧
      vc.labels = .showing carousel[1] := by
  obtain ⟨vc₂, hopen, -, hpage₂⟩ := exists_open hcarousel hwidth (Nat.zero_lt_of_lt hlength) labels
  obtain ⟨vc₃, hstep₃, hpage₃, -⟩ := hpage₂.fadeOutCompleted S width (i := 0) Nat.one_pos
  obtain ⟨vc₄, hstep₄, hpage₄⟩ := hpage₃.scrolled S hwidth hlength Nat.zero_ne_one
  obtain ⟨vc₅, hstep₅, hpage₅⟩ := hpage₄.scrolled S hwidth (Nat.zero_lt_of_lt hlength)
    Nat.one_ne_zero
  -- In flight are now the page left again and, on top of it, the first page.
  obtain ⟨vc₆, hstep₆, hpage₆, -⟩ := hpage₅.fadeOutCompleted S width (i := 1) (by simp)
  obtain ⟨vc₇, hstep₇, hpage₇, hlabels⟩ := hpage₆.fadeOutCompleted S width (i := 0) (by simp)
  refine ⟨vc₇, ?_, hpage₇.fadeOuts, by rw [hpage₇.shown]; rfl, hlabels⟩
  have hopen' := hopen.of_restrict.of_restrict
  exact EventSystem.run_append_iff.mpr ⟨vc₂, hopen',
    .cons hstep₃ (.cons hstep₄ (.cons hstep₅ (.cons hstep₆ (.cons hstep₇ (.nil _)))))⟩

/-- The drag, with texts that differ. -/
theorem labels_show_earlier_page :
    ∃ vc, (system (carouselServices [cosmosEntry, emmaEntry]) 320).Run
        (opened (some (0 : ℕ)) default)
        [.fetched (carouselConfig [cosmosEntry, emmaEntry]) none, .pageReached,
          .fadeOutCompleted 0, .scrolled .carousel ((1 : ℕ) * 320),
          .scrolled .carousel ((0 : ℕ) * 320), .fadeOutCompleted 1, .fadeOutCompleted 0] vc ∧
      ¬ LabelsSettled vc := by
  obtain ⟨vc, hrun, hfadeOuts, hshown, hlabels⟩ :=
    exists_race describesCarousel_two (show (0 : ℚ) < 320 by norm_num) Nat.one_lt_two default
  refine ⟨vc, hrun, fun hsettled => ?_⟩
  have hsame := hlabels.symm.trans (hsettled hfadeOuts _ hshown)
  exact absurd (BookLabels.showing_eq_iff.mp hsame).1 (by decide)

end RecommendedViewController

end HolyWater
