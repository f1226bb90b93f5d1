/-
The labels follow the carousel.

Once the selected page has been reached, `scrollViewDidScroll` divides the
offset of the carousel by its width and truncates; each new page is recorded and
its book handed to `updateBookInfo`.  While the carousel bounces by less than a
page on either side:

* `pageAt_lt`, `pageAt_nonneg` — the page is an index of the carousel;
* `tracked_run` — along every run, both recorded indices are the page at the
  latest offset, and the last book handed over is the one there;
* `page_tracking` — with it, what scrolling changes, when it hands a book over,
  and that nothing traps.
-/
import HolyWater.Opening

namespace HolyWater

namespace RecommendedViewController

variable {S : JSONServices} {width x : ℚ} {getConfigValue : String → String} {k : ℕ}
  {carousel : List Carousel} {vc vc' : RecommendedViewController}

/-! ### Pages -/

/-- The carousel is off its content by less than a page. -/
def InBounds (width : ℚ) (numberOfItems : ℕ) (x : ℚ) : Prop :=
  -width < x ∧ x < numberOfItems * width

theorem pageAt_nonneg {n : ℕ} (hwidth : 0 < width) (hx : InBounds width n x) :
    0 ≤ pageAt width x := by
  refine Swift.truncate_nonneg ?_
  rw [lt_div_iff₀ hwidth, neg_one_mul]
  exact hx.1

theorem pageAt_lt {n : ℕ} (hwidth : 0 < width) (hn : 0 < n) (hx : InBounds width n x) :
    pageAt width x < n := by
  refine Swift.truncate_lt ?_ hn
  rw [div_lt_iff₀ hwidth]
  exact hx.2

/-- At rest on page `p`. -/
theorem pageAt_mul (hwidth : 0 < width) (p : ℕ) : pageAt width (p * width) = p := by
  rw [pageAt, mul_div_cancel_right₀ _ hwidth.ne', Swift.truncate_natCast]

/-- Inside the bounds there is an entry on the page. -/
theorem subscript_pageAt (hwidth : 0 < width) (hn : 0 < carousel.length)
    (hx : InBounds width carousel.length x) :
    ∃ book, Swift.subscript carousel (pageAt width x) = some book := by
  rw [← Option.isSome_iff_exists, Swift.subscript_isSome_iff]
  exact ⟨pageAt_nonneg hwidth hx, pageAt_lt hwidth hn hx⟩

theorem inBounds_mul (hwidth : 0 < width) {n : ℕ} (hk : k < n) : InBounds width n (k * width) := by
  have hle : (k : ℚ) + 1 ≤ n := by exact_mod_cast hk
  have hnonneg : 0 ≤ (k : ℚ) * width := by positivity
  constructor
  · linarith
  · nlinarith

/-! ### The invariant -/

/-- The carousel, if it is scrolled, stays inside the bounds. -/
def Event.InBounds (width : ℚ) (numberOfItems : ℕ) : Event → Prop
  | .scrolled .carousel x => RecommendedViewController.InBounds width numberOfItems x
  | _ => True

/-- The screen while the texts are those of `getConfigValue`, and the carousel
bounces by less than a page. -/
def bouncing (S : JSONServices) (width : ℚ) (getConfigValue : String → String)
    (numberOfItems : ℕ) : EventSystem RecommendedViewController Event :=
  (reading S width getConfigValue).restrict fun _ event => event.InBounds width numberOfItems

/-- Both indices are the page at the offset, and the book there was shown last. -/
structure OnPage (width : ℚ) (carousel : List Carousel) (vc : RecommendedViewController) :
    Prop where
  currentCellIndex : vc.currentCellIndex = some (pageAt width vc.contentOffset)
  previousCellIndex : vc.previousCellIndex = some (pageAt width vc.contentOffset)
  shown : vc.shown.getLast? = Swift.subscript carousel (pageAt width vc.contentOffset)

structure Tracked (width : ℚ) (k : ℕ) (carousel : List Carousel)
    (vc : RecommendedViewController) : Prop where
  phase : Phase (some k) carousel vc
  bounds : InBounds width carousel.length vc.contentOffset
  page : vc.isViewShowedFirstly = true → OnPage width carousel vc

theorem tracked_opened (hwidth : 0 < width) (hk : k < carousel.length) (labels : BookLabels) :
    Tracked width k carousel (opened (some k) labels) := by
  refine ⟨.inl (fetching_opened _ labels), ?_, fun h => absurd h (by simp [opened])⟩
  have hzero := inBounds_mul hwidth (k := 0) (Nat.zero_lt_of_lt hk)
  rwa [Nat.cast_zero, zero_mul] at hzero

theorem Phase.carouselModel_of_shown {idx : Option Int} (h : Phase idx carousel vc)
    (hshown : vc.isViewShowedFirstly = true) : vc.carouselModel = carousel := by
  rcases h with h | h | h | h
  · exact absurd (h.notShown.symm.trans hshown) (by simp)
  · exact h.carouselModel
  · exact absurd (h.notShown.symm.trans hshown) (by simp)
  · exact h.carouselModel

/-- Before the screen has been shown, only the offset of the carousel changes;
afterwards the indices follow it, and a book is handed over on a new page. -/
theorem Tracked.scrolled_carousel (h : Tracked width k carousel vc) (hwidth : 0 < width)
    (hk : k < carousel.length) (hx : InBounds width carousel.length x) :
    ∃ vc', vc.scrolled width .carousel x = some vc' ∧ vc'.contentOffset = x ∧
      vc'.isViewShowedFirstly = vc.isViewShowedFirstly ∧
      (vc.isViewShowedFirstly = false → vc' = { vc with contentOffset := x }) ∧
      (vc.isViewShowedFirstly = true → OnPage width carousel vc' ∧
        (pageAt width x = pageAt width vc.contentOffset → vc'.shown = vc.shown) ∧
        (pageAt width x ≠ pageAt width vc.contentOffset →
          ∃ book, Swift.subscript carousel (pageAt width x) = some book ∧
            vc'.shown = vc.shown ++ [book])) := by
  by_cases hshown : vc.isViewShowedFirstly = true
  · have hpage := h.page hshown
    have hmodel := h.phase.carouselModel_of_shown hshown
    by_cases hsame : pageAt width x = pageAt width vc.contentOffset
    · -- Still on its page: the handler compares with the recorded one and stops.
      have hprevious : vc.previousCellIndex = some (pageAt width x) := by
        rw [hpage.previousCellIndex, hsame]
      refine ⟨_, scrolled_carousel_same hshown hwidth.ne' hprevious, rfl, rfl, ?_, fun _ =>
        ⟨⟨?_, hprevious, ?_⟩, fun _ => rfl, fun hne => absurd hsame hne⟩⟩
      · intro hnot
        exact absurd (hnot.symm.trans hshown) (by simp)
      · show vc.currentCellIndex = some (pageAt width x)
        rw [hpage.currentCellIndex, hsame]
      · show vc.shown.getLast? = Swift.subscript carousel (pageAt width x)
        rw [hpage.shown, hsame]
    · -- On another page: the bounds make the subscript safe, also while bouncing.
      have hprevious : vc.previousCellIndex ≠ some (pageAt width x) := by
        rw [hpage.previousCellIndex]
        intro heq
        exact hsame (Option.some.inj heq).symm
      obtain ⟨book, hbook⟩ := subscript_pageAt hwidth (Nat.zero_lt_of_lt hk) hx
      have hnew := scrolled_carousel_new hshown hwidth.ne' hprevious
      rw [hmodel, hbook, Option.map_some] at hnew
      refine ⟨_, hnew, rfl, rfl, ?_, fun _ => ⟨⟨rfl, rfl, ?_⟩, fun heq => absurd heq hsame,
        fun _ => ⟨book, hbook, rfl⟩⟩⟩
      · intro hnot
        exact absurd (hnot.symm.trans hshown) (by simp)
      · show (vc.shown ++ [book]).getLast? = Swift.subscript carousel (pageAt width x)
        rw [List.getLast?_append_of_ne_nil _ (by simp), hbook]
        rfl
  · have hnot : vc.isViewShowedFirstly = false := Bool.not_eq_true _ ▸ hshown
    exact ⟨_, scrolled_carousel_of_not_shown width x hnot, rfl, rfl, fun _ => rfl, fun htrue =>
      absurd htrue hshown⟩

/-- The opening completion leaves the carousel on the selected page, and its book
shown. -/
theorem Opening.tracked (h : Opening (some (k : Int)) carousel vc) (hwidth : 0 < width)
    (hk : k < carousel.length) :
    ∃ vc', (system S width).next vc .pageReached = some vc' ∧ Open carousel vc' ∧
      vc'.contentOffset = k * width ∧ OnPage width carousel vc' := by
  have hbook : Swift.subscript carousel ((some (k : Int)).getD 0) = some carousel[k] := by
    rw [Option.getD_some, Swift.subscript_natCast, List.getElem?_eq_getElem hk]
  have hoffset : CollectionViewPagingLayout.offsetOfPage width carousel.length
      ((some (k : Int)).getD 0) = k * width :=
    CollectionViewPagingLayout.offsetOfPage_of_lt hwidth hk
  rw [h.pageReached_eq, hbook, Option.map_some, hoffset]
  refine ⟨_, rfl, ⟨h.fetching, h.carouselModel, rfl, rfl⟩, rfl, ⟨?_, ?_, ?_⟩⟩
  · show vc.currentCellIndex = some (pageAt width (k * width))
    rw [h.currentCellIndex, pageAt_mul hwidth]
  · -- `previousCellIndex` is the index handed over, not a quotient.
    show some (k : Int) = some (pageAt width (k * width))
    rw [pageAt_mul hwidth]
  · show (vc.shown ++ [carousel[k]]).getLast? = Swift.subscript carousel (pageAt width (k * width))
    rw [pageAt_mul hwidth, List.getLast?_append_of_ne_nil _ (by simp), Swift.subscript_natCast,
      List.getElem?_eq_getElem hk]
    rfl

/-- Only a screen that waits for its lists takes an answer, and it shows nothing. -/
theorem Phase.not_shown_of_fetching (h : Phase (some (k : Int)) carousel vc)
    (hfetching : vc.fetching = true) : vc.isViewShowedFirstly = false := by
  rcases h with h | h | h | h
  · exact h.notShown
  · exact h.notShown
  · exact h.notShown
  · exact absurd (h.fetching.symm.trans hfetching) (by simp)

/-- Each event keeps the screen on its page. -/
theorem tracked_step {event : Event} (hwidth : 0 < width)
    (hk : k < (decodedCarousel S getConfigValue).length)
    (h : Tracked width k (decodedCarousel S getConfigValue) vc)
    (hstep : (bouncing S width getConfigValue (decodedCarousel S getConfigValue).length).Step
      vc event vc') :
    Tracked width k (decodedCarousel S getConfigValue) vc' := by
  obtain ⟨hreading, hbounds⟩ := EventSystem.step_restrict_iff.mp hstep
  have hphase := phase_step h.phase hreading
  obtain ⟨⟨henabled, hnext⟩, -⟩ := EventSystem.step_restrict_iff.mp hreading
  cases event with
  | fetched getConfigValue' error =>
    obtain rfl := Option.some.inj hnext
    obtain ⟨hshown, hoffset, -⟩ := fetchData_frame S getConfigValue' error vc
    refine ⟨hphase, by rw [hoffset]; exact h.bounds, fun htrue => ?_⟩
    rw [hshown, h.phase.not_shown_of_fetching henabled] at htrue
    exact absurd htrue (by simp)
  | pageReached =>
    -- Here the flag is set, so the indices have to agree from now on.
    obtain ⟨vc'', hvc'', -, hoffset, hpage⟩ := (h.phase.opening henabled).tracked hwidth hk
    obtain rfl := Option.some.inj (hvc''.symm.trans hnext)
    refine ⟨hphase, ?_, fun _ => hpage⟩
    rw [hoffset]
    exact inBounds_mul hwidth hk
  | scrolled scrollView x =>
    cases scrollView with
    | youWillAlsoLike =>
      obtain rfl : vc = vc' :=
        Option.some.inj ((scrolled_youWillAlsoLike width x vc).symm.trans hnext)
      exact h
    | carousel =>
      obtain ⟨vc'', hvc'', hoffset, hshown, -, hpage⟩ := h.scrolled_carousel hwidth hk hbounds
      obtain rfl := Option.some.inj (hvc''.symm.trans hnext)
      refine ⟨hphase, by rw [hoffset]; exact hbounds, fun htrue => ?_⟩
      exact (hpage (hshown.symm.trans htrue)).1
  | fadeOutCompleted i =>
    obtain ⟨book, -, rfl⟩ := Option.map_eq_some_iff.mp hnext
    exact ⟨hphase, h.bounds, fun htrue => ⟨(h.page htrue).1, (h.page htrue).2, (h.page htrue).3⟩⟩

theorem tracked_run {labels : BookLabels} {events : List Event}
    (hcarousel : DescribesCarousel S (getConfigValue "details_carousel") carousel)
    (hwidth : 0 < width) (hk : k < carousel.length)
    (hrun : (bouncing S width getConfigValue carousel.length).Run
      (opened (some (k : Int)) labels) events vc) :
    Tracked width k carousel vc := by
  rw [← decodedCarousel_of_describes hcarousel] at hk hrun ⊢
  exact hrun.invariant (fun _ _ _ => tracked_step hwidth hk) (tracked_opened hwidth hk labels)

/-! ### Before and after the opening completion -/

/-- The screen has been shown once the opening completion has run, by nothing
else, and for good. -/
theorem isViewShowedFirstly_step {event : Event} (hstep : (system S width).Step vc event vc') :
    vc'.isViewShowedFirstly = true ↔ vc.isViewShowedFirstly = true ∨ event = .pageReached := by
  obtain ⟨henabled, hnext⟩ := hstep
  cases event with
  | fetched getConfigValue' error =>
    obtain rfl := Option.some.inj hnext
    rw [(fetchData_frame S getConfigValue' error vc).1]
    simp
  | pageReached =>
    obtain ⟨page, book, -, -, rfl⟩ := next_pageReached_cases hnext
    simp
  | scrolled scrollView x =>
    rcases scrolled_cases hnext with rfl | rfl | ⟨-, book, -, rfl⟩
    · simp
    · simp
    · simp
  | fadeOutCompleted i =>
    obtain ⟨book, -, rfl⟩ := Option.map_eq_some_iff.mp hnext
    simp

theorem isViewShowedFirstly_run {events : List Event}
    (hrun : (system S width).Run vc events vc') :
    vc'.isViewShowedFirstly = true ↔
      vc.isViewShowedFirstly = true ∨ .pageReached ∈ events := by
  induction hrun with
  | nil => simp
  | cons hstep _ ih =>
    rw [ih, isViewShowedFirstly_step hstep, List.mem_cons, or_assoc,
      eq_comm (a := Event.pageReached)]

/-- While the carousel bounces by less than a page, no event traps. -/
theorem Tracked.not_traps (h : Tracked width k carousel vc) (hwidth : 0 < width)
    (hk : k < carousel.length) (event : Event) :
    ¬ (bouncing S width getConfigValue carousel.length).Traps vc event := by
  intro htraps
  obtain ⟨⟨⟨henabled, -⟩, hbounds⟩, htrap⟩ := htraps
  replace htrap : (system S width).next vc event = none := htrap
  cases event with
  | fetched getConfigValue' error => exact absurd htrap (by simp [system])
  | pageReached =>
    obtain ⟨vc', hvc', -⟩ := (h.phase.opening henabled).tracked (S := S) hwidth hk
    exact absurd (hvc'.symm.trans htrap) (by simp)
  | scrolled scrollView x =>
    cases scrollView with
    | youWillAlsoLike =>
      exact absurd ((scrolled_youWillAlsoLike width x vc).symm.trans htrap) (by simp)
    | carousel =>
      obtain ⟨vc', hvc', -⟩ := h.scrolled_carousel hwidth hk hbounds
      exact absurd (hvc'.symm.trans htrap) (by simp)
  | fadeOutCompleted i =>
    have hbook := List.getElem?_eq_getElem henabled
    exact absurd htrap (by simp [system, fadeOutCompleted, hbook])

/-- **The screen stays in step with the carousel.**  In every run that opens on
page `k` of a described carousel and never leaves it by a page: no event traps;
the other view scrolls without effect, and so does the carousel before the
opening completion, its offset apart; after it, both indices are the page at the
latest offset, the last book handed to `updateBookInfo` is the entry there (on
page `p`, entry `p`), and scrolling hands over a book exactly on a change of
page. -/
theorem page_tracking {labels : BookLabels} {events : List Event}
    (hcarousel : DescribesCarousel S (getConfigValue "details_carousel") carousel)
    (hwidth : 0 < width) (hk : k < carousel.length)
    (hrun : (bouncing S width getConfigValue carousel.length).Run
      (opened (some (k : Int)) labels) events vc) :
    (∀ event, ¬ (bouncing S width getConfigValue carousel.length).Traps vc event) ∧
    (∀ x, (system S width).next vc (.scrolled .youWillAlsoLike x) = some vc) ∧
    (.pageReached ∉ events → ∀ x,
      (system S width).next vc (.scrolled .carousel x) = some { vc with contentOffset := x }) ∧
    (.pageReached ∈ events →
      vc.currentCellIndex = some (pageAt width vc.contentOffset) ∧
      vc.previousCellIndex = some (pageAt width vc.contentOffset) ∧
      (∃ book, Swift.subscript vc.carouselModel (pageAt width vc.contentOffset) = some book ∧
        vc.shown.getLast? = some book) ∧
      (∀ p : ℕ, vc.contentOffset = p * width → vc.shown.getLast? = carousel[p]?) ∧
      ∀ x vc', (bouncing S width getConfigValue carousel.length).Step
        vc (.scrolled .carousel x) vc' →
          (pageAt width x = pageAt width vc.contentOffset → vc'.shown = vc.shown) ∧
          (pageAt width x ≠ pageAt width vc.contentOffset →
            ∃ book, Swift.subscript vc.carouselModel (pageAt width x) = some book ∧
              vc'.shown = vc.shown ++ [book])) := by
  have htracked := tracked_run hcarousel hwidth hk hrun
  have hshown : vc.isViewShowedFirstly = true ↔ .pageReached ∈ events := by
    rw [isViewShowedFirstly_run hrun.of_restrict.of_restrict]
    simp [opened]
  refine ⟨htracked.not_traps hwidth hk, fun x => scrolled_youWillAlsoLike width x vc, ?_, ?_⟩
  · intro hnot x
    exact scrolled_carousel_of_not_shown width x (Bool.not_eq_true _ ▸ fun h => hnot (hshown.mp h))
  · intro hmem
    have htrue := hshown.mpr hmem
    have hpage := htracked.page htrue
    -- The page is that of the offset, and the bounds give it a book.
    have hmodel := htracked.phase.carouselModel_of_shown htrue
    obtain ⟨book, hbook⟩ := subscript_pageAt hwidth (Nat.zero_lt_of_lt hk) htracked.bounds
    refine ⟨hpage.currentCellIndex, hpage.previousCellIndex,
      ⟨book, by rw [hmodel, hbook], by rw [hpage.shown, hbook]⟩, ?_, ?_⟩
    · intro p hp
      rw [hpage.shown, hp, pageAt_mul hwidth, Swift.subscript_natCast]
    · intro x vc' hstep
      obtain ⟨hreading, hbounds⟩ := EventSystem.step_restrict_iff.mp hstep
      obtain ⟨vc'', hvc'', -, -, -, hfollows⟩ := htracked.scrolled_carousel hwidth hk hbounds
      obtain rfl := Option.some.inj (hvc''.symm.trans hreading.2)
      rw [hmodel]
      exact (hfollows htrue).2

/-! ### Pages that are reached -/

/-- The screen is on page `p` of the carousel, with these fade-outs in flight,
and these books handed over so far. -/
structure AtPage (carousel : List Carousel) (p : ℕ) (fadeOuts shown : List Carousel)
    (vc : RecommendedViewController) : Prop where
  isViewShowedFirstly : vc.isViewShowedFirstly = true
  carouselModel : vc.carouselModel = carousel
  previousCellIndex : vc.previousCellIndex = some (p : Int)
  fadeOuts : vc.fadeOuts = fadeOuts
  shown : vc.shown = shown

variable {fadeOuts shown : List Carousel} {p q : ℕ}

/-- The screen can be opened on every page. -/
theorem exists_open (hcarousel : DescribesCarousel S (getConfigValue "details_carousel") carousel)
    (hwidth : 0 < width) (hp : p < carousel.length) (labels : BookLabels) :
    ∃ vc, (bouncing S width getConfigValue carousel.length).Run (opened (some (p : Int)) labels)
        [.fetched getConfigValue none, .pageReached] vc ∧
      vc.contentOffset = p * width ∧ AtPage carousel p [carousel[p]] [carousel[p]] vc := by
  obtain ⟨recommended, views, hfetched⟩ := fetchData_none S getConfigValue
    (show (opened (some (p : Int)) labels).viewModel.carousel = [] from rfl)
  rw [decodedCarousel_of_describes hcarousel] at hfetched
  have hpage := pageReached_eq width p
    ((opened (some (p : Int)) labels).fetchData S getConfigValue none)
  have hbook : Swift.subscript carousel ((some (p : Int)).getD 0) = some carousel[p] := by
    rw [Option.getD_some, Swift.subscript_natCast, List.getElem?_eq_getElem hp]
  rw [hfetched] at hpage
  dsimp only [opened] at hpage
  rw [hbook, Option.map_some] at hpage
  exact ⟨_, .cons ⟨⟨⟨rfl, rfl⟩, trivial⟩, congrArg some hfetched⟩
    (.cons ⟨⟨⟨rfl, trivial⟩, trivial⟩, hpage⟩ (.nil _)),
    CollectionViewPagingLayout.offsetOfPage_of_lt hwidth hp, ⟨rfl, rfl, rfl, rfl, rfl⟩⟩

/-- The screen can be scrolled from each page to each other one. -/
theorem AtPage.scrolled (S : JSONServices) (h : AtPage carousel p fadeOuts shown vc)
    (hwidth : 0 < width) (hq : q < carousel.length) (hne : p ≠ q) :
    ∃ vc', (system S width).Step vc (.scrolled .carousel (q * width)) vc' ∧
      AtPage carousel q (fadeOuts ++ [carousel[q]]) (shown ++ [carousel[q]]) vc' := by
  have hprevious : vc.previousCellIndex ≠ some (pageAt width (q * width)) := by
    rw [h.previousCellIndex, pageAt_mul hwidth]
    intro heq
    have hindex := Option.some.inj heq
    omega
  have hscrolled := scrolled_carousel_new h.isViewShowedFirstly hwidth.ne' hprevious
  rw [h.carouselModel, pageAt_mul hwidth, Swift.subscript_natCast, List.getElem?_eq_getElem hq,
    Option.map_some, h.fadeOuts, h.shown] at hscrolled
  exact ⟨_, ⟨trivial, hscrolled⟩, ⟨h.isViewShowedFirstly, rfl, rfl, rfl, rfl⟩⟩

/-- Each fade-out in flight can complete, and the labels then show its book. -/
theorem AtPage.fadeOutCompleted (S : JSONServices) (width : ℚ)
    (h : AtPage carousel p fadeOuts shown vc) {i : ℕ} (hi : i < fadeOuts.length) :
    ∃ vc', (system S width).Step vc (.fadeOutCompleted i) vc' ∧
      AtPage carousel p (fadeOuts.eraseIdx i) shown vc' ∧ vc'.labels = .showing fadeOuts[i] := by
  have hcompleted : vc.fadeOutCompleted i = some { vc with
      labels := .showing fadeOuts[i]
      fadeOuts := fadeOuts.eraseIdx i } := by
    rw [RecommendedViewController.fadeOutCompleted, h.fadeOuts, List.getElem?_eq_getElem hi,
      Option.map_some, BookLabels.fadeIn_setTexts]
  refine ⟨_, ⟨?_, hcompleted⟩, ⟨h.isViewShowedFirstly, h.carouselModel, h.previousCellIndex, rfl,
    h.shown⟩, rfl⟩
  show i < vc.fadeOuts.length
  rw [h.fadeOuts]
  exact hi

/-- The carousel can be scrolled to each offset inside the bounds. -/
theorem exists_scrolled {labels : BookLabels} {events : List Event}
    (hcarousel : DescribesCarousel S (getConfigValue "details_carousel") carousel)
    (hwidth : 0 < width) (hk : k < carousel.length)
    (hrun : (bouncing S width getConfigValue carousel.length).Run
      (opened (some (k : Int)) labels) events vc) (hx : InBounds width carousel.length x) :
    ∃ vc', (bouncing S width getConfigValue carousel.length).Run (opened (some (k : Int)) labels)
      (events ++ [.scrolled .carousel x]) vc' ∧ vc'.contentOffset = x := by
  obtain ⟨vc', hvc', hoffset, -⟩ :=
    (tracked_run hcarousel hwidth hk hrun).scrolled_carousel hwidth hk hx
  exact ⟨vc', hrun.snoc ⟨⟨⟨trivial, trivial⟩, hx⟩, hvc'⟩, hoffset⟩

/-- Two entries, opened on the first: the other view is scrolled; then the carousel is
dragged, bounces behind its last page, and comes to rest on it. -/
theorem page_tracking_two :
    ∃ vc, (bouncing (carouselServices [cosmosEntry, emmaEntry]) 320
          (carouselConfig [cosmosEntry, emmaEntry]) 2).Run (opened (some (0 : ℕ)) default)
        [.fetched (carouselConfig [cosmosEntry, emmaEntry]) none, .pageReached,
          .scrolled .youWillAlsoLike 100, .scrolled .carousel 100, .scrolled .carousel 400,
          .scrolled .carousel ((1 : ℕ) * 320)] vc ∧
      vc.currentCellIndex = some 1 ∧ vc.previousCellIndex = some 1 ∧
      vc.shown.getLast? = some emmaEntry := by
  have hwidth : (0 : ℚ) < 320 := by norm_num
  have hdescribes := describesCarousel_two
  obtain ⟨vc₂, hopen, -⟩ := exists_open hdescribes hwidth Nat.two_pos default
  have hscrolled : (bouncing (carouselServices [cosmosEntry, emmaEntry]) 320
      (carouselConfig [cosmosEntry, emmaEntry]) 2).Step vc₂ (.scrolled .youWillAlsoLike 100) vc₂ :=
    ⟨⟨⟨trivial, trivial⟩, trivial⟩, (page_tracking hdescribes hwidth Nat.two_pos hopen).2.1 100⟩
  have hother := hopen.snoc hscrolled
  obtain ⟨vc₄, hdragged, -⟩ := exists_scrolled hdescribes hwidth Nat.two_pos hother
    (x := 100) (by norm_num [InBounds])
  obtain ⟨vc₅, hbounced, -⟩ := exists_scrolled hdescribes hwidth Nat.two_pos hdragged
    (x := 400) (by norm_num [InBounds])
  obtain ⟨vc₆, hrun, hoffset⟩ := exists_scrolled hdescribes hwidth Nat.two_pos hbounced
    (inBounds_mul hwidth Nat.one_lt_two)
  obtain ⟨-, -, -, hafter⟩ := page_tracking hdescribes hwidth Nat.two_pos hrun
  obtain ⟨hcurrent, hprevious, -, hentry, -⟩ := hafter (by simp)
  rw [hoffset, pageAt_mul hwidth] at hcurrent hprevious
  exact ⟨vc₆, hrun, hcurrent, hprevious, hentry 1 hoffset⟩

end RecommendedViewController

end HolyWater
