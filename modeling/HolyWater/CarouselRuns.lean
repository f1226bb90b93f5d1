/-
The carousel of banners, along every run.

The carousel is driven by the scroll view, the timer and the main queue, and tells its
screen which banner it displays.

* `library_run` — what it tells its screen and asks of it is a run of the screen, call by
  call, and each index it hands over is that of a banner, so that the results about the
  screen hold with the carousel;
* `carousel_safe_iff` — nothing traps along any run, unless there is exactly one banner
  and assertions are checked: then the timer gets to an assertion that fails;
* `pageControl_at_rest` — whenever the carousel comes to rest, the page control has
  the index of the banner that fills the view;
* `autoscroll_run` — left alone, the carousel never stops, and each turn of the timer
  goes to the next banner, and from the last one to the first.
-/
import HolyWater.BannerCarousel

namespace HolyWater

namespace CarouselCollectionView

/-! ### The invariant -/

/-- Between its ends, with its banners; at rest on a page, and on its way to the next one
when the timer has turned it, which the page control has already. -/
structure Shown (width : ℚ) (c : CarouselCollectionView) : Prop where
  pos : 0 < c.numberOfItems
  asked : (c.carouselDataSource.views .banner).needsReload = false
  told : (c.carouselDataSource.views .banner).told = some (fakeNumberOfItems c.numberOfItems)
  autoscrollTimer : c.autoscrollTimer = true
  lower : 0 < c.contentOffset
  upper : c.contentOffset ≤ width * (c.numberOfItems + 1)
  current : 0 ≤ c.carouselDataSource.currentPage ∧
    c.carouselDataSource.currentPage < c.numberOfItems
  rest : c.motion = .rest → ∃ page : ℕ, 1 ≤ page ∧ page ≤ c.numberOfItems + 1 ∧
    c.contentOffset = width * page ∧
    c.carouselDataSource.currentPage = getRealIndex c.numberOfItems page
  animating : ∀ target, c.motion = .animating target → ∃ page : ℕ, 1 ≤ page ∧
    page ≤ c.numberOfItems ∧ target = width * (page + 1) ∧ c.contentOffset ≤ target ∧
    c.carouselDataSource.currentPage = getRealIndex c.numberOfItems (page + 1)

structure Invariant (width : ℚ) (c : CarouselCollectionView) : Prop where
  fetching : c.fetching = true → c.numberOfItems = 0
  waiting : c.hasInitializedFirstPage = false → c.contentOffset = 0 ∧ c.motion = .rest ∧
    ((c.carouselDataSource.views .banner).needsReload = false → c.numberOfItems = 0)
  shown : c.hasInitializedFirstPage = true → c.Shown width

section Steps

variable {S : JSONServices} {debug : Bool} {width : ℚ} {c c' : CarouselCollectionView}
  {event : Event}

theorem invariant_initial : ({} : CarouselCollectionView).Invariant width where
  fetching _ := rfl
  waiting _ := ⟨rfl, rfl, fun _ => rfl⟩
  shown h := absurd h (by simp)

/-- Only a carousel with a first page moves. -/
theorem Invariant.initialized_of_motion (h : c.Invariant width) (hmotion : c.motion ≠ .rest) :
    c.hasInitializedFirstPage = true := by
  by_contra hinit
  exact hmotion (h.waiting (by simpa using hinit)).2.1

theorem Invariant.shown_of_motion (h : c.Invariant width) (hmotion : c.motion ≠ .rest) :
    c.Shown width :=
  h.shown (h.initialized_of_motion hmotion)

/-- The page control is set to an index of a banner. -/
theorem run_display (vc : LibraryViewController) {index : Int} (hnonneg : 0 ≤ index)
    (hlt : index < vc.numberOfItems) :
    (LibraryViewController.system S).Run vc [.display index]
      (vc.carouselDidDisplayItemAt index) :=
  EventSystem.run_singleton_iff.mpr ⟨⟨hnonneg, hlt⟩, rfl⟩

/-- How the carousel handles an event: as before, and `calls` take its data source along. -/
structure Handled (S : JSONServices) (width : ℚ) (c : CarouselCollectionView)
    (calls : List LibraryViewController.Event) (c' : CarouselCollectionView) : Prop where
  invariant : c'.Invariant width
  library : (LibraryViewController.system S).Run c.carouselDataSource calls c'.carouselDataSource

/-- What a shown carousel becomes is shown. -/
theorem Handled.of_shown {calls : List LibraryViewController.Event}
    (hinit : c'.hasInitializedFirstPage = true) (hshown : c'.Shown width)
    (hfetching : c'.fetching = false)
    (hlibrary : (LibraryViewController.system S).Run c.carouselDataSource calls
      c'.carouselDataSource) : Handled S width c calls c' where
  invariant := ⟨fun h => absurd (hfetching.symm.trans h) (by simp),
    fun h => absurd (hinit.symm.trans h) (by simp), fun _ => hshown⟩
  library := hlibrary

/-- A screen that shows banners has been answered. -/
theorem Invariant.answered (h : c.Invariant width) (hpos : 0 < c.numberOfItems) :
    c.fetching = false := by
  by_contra hfetching
  have hzero := h.fetching (by simpa using hfetching)
  omega

/-- The timer tells the data source the banner after the one it has. -/
theorem dataSourceCalls_timer (debug : Bool) (hwidth : 0 < width) (h : c.Shown width)
    (hrest : c.motion = .rest) :
    c.dataSourceCalls debug width .timer =
      [.display ((c.carouselDataSource.currentPage + 1) % c.numberOfItems)] := by
  obtain ⟨page, hfirst, hlast, hoffset, hcurrent⟩ := h.rest hrest
  have hpage : c.fakeCurrentPage width = page := fakeCurrentPage_eq hwidth hoffset
  rw [dataSourceCalls, fakeNumberOfItems_of_pos h.pos, if_pos (by omega), hpage, hcurrent]
  dsimp only
  by_cases hend : page ≤ c.numberOfItems
  · have hother : ¬ (page : Int) = (c.numberOfItems + 2 : ℕ) - 1 := by omega
    rw [if_neg hother, getRealIndex_succ_eq_ite hfirst hend, getRealIndex_succ hfirst hend]
  · obtain rfl : page = c.numberOfItems + 1 := by omega
    have hlast : ((c.numberOfItems + 1 : ℕ) : Int) = (c.numberOfItems + 2 : ℕ) - 1 := by omega
    have hsecond := getRealIndex_succ_eq_ite (le_refl 1) h.pos
    rw [getRealIndex_succ (le_refl 1) h.pos, Nat.cast_one] at hsecond
    rw [if_pos hlast, hsecond, getRealIndex_last h.pos]

/-- The page that the timer turns a page to. -/
def nextPage (numberOfItems page : ℕ) : ℕ := if page ≤ numberOfItems then page + 1 else 2

/-- The turn of the timer: to the next banner, unless the assertion fails. -/
theorem timer_cases (S : JSONServices) (debug : Bool) (hwidth : 0 < width) (h : c.Shown width)
    (hrest : c.motion = .rest) :
    (debug = true ∧ c.numberOfItems = 1 ∧ c.contentOffset = width * 2 ∧
      c.next debug width S .timer = none) ∨
    ¬ (debug = true ∧ c.numberOfItems = 1 ∧ c.contentOffset = width * 2) ∧
      ∃ c', c.next debug width S .timer = some c' ∧ c'.Shown width ∧
        c'.hasInitializedFirstPage = c.hasInitializedFirstPage ∧ c'.fetching = c.fetching ∧
        c'.carouselDataSource = c.carouselDataSource.carouselDidDisplayItemAt
          ((c.carouselDataSource.currentPage + 1) % c.numberOfItems) ∧
        ∃ page : ℕ, c.contentOffset = width * page ∧
          c'.motion = .animating (width * nextPage c.numberOfItems page) := by
  obtain ⟨page, hfirst, hlast, hoffset, hcurrent⟩ := h.rest hrest
  have hitems : (0 : ℚ) < c.numberOfItems := by exact_mod_cast h.pos
  by_cases hend : page ≤ c.numberOfItems
  · -- Up to the last banner it is turned to the next page.
    have hnext := scrollToNextElement_of_page debug
      (c := { c with autoscrollTimer := false }) hwidth hfirst hend hoffset
    refine .inr ⟨?_, _, hnext, ?_, rfl, rfl, ?_⟩
    · rintro ⟨-, hone, htwo⟩
      have hpage : (page : ℚ) = 2 := mul_left_cancel₀ hwidth.ne' (hoffset.symm.trans htwo)
      have : page = 2 := by exact_mod_cast hpage
      omega
    · refine ⟨h.pos, h.asked, h.told, rfl, h.lower, h.upper, ?_, fun hno => absurd hno (by simp),
        fun target htarget => ⟨page, hfirst, hend, ?_, ?_, rfl⟩⟩
      · show 0 ≤ getRealIndex c.numberOfItems (page + 1) ∧
          getRealIndex c.numberOfItems (page + 1) < c.numberOfItems
        rw [getRealIndex_succ hfirst hend]
        exact emod_bounds h.pos _
      · exact (Motion.animating.inj htarget).symm
      · rw [← Motion.animating.inj htarget]
        show c.contentOffset ≤ _
        rw [hoffset]
        linarith
    · rw [hcurrent, ← getRealIndex_succ hfirst hend]
      refine ⟨rfl, page, hoffset, ?_⟩
      rw [nextPage, if_pos hend]
      push_cast
      rfl
  · -- On the last page it has jumped to the first one, and is turned from there to the second.
    have hpage : page = c.numberOfItems + 1 := by omega
    have hoffset' : c.contentOffset = width * (c.numberOfItems + 1) := by
      rw [hoffset, hpage]
      push_cast
      rfl
    have hsecond : getRealIndex c.numberOfItems 2 =
        (getRealIndex c.numberOfItems 1 + 1) % c.numberOfItems :=
      getRealIndex_succ (le_refl 1) h.pos
    have hnext := scrollToNextElement_of_last debug
      (c := { c with autoscrollTimer := false }) hwidth h.pos hoffset'
    by_cases hassert : debug = true ∧ c.numberOfItems = 1
    · refine .inl ⟨hassert.1, hassert.2, ?_, hnext.trans (if_pos hassert)⟩
      rw [hoffset', hassert.2]
      norm_num
    · refine .inr ⟨fun hall => hassert ⟨hall.1, hall.2.1⟩, _, hnext.trans (if_neg hassert), ?_, rfl,
        rfl, ?_⟩
      · refine ⟨h.pos, h.asked, h.told, rfl, hwidth, ?_, ?_, fun hno => absurd hno (by simp),
          fun target htarget => ⟨1, le_rfl, h.pos, ?_, ?_, rfl⟩⟩
        · show width ≤ width * (c.numberOfItems + 1)
          have := mul_pos hwidth hitems
          linarith
        · show 0 ≤ getRealIndex c.numberOfItems 2 ∧
            getRealIndex c.numberOfItems 2 < c.numberOfItems
          rw [hsecond]
          exact emod_bounds h.pos _
        · rw [← Motion.animating.inj htarget]
          norm_num
        · rw [← Motion.animating.inj htarget]
          show width ≤ _
          linarith
      · rw [hcurrent, hpage, getRealIndex_last h.pos, ← hsecond]
        refine ⟨rfl, page, hoffset, ?_⟩
        rw [nextPage, if_neg hend]
        rfl

/-- The screen changes, but nothing the carousel shows. -/
theorem Invariant.congr (h : c.Invariant width) {vc : LibraryViewController}
    (hslides : vc.bannerSlides = c.carouselDataSource.bannerSlides)
    (hcurrent : vc.currentPage = c.carouselDataSource.currentPage)
    (hview : vc.views .banner = c.carouselDataSource.views .banner) :
    ({ c with carouselDataSource := vc } : CarouselCollectionView).Invariant width := by
  have hitems : vc.numberOfItems = c.numberOfItems := congrArg List.length hslides
  refine ⟨fun hfetching => hitems.trans (h.fetching hfetching), fun hinit => ?_, fun hinit => ?_⟩
  · obtain ⟨hoffset, hmotion, hwaiting⟩ := h.waiting hinit
    refine ⟨hoffset, hmotion, fun hreload => hitems.trans (hwaiting ?_)⟩
    rw [← hview]
    exact hreload
  · have hshown := h.shown hinit
    refine ⟨?_, ?_, ?_, hshown.autoscrollTimer, hshown.lower, ?_, ?_, fun hrest => ?_,
      fun target htarget => ?_⟩
    · show 0 < vc.numberOfItems
      rw [hitems]
      exact hshown.pos
    · rw [hview]
      exact hshown.asked
    · show (vc.views .banner).told = some (fakeNumberOfItems vc.numberOfItems)
      rw [hview, hitems]
      exact hshown.told
    · show c.contentOffset ≤ width * (vc.numberOfItems + 1)
      rw [hitems]
      exact hshown.upper
    · show 0 ≤ vc.currentPage ∧ vc.currentPage < vc.numberOfItems
      rw [hitems, hcurrent]
      exact hshown.current
    · show ∃ page : ℕ, 1 ≤ page ∧ page ≤ vc.numberOfItems + 1 ∧ c.contentOffset = width * page ∧
        vc.currentPage = getRealIndex vc.numberOfItems page
      rw [hitems, hcurrent]
      exact hshown.rest hrest
    · show ∃ page : ℕ, 1 ≤ page ∧ page ≤ vc.numberOfItems ∧ target = width * (page + 1) ∧
        c.contentOffset ≤ target ∧ vc.currentPage = getRealIndex vc.numberOfItems (page + 1)
      rw [hitems, hcurrent]
      exact hshown.animating target htarget

/-- The screen handles an event that the carousel has nothing to do with. -/
theorem handled_library (h : c.Invariant width) (hcoherent : c.carouselDataSource.CacheCoherent)
    {event : LibraryViewController.Event}
    (henabled : (LibraryViewController.system S).enabled c.carouselDataSource event)
    (hframe : ∀ vc, (LibraryViewController.system S).next c.carouselDataSource event = some vc →
      vc.bannerSlides = c.carouselDataSource.bannerSlides ∧
        vc.currentPage = c.carouselDataSource.currentPage ∧
        vc.views .banner = c.carouselDataSource.views .banner) :
    ∃ vc, (LibraryViewController.system S).next c.carouselDataSource event = some vc ∧
      Handled S width c [event] { c with carouselDataSource := vc } ∧
      vc.bannerSlides = c.carouselDataSource.bannerSlides := by
  cases hnext : (LibraryViewController.system S).next c.carouselDataSource event with
  | none => exact absurd ⟨henabled, hnext⟩ (hcoherent.not_traps event)
  | some vc =>
    obtain ⟨hslides, hcurrent, hview⟩ := hframe vc hnext
    exact ⟨vc, rfl, ⟨h.congr hslides hcurrent hview,
      EventSystem.run_singleton_iff.mpr ⟨henabled, hnext⟩⟩, hslides⟩

/-- The answer to the fetch of the screen, before which there are no banners. -/
theorem handled_fetched (h : c.Invariant width) (hfetching : c.fetching = true)
    (getConfigValue : String → String) (error : Option RemoteConfigError) :
    Handled S width c [.fetched getConfigValue error] { c with
      carouselDataSource := c.carouselDataSource.fetchData S getConfigValue error
      fetching := false } := by
  have hzero := h.fetching hfetching
  have hinit : c.hasInitializedFirstPage = false := by
    by_contra hinit
    have hpos := (h.shown (by simpa using hinit)).pos
    omega
  obtain ⟨hoffset, hmotion, -⟩ := h.waiting hinit
  refine ⟨⟨fun hno => absurd hno (by simp), fun _ => ⟨hoffset, hmotion, fun hreload => ?_⟩,
    fun hno => absurd (hinit.symm.trans hno) (by simp)⟩,
    EventSystem.run_singleton_iff.mpr ⟨trivial, rfl⟩⟩
  cases error with
  | some error => exact hzero
  | none =>
    have hreloaded : ((c.carouselDataSource.fetchData S getConfigValue none).views
        .banner).needsReload = true := LibraryViewController.needsReload_fetchCompletion _ _
    exact absurd (hreloaded.symm.trans hreload) (by simp)

/-- The view asks for its count, which it is told. -/
theorem Shown.layout (h : c.Shown width) :
    ({ c with carouselDataSource := c.carouselDataSource.layout .banner } :
      CarouselCollectionView).Shown width := by
  refine ⟨h.pos, ?_, ?_, h.autoscrollTimer, h.lower, h.upper, h.current, h.rest, h.animating⟩
  · simp [LibraryViewController.layout, ViewCache.ask]
  · simp [LibraryViewController.layout, ViewCache.ask, LibraryViewController.itemCount,
      numberOfItems, LibraryViewController.numberOfItems]

theorem run_layout (vc : LibraryViewController) :
    (LibraryViewController.system S).Run vc [.layout .banner] (vc.layout .banner) :=
  EventSystem.run_singleton_iff.mpr ⟨trivial, rfl⟩

/-- The first page is shown when the carousel is asked the first time. -/
theorem assignCurrentPage_first (debug : Bool) (hwidth : 0 < width) (hpos : 0 < c.numberOfItems)
    (hoffset : c.contentOffset = 0) :
    c.assignCurrentPage debug width 0 = some { c with
      carouselDataSource := c.carouselDataSource.carouselDidDisplayItemAt 0
      contentOffset := width
      autoscrollTimer := true } := by
  have hother : c.contentOffset ≠ width := by
    rw [hoffset]
    exact hwidth.ne
  rw [assignCurrentPage, if_neg (by omega), zero_add, setFakePage_first hwidth hpos hother]
  rfl

/-- The carousel is asked for its count; the first time, it shows its first page. -/
theorem handled_layout (debug : Bool) (hwidth : 0 < width) (h : c.Invariant width) :
    ∃ c', c.numberOfItemsInSection debug width = some c' ∧
      Handled S width c (c.dataSourceCalls debug width (.library (.layout .banner))) c' ∧
      c'.carouselDataSource.bannerSlides = c.carouselDataSource.bannerSlides ∧
      (c.hasInitializedFirstPage = true → c'.hasInitializedFirstPage = true ∧
        c'.carouselDataSource.currentPage = c.carouselDataSource.currentPage) := by
  rw [numberOfItemsInSection, dataSourceCalls]
  by_cases hfirst : 0 < fakeNumberOfItems c.numberOfItems ∧ c.hasInitializedFirstPage = false
  · have hpos : 0 < c.numberOfItems := by
      by_contra hzero
      rw [fakeNumberOfItems, if_neg hzero] at hfirst
      exact absurd hfirst.1 (by omega)
    have hitems : (0 : ℚ) < c.numberOfItems := by exact_mod_cast hpos
    obtain ⟨hoffset, hmotion, -⟩ := h.waiting hfirst.2
    rw [if_pos hfirst, if_pos hfirst, assignCurrentPage_first debug hwidth hpos hoffset]
    refine ⟨_, rfl, .of_shown rfl ?_ (h.answered hpos) ?_, rfl, fun hinit =>
      absurd (hfirst.2.symm.trans hinit) (by simp)⟩
    · refine ⟨hpos, ?_, ?_, rfl, hwidth, ?_, ⟨le_rfl, Int.natCast_pos.mpr hpos⟩,
        fun _ => ⟨1, le_rfl, by omega, ?_, ?_⟩, fun target htarget => ?_⟩
      · simp [LibraryViewController.layout, ViewCache.ask]
      · simp [LibraryViewController.layout, ViewCache.ask, LibraryViewController.itemCount,
          numberOfItems, LibraryViewController.numberOfItems,
          LibraryViewController.carouselDidDisplayItemAt]
      · show width ≤ width * (c.numberOfItems + 1)
        have := mul_pos hwidth hitems
        linarith
      · rw [Nat.cast_one, mul_one]
      · show (0 : Int) = getRealIndex c.numberOfItems 1
        rw [getRealIndex, if_neg (by omega), if_neg (by omega)]
        rfl
      · exact absurd (hmotion.symm.trans htarget) (by simp)
    · exact EventSystem.run_append_iff.mpr ⟨_, run_display _ le_rfl (Int.natCast_pos.mpr hpos),
        run_layout _⟩
  · -- It has its first page already, or no banners to show.
    rw [if_neg hfirst, if_neg hfirst]
    refine ⟨_, rfl, ⟨⟨h.fetching, fun hinit => ?_, fun hinit => (h.shown hinit).layout⟩,
      run_layout _⟩, rfl, fun hinit => ⟨hinit, rfl⟩⟩
    obtain ⟨hoffset, hmotion, -⟩ := h.waiting hinit
    refine ⟨hoffset, hmotion, fun _ => ?_⟩
    show c.numberOfItems = 0
    by_contra hpos
    exact hfirst ⟨by rw [fakeNumberOfItems, if_pos (by omega)]; omega, hinit⟩

/-- The view is scrolled: it moves, and may jump. -/
theorem handled_scroll (hwidth : 0 < width) (h : c.Invariant width) {x : ℚ}
    (hscroll : c.MayScroll width x) :
    ∃ c', didScroll width { c with contentOffset := x } = some c' ∧ Handled S width c [] c' ∧
      c'.hasInitializedFirstPage = c.hasInitializedFirstPage ∧
      c'.carouselDataSource = c.carouselDataSource := by
  have hmotion : c.motion ≠ .rest := by
    intro hrest
    rw [MayScroll, hrest] at hscroll
    exact hscroll
  have hinit := h.initialized_of_motion hmotion
  have hshown := h.shown hinit
  refine ⟨_, didScroll_eq (c := { c with contentOffset := x }) hwidth hshown.pos,
    .of_shown hinit ?_ (h.answered hshown.pos) (.nil _), rfl, rfl⟩
  have hbounds : 0 < looped width c.numberOfItems x ∧
      looped width c.numberOfItems x ≤ width * (c.numberOfItems + 1) ∧
      ∀ target, c.motion = .animating target → looped width c.numberOfItems x ≤ target := by
    rw [MayScroll] at hscroll
    split at hscroll
    · exact absurd hscroll id
    · -- An animation stays below its target, so that it never jumps.
      rename_i target htarget
      obtain ⟨page, hfirst, hlast, rfl, -, -⟩ := hshown.animating target htarget
      have hlower := hshown.lower.trans_le hscroll.1
      have hupper : x ≤ width * (c.numberOfItems + 1) := by
        have hle : (page : ℚ) + 1 ≤ c.numberOfItems + 1 := by exact_mod_cast Nat.succ_le_succ hlast
        exact hscroll.2.trans (mul_le_mul_of_nonneg_left hle hwidth.le)
      rw [looped_of_bounds hwidth hlower hupper]
      exact ⟨hlower, hupper, fun target' htarget' =>
        hscroll.2.trans_eq (Motion.animating.inj (htarget.symm.trans htarget'))⟩
    · rename_i hother
      have hlooped := looped_bounds hwidth hshown.pos hscroll.1 hscroll.2
      exact ⟨hlooped.1, hlooped.2, fun target htarget => absurd htarget (hother target)⟩
  refine ⟨hshown.pos, hshown.asked, hshown.told, rfl, hbounds.1, hbounds.2.1, hshown.current,
    fun hrest => absurd hrest hmotion, fun target htarget => ?_⟩
  obtain ⟨page, hfirst, hlast, htarget', -, hcurrent⟩ := hshown.animating target htarget
  exact ⟨page, hfirst, hlast, htarget', hbounds.2.2 target htarget, hcurrent⟩

/-- The data source is told the page at the centre; if the carousel has come to rest on a
page, that is the page. -/
theorem handled_display (debug : Bool) (hwidth : 0 < width) (h : c.Invariant width)
    (hmotion : c.motion ≠ .rest) (motion : Motion) (hno : ∀ target, motion ≠ .animating target)
    (hrest : motion = .rest → c.OnPage width) :
    ∃ page, c.currentPage debug width = some page ∧
      Handled S width c [.display page]
        { c.notifyDatasourceOnDisplayPage page with motion := motion } := by
  have hshown := h.shown_of_motion hmotion
  have hinit := h.initialized_of_motion hmotion
  obtain ⟨row, hrow, hcurrent, hpage⟩ := currentPage_eq debug hwidth hshown.pos
    hshown.told hshown.lower hshown.upper
  obtain ⟨i, hi, hindex⟩ := getRealIndex_lt hrow
  refine ⟨_, hcurrent, .of_shown hinit ?_ (h.answered hshown.pos) ?_⟩
  · refine ⟨hshown.pos, hshown.asked, hshown.told, hshown.autoscrollTimer, hshown.lower,
      hshown.upper, ?_, fun hmotion' => ?_, fun target htarget => absurd htarget (hno target)⟩
    · show 0 ≤ getRealIndex c.numberOfItems row ∧ getRealIndex c.numberOfItems row < c.numberOfItems
      rw [hindex]
      omega
    -- At rest on a page: the row in the middle is that page.
    obtain ⟨page, hoffset⟩ := hrest hmotion'
    have hlower : 0 < page := by
      have hlt : width * 0 < width * (page : ℚ) := by
        rw [mul_zero, ← hoffset]
        exact hshown.lower
      exact_mod_cast lt_of_mul_lt_mul_left hlt hwidth.le
    have hupper : page ≤ c.numberOfItems + 1 := by
      have hle : width * (page : ℚ) ≤ width * (c.numberOfItems + 1) := by
        rw [← hoffset]
        exact hshown.upper
      exact_mod_cast le_of_mul_le_mul_left hle hwidth
    obtain ⟨n, rfl⟩ := Int.eq_ofNat_of_zero_le hlower.le
    have hrow' := hpage n (by rw [hoffset]; rfl)
    refine ⟨n, by omega, by exact_mod_cast hupper, by rw [← Int.cast_natCast]; exact hoffset, ?_⟩
    show getRealIndex c.numberOfItems row = _
    rw [hrow']
    rfl
  · have hlt : (i : Int) < c.carouselDataSource.numberOfItems := by exact_mod_cast hi
    rw [hindex]
    exact run_display _ (Int.natCast_nonneg i) hlt

/-- The assertion about the first page fails: there is one banner, and the timer turns its
last page. -/
def AssertionFails (debug : Bool) (width : ℚ) (c : CarouselCollectionView) (event : Event) : Prop :=
  event = .timer ∧ debug = true ∧ c.numberOfItems = 1 ∧ c.contentOffset = width * 2

theorem not_assertionFails (hevent : event ≠ .timer) : ¬ AssertionFails debug width c event :=
  fun h => hevent h.1

/-- Every event is handled, unless the assertion fails. -/
theorem next_cases (debug : Bool) (hwidth : 0 < width)
    (hcoherent : c.carouselDataSource.CacheCoherent) (h : c.Invariant width)
    (henabled : c.enabled width S event) :
    (AssertionFails debug width c event ∧ c.next debug width S event = none) ∨
      ¬ AssertionFails debug width c event ∧
        ∃ c', c.next debug width S event = some c' ∧
          Handled S width c (c.dataSourceCalls debug width event) c' ∧
          ((∀ getConfigValue error, event ≠ .library (.fetched getConfigValue error)) →
            c'.carouselDataSource.bannerSlides = c.carouselDataSource.bannerSlides) := by
  cases event with
  | timer =>
    obtain ⟨-, hrest, hasked⟩ := henabled
    by_cases hinit : c.hasInitializedFirstPage = true
    · rcases timer_cases S debug hwidth (h.shown hinit) hrest with
        ⟨hdebug, hone, hlast, hnext⟩ | ⟨hno, c', hnext, hshown, hinit', hfetching, hlibrary, -⟩
      · exact .inl ⟨⟨rfl, hdebug, hone, hlast⟩, hnext⟩
      · refine .inr ⟨fun hall => hno hall.2, c', hnext, .of_shown (hinit'.trans hinit) hshown
          (hfetching.trans (h.answered (h.shown hinit).pos)) ?_, fun _ => by rw [hlibrary]; rfl⟩
        obtain ⟨hnonneg, hlt⟩ := emod_bounds (h.shown hinit).pos
          (c.carouselDataSource.currentPage + 1)
        rw [hlibrary, dataSourceCalls_timer debug hwidth (h.shown hinit) hrest]
        exact run_display _ hnonneg hlt
    · -- Without banners the timer runs out.
      have hwaiting := h.waiting (by simpa using hinit)
      have hzero := hwaiting.2.2 hasked
      have hnone : ¬ 0 < fakeNumberOfItems c.numberOfItems := by
        rw [hzero]
        decide
      refine .inr ⟨fun hall => ?_, { c with autoscrollTimer := false }, ?_, ?_, fun _ => rfl⟩
      · have hone := hall.2.2.1
        omega
      · show scrollToNextElement debug width { c with autoscrollTimer := false } = _
        exact if_neg hnone
      · rw [dataSourceCalls, if_neg hnone]
        exact ⟨⟨h.fetching, h.waiting, fun hno => absurd hno hinit⟩, .nil _⟩
  | willBeginDragging =>
    have hshown := h.shown henabled
    refine .inr ⟨not_assertionFails (by simp), _, rfl, .of_shown henabled
      ⟨hshown.pos, hshown.asked, hshown.told, hshown.autoscrollTimer, hshown.lower, hshown.upper,
        hshown.current, fun hno => absurd hno (by simp), fun _ hno => absurd hno (by simp)⟩
      (h.answered hshown.pos) (.nil _), fun _ => rfl⟩
  | scroll x =>
    obtain ⟨c', hnext, hhandled, -, hlibrary⟩ := handled_scroll (S := S) hwidth h henabled
    exact .inr ⟨not_assertionFails (by simp), c', hnext, hhandled, fun _ => by rw [hlibrary]⟩
  | willEndDragging decelerates =>
    obtain ⟨hdragging, hpage⟩ := henabled
    obtain ⟨page, hcurrent, hhandled⟩ := handled_display (S := S) debug hwidth h
      (by rw [hdragging]; simp) (if decelerates then .decelerating else .rest)
      (by cases decelerates <;> simp) (by cases decelerates <;> simp [hpage])
    have hcalls : c.dataSourceCalls debug width (.willEndDragging decelerates) =
        [.display page] := by
      rw [dataSourceCalls, hcurrent]
      rfl
    rw [← hcalls] at hhandled
    refine .inr ⟨not_assertionFails (by simp), _, ?_, hhandled, fun _ => rfl⟩
    show (c.scrollViewWillEndDragging debug width).map _ = _
    rw [scrollViewWillEndDragging, hcurrent]
    rfl
  | endDecelerating =>
    obtain ⟨hdecelerating, hpage⟩ := henabled
    have hmotion : c.motion ≠ .rest := by rw [hdecelerating]; simp
    have hshown := h.shown_of_motion hmotion
    obtain ⟨page, hcurrent, hhandled⟩ := handled_display (S := S) debug hwidth h hmotion
      .rest (by simp) (fun _ => hpage)
    -- It has jumped while it was scrolled; at its end there is nothing left to jump.
    obtain ⟨hfirst, hlast⟩ := ceil_ne_of_bounds hwidth hshown.lower hshown.upper
    have hstay : c.loopItems width (didScroll width) = some c :=
      loopItems_of_ne hshown.pos hfirst hlast
    have hcalls : c.dataSourceCalls debug width .endDecelerating = [.display page] := by
      rw [dataSourceCalls, hstay, Option.bind_some, hcurrent]
      rfl
    rw [← hcalls] at hhandled
    refine .inr ⟨not_assertionFails (by simp), _, ?_, hhandled, fun _ => rfl⟩
    show (c.scrollViewDidEndDecelerating debug width).map _ = _
    rw [scrollViewDidEndDecelerating, hstay, Option.bind_eq_bind, Option.bind_some, hcurrent]
    rfl
  | endScrollingAnimation =>
    have hmotion : c.motion ≠ .rest := by
      rw [show c.motion = .animating c.contentOffset from henabled]
      simp
    have hshown := h.shown_of_motion hmotion
    have hinit := h.initialized_of_motion hmotion
    obtain ⟨page, hfirst, hlast, hoffset, -, hcurrent⟩ := hshown.animating _ henabled
    refine .inr ⟨not_assertionFails (by simp), _, rfl, .of_shown hinit
      ⟨hshown.pos, hshown.asked, hshown.told, hshown.autoscrollTimer, hshown.lower, hshown.upper,
        hshown.current, fun _ => ⟨page + 1, by omega, Nat.succ_le_succ hlast, ?_, ?_⟩,
        fun _ hno => absurd hno (by simp)⟩
      (h.answered hshown.pos) (.nil _), fun _ => rfl⟩
    · rw [hoffset]
      push_cast
      rfl
    · exact_mod_cast hcurrent
  | library event =>
    refine .inr ⟨not_assertionFails (by simp), ?_⟩
    cases event with
    | fetched getConfigValue error =>
      exact ⟨_, rfl, handled_fetched h henabled getConfigValue error, fun hno =>
        absurd rfl (hno getConfigValue error)⟩
    | display index => exact absurd henabled id
    | cell view row =>
      obtain ⟨vc, hnext, hhandled, hslides⟩ := handled_library h hcoherent henabled fun vc hvc => by
        rw [LibraryViewController.eq_of_queryCell hvc]
        exact ⟨rfl, rfl, rfl⟩
      exact ⟨_, Option.map_eq_some_iff.mpr ⟨vc, hnext, rfl⟩, hhandled, fun _ => hslides⟩
    | select view row =>
      obtain ⟨vc, hnext, hhandled, hslides⟩ := handled_library h hcoherent henabled fun vc hvc => by
        rw [LibraryViewController.eq_of_querySelect hvc]
        exact ⟨rfl, rfl, rfl⟩
      exact ⟨_, Option.map_eq_some_iff.mpr ⟨vc, hnext, rfl⟩, hhandled, fun _ => hslides⟩
    | layout view =>
      by_cases hbanner : view = .banner
      · subst hbanner
        obtain ⟨c', hnext, hhandled, hslides, -⟩ := handled_layout (S := S) debug hwidth h
        exact ⟨c', hnext, hhandled, fun _ => hslides⟩
      · have hlayout : (LibraryViewController.system S).enabled c.carouselDataSource
            (.layout view) := trivial
        have hcalls : c.dataSourceCalls debug width (.library (.layout view)) = [.layout view] := by
          cases view with
          | banner => exact absurd rfl hbanner
          | _ => rfl
        obtain ⟨vc, hnext, hhandled, hslides⟩ := handled_library h hcoherent hlayout
          fun vc hvc => by
          obtain rfl := Option.some.inj hvc
          exact ⟨rfl, rfl, Function.update_of_ne (Ne.symm hbanner) _ _⟩
        obtain rfl := Option.some.inj hnext
        rw [← hcalls] at hhandled
        refine ⟨_, ?_, hhandled, fun _ => hslides⟩
        cases view with
        | banner => exact absurd rfl hbanner
        | newArrivals => rfl
        | romance => rfl
        | fantasy => rfl
        | science => rfl

end Steps

/-! ### Along every run -/

section Runs

variable {S : JSONServices} {debug : Bool} {width : ℚ} {c c' : CarouselCollectionView}
  {event : Event} {events : List Event}

/-- What the carousel keeps, with what its screen has been through. -/
structure Reached (S : JSONServices) (width : ℚ) (c : CarouselCollectionView) : Prop where
  invariant : c.Invariant width
  library : ∃ events, (LibraryViewController.system S).Run {} events c.carouselDataSource

theorem Reached.coherent (h : Reached S width c) : c.carouselDataSource.CacheCoherent := by
  obtain ⟨events, hrun⟩ := h.library
  refine LibraryViewController.cacheCoherent_run hrun ?_
  intro view hreload
  exact absurd hreload (by simp)

theorem Reached.step (hwidth : 0 < width) (h : Reached S width c)
    (hstep : (system debug width S).Step c event c') : Reached S width c' := by
  obtain ⟨henabled, hnext⟩ := hstep
  rcases next_cases debug hwidth h.coherent h.invariant henabled with
    ⟨-, htrap⟩ | ⟨-, c'', hnext', hhandled, -⟩
  · exact absurd (htrap.symm.trans hnext) (by simp)
  · obtain rfl : c' = c'' := Option.some.inj (hnext.symm.trans hnext')
    obtain ⟨events, hrun⟩ := h.library
    exact ⟨hhandled.invariant, events ++ _,
      EventSystem.run_append_iff.mpr ⟨_, hrun, hhandled.library⟩⟩

theorem reached_run (hwidth : 0 < width) (hrun : (system debug width S).Run {} events c) :
    Reached S width c :=
  hrun.invariant (fun _ _ _ h hstep => h.step hwidth hstep)
    ⟨invariant_initial, [], .nil _⟩

theorem dataSourceCallsAlong_cons (hstep : (system debug width S).Step c event c')
    (events : List Event) :
    dataSourceCallsAlong debug width S c (event :: events) =
      c.dataSourceCalls debug width event ++ dataSourceCallsAlong debug width S c' events :=
  EventSystem.emitted_cons hstep events

/-- Along a run, what the carousel tells and asks takes its data source along. -/
theorem Reached.calls_run (hwidth : 0 < width) (h : Reached S width c)
    (hrun : (system debug width S).Run c events c') :
    (LibraryViewController.system S).Run c.carouselDataSource
      (dataSourceCallsAlong debug width S c events) c'.carouselDataSource := by
  have hsimulate := hrun.simulate (N := LibraryViewController.system S)
    (fun c vc => Reached S width c ∧ vc = c.carouselDataSource)
    (fun c event c₁ _ hreached hstep => by
      obtain ⟨hreached, rfl⟩ := hreached
      refine ⟨_, ?_, hreached.step hwidth hstep, rfl⟩
      obtain ⟨henabled, hnext⟩ := hstep
      rcases next_cases debug hwidth hreached.coherent hreached.invariant henabled with
        ⟨-, htrap⟩ | ⟨-, c₂, hnext', hhandled, -⟩
      · exact absurd (htrap.symm.trans hnext) (by simp)
      · obtain rfl : c₁ = c₂ := Option.some.inj (hnext.symm.trans hnext')
        exact hhandled.library) ⟨h, rfl⟩
  obtain ⟨_, hcalls, -, rfl⟩ := hsimulate
  exact hcalls

/-- The indices of items that a call hands to the data source: the one displayed, and the
one behind a row of the carousel. -/
def itemIndices (numberOfItems : ℕ) : LibraryViewController.Event → List Int
  | .display index => [index]
  | .cell .banner row => [getRealIndex numberOfItems row]
  | .select .banner row => [getRealIndex numberOfItems row]
  | _ => []

/-- A call that the screen may get is about one of its banners. -/
theorem itemIndices_of_enabled {vc : LibraryViewController} (hcoherent : vc.CacheCoherent)
    {call : LibraryViewController.Event}
    (henabled : (LibraryViewController.system S).enabled vc call) {index : Int}
    (hindex : index ∈ itemIndices vc.numberOfItems call) :
    0 ≤ index ∧ index < vc.numberOfItems := by
  have hrow : ∀ {row : ℕ}, (vc.views .banner).MayQuery row →
      index = getRealIndex vc.numberOfItems row → 0 ≤ index ∧ index < vc.numberOfItems := by
    intro row hquery heq
    obtain ⟨i, hi, hreal⟩ := getRealIndex_lt ((hcoherent .banner).row_lt hquery)
    rw [heq, hreal]
    omega
  cases call with
  | display i =>
    obtain rfl := List.mem_singleton.mp hindex
    exact henabled
  | cell view row =>
    cases view with
    | banner => exact hrow henabled (List.mem_singleton.mp hindex)
    | _ => exact absurd hindex List.not_mem_nil
  | select view row =>
    cases view with
    | banner => exact hrow henabled (List.mem_singleton.mp hindex)
    | _ => exact absurd hindex List.not_mem_nil
  | fetched getConfigValue error => exact absurd hindex List.not_mem_nil
  | layout view => exact absurd hindex List.not_mem_nil

/-- Whatever happens to the carousel, it hands over indices of banners only. -/
theorem Reached.itemIndices (hwidth : 0 < width) (h : Reached S width c)
    (henabled : c.enabled width S event) {call : LibraryViewController.Event}
    (hcall : call ∈ c.dataSourceCalls debug width event) {index : Int}
    (hindex : index ∈ itemIndices c.numberOfItems call) :
    0 ≤ index ∧ index < c.numberOfItems := by
  -- A page that is told is told in a run of the screen.
  have hdisplay : ∀ page : Option Int, event ≠ .timer →
      c.dataSourceCalls debug width event = page.toList.map .display →
      0 ≤ index ∧ index < c.numberOfItems := by
    intro page hevent hcalls
    rcases next_cases debug hwidth h.coherent h.invariant henabled with
      ⟨hfails, -⟩ | ⟨-, c', -, hhandled, -⟩
    · exact absurd hfails (not_assertionFails hevent)
    · have hrun := hhandled.library
      rw [hcalls] at hcall hrun
      cases page with
      | none => exact absurd hcall List.not_mem_nil
      | some page =>
        obtain rfl := List.mem_singleton.mp hcall
        obtain ⟨_, hstep, -⟩ := EventSystem.run_cons_iff.mp hrun
        exact itemIndices_of_enabled h.coherent hstep.1 hindex
  cases event with
  | library event =>
    cases event with
    | display index => exact absurd henabled id
    | fetched getConfigValue error =>
      obtain rfl := List.mem_singleton.mp hcall
      exact absurd hindex List.not_mem_nil
    | cell view row =>
      obtain rfl := List.mem_singleton.mp hcall
      exact itemIndices_of_enabled h.coherent henabled hindex
    | select view row =>
      obtain rfl := List.mem_singleton.mp hcall
      exact itemIndices_of_enabled h.coherent henabled hindex
    | layout view =>
      cases view with
      | banner =>
        rw [dataSourceCalls] at hcall
        split at hcall
        · rename_i hfirst
          rcases List.mem_cons.mp hcall with rfl | hcall
          · obtain rfl := List.mem_singleton.mp hindex
            have hpos := hfirst.1
            rw [fakeNumberOfItems] at hpos
            split at hpos <;> omega
          · obtain rfl := List.mem_singleton.mp hcall
            exact absurd hindex List.not_mem_nil
        · obtain rfl := List.mem_singleton.mp hcall
          exact absurd hindex List.not_mem_nil
      | _ =>
        obtain rfl := List.mem_singleton.mp hcall
        exact absurd hindex List.not_mem_nil
  | timer =>
    obtain ⟨-, hrest, hasked⟩ := henabled
    by_cases hinit : c.hasInitializedFirstPage = true
    · have hshown := h.invariant.shown hinit
      rw [dataSourceCalls_timer debug hwidth hshown hrest] at hcall
      obtain rfl := List.mem_singleton.mp hcall
      obtain rfl := List.mem_singleton.mp hindex
      exact emod_bounds hshown.pos _
    · have hzero := (h.invariant.waiting (by simpa using hinit)).2.2 hasked
      rw [dataSourceCalls, hzero, if_neg (by decide)] at hcall
      exact absurd hcall List.not_mem_nil
  | willEndDragging decelerates => exact hdisplay _ (by simp) rfl
  | endDecelerating => exact hdisplay _ (by simp) rfl
  | willBeginDragging => exact absurd hcall List.not_mem_nil
  | scroll x => exact absurd hcall List.not_mem_nil
  | endScrollingAnimation => exact absurd hcall List.not_mem_nil

/-- **The carousel is a proper environment of its screen**: along every run, what it tells
its data source and asks of it, call by call, is a run of the screen on its own, which keeps
the views in step with the lists; and whatever comes next, each index it hands over, of an
item displayed, asked for or selected, is that of a banner. -/
theorem library_run (hwidth : 0 < width) (hrun : (system debug width S).Run {} events c) :
    (LibraryViewController.system S).Run {} (dataSourceCallsAlong debug width S {} events)
      c.carouselDataSource ∧
    c.carouselDataSource.CacheCoherent ∧
    ∀ event, (system debug width S).enabled c event →
      ∀ call ∈ c.dataSourceCalls debug width event, ∀ index ∈ itemIndices c.numberOfItems call,
        0 ≤ index ∧ index < c.carouselDataSource.bannerSlides.length := by
  have hreached := reached_run hwidth hrun
  refine ⟨Reached.calls_run hwidth ⟨invariant_initial, [], .nil _⟩ hrun, hreached.coherent, ?_⟩
  intro event henabled call hcall index hindex
  exact hreached.itemIndices hwidth henabled hcall hindex

/-- What can go wrong: nothing, but that with exactly one banner, in a debug build, the
timer turns the last page. -/
theorem traps_of_reached (hwidth : 0 < width) (h : Reached S width c) :
    (system debug width S).Traps c event ↔
      (system debug width S).enabled c event ∧ AssertionFails debug width c event := by
  refine and_congr_right fun henabled => ?_
  rcases next_cases debug hwidth h.coherent h.invariant henabled with
    ⟨hfails, htrap⟩ | ⟨hno, c', hnext, -⟩
  · exact iff_of_true htrap hfails
  · exact iff_of_false (fun htrap => absurd (htrap.symm.trans hnext) (by simp)) hno

/-! ### The banners of the configured text -/

/-- The text is what a successful fetch brings. -/
def Brings (text : String) : Event → Prop
  | .library (.fetched getConfigValue none) => getConfigValue "json_data" = text
  | _ => True

theorem bannerSlides_fetchData (getConfigValue : String → String) {banners : List Banner}
    (hbanners : DescribesBanners S (getConfigValue "json_data") banners)
    (vc : LibraryViewController) :
    (vc.fetchData S getConfigValue none).bannerSlides = banners :=
  updateList_of_describes (fun _ _ => Banner.decode_eq_ok_iff) hbanners _

/-- Whenever the text describes these banners, the screen has them or none. -/
theorem bannerSlides_step {text : String} {banners : List Banner}
    (hbanners : DescribesBanners S text banners) (hwidth : 0 < width) (h : Reached S width c)
    (hslides : c.carouselDataSource.bannerSlides = [] ∨
      c.carouselDataSource.bannerSlides = banners)
    (hstep : (system debug width S).Step c event c') (hbrings : Brings text event) :
    c'.carouselDataSource.bannerSlides = [] ∨ c'.carouselDataSource.bannerSlides = banners := by
  obtain ⟨henabled, hnext⟩ := hstep
  by_cases hfetched : ∃ getConfigValue error, event = .library (.fetched getConfigValue error)
  · obtain ⟨getConfigValue, error, rfl⟩ := hfetched
    obtain rfl := Option.some.inj hnext
    cases error with
    | some error => exact hslides
    | none =>
      obtain rfl : getConfigValue "json_data" = text := hbrings
      exact .inr (bannerSlides_fetchData getConfigValue hbanners c.carouselDataSource)
  · rcases next_cases debug hwidth h.coherent h.invariant henabled with
      ⟨-, htrap⟩ | ⟨-, c'', hnext', -, hsame⟩
    · exact absurd (htrap.symm.trans hnext) (by simp)
    · obtain rfl : c' = c'' := Option.some.inj (hnext.symm.trans hnext')
      rw [hsame fun getConfigValue error hevent => hfetched ⟨getConfigValue, error, hevent⟩]
      exact hslides

/-- The carousel with the banners of the text, on its first page. -/
def opened (width : ℚ) (S : JSONServices) (text : String) : CarouselCollectionView where
  carouselDataSource := ((({} : LibraryViewController).fetchData S (fun _ => text) none
    ).carouselDidDisplayItemAt 0).layout .banner
  contentOffset := width
  hasInitializedFirstPage := true
  fetching := false

section Opened

variable {text : String} {banners : List Banner}

theorem numberOfItems_opened (width : ℚ) (hbanners : DescribesBanners S text banners) :
    (opened width S text).numberOfItems = banners.length :=
  congrArg List.length (bannerSlides_fetchData (fun _ => text) hbanners {})

theorem run_opened (debug : Bool) (hwidth : 0 < width)
    (hbanners : DescribesBanners S text banners) (hpos : 0 < banners.length) :
    (system debug width S).Run {}
      [.library (.fetched (fun _ => text) none), .library (.layout .banner)]
      (opened width S text) := by
  refine .cons ⟨rfl, rfl⟩ (.cons ⟨trivial, ?_⟩ (.nil _))
  obtain ⟨fetched, hfetched⟩ : ∃ fetched : CarouselCollectionView, fetched =
      { carouselDataSource := ({} : LibraryViewController).fetchData S (fun _ => text) none
        fetching := false } := ⟨_, rfl⟩
  have hitems : 0 < fetched.numberOfItems := by
    rw [hfetched]
    exact hpos.trans_eq (numberOfItems_opened width hbanners).symm
  have hfirst := assignCurrentPage_first debug hwidth hitems (by rw [hfetched])
  show numberOfItemsInSection debug width _ = _
  rw [← hfetched, numberOfItemsInSection, if_pos, hfirst, hfetched]
  · rfl
  · exact ⟨by rw [fakeNumberOfItems_of_pos hitems]; omega, by rw [hfetched]⟩

/-- The carousel has been told its count. -/
theorem told_opened (width : ℚ) (S : JSONServices) (text : String) :
    (opened width S text).carouselDataSource.views .banner =
      ⟨some ((opened width S text).carouselDataSource.itemCount .banner), false⟩ := by
  simp [opened, LibraryViewController.layout, LibraryViewController.carouselDidDisplayItemAt,
    ViewCache.ask, LibraryViewController.itemCount, LibraryViewController.numberOfItems]

theorem dataSourceCallsAlong_opened (debug : Bool) (hwidth : 0 < width)
    (hbanners : DescribesBanners S text banners) (hpos : 0 < banners.length)
    (events : List Event) :
    dataSourceCallsAlong debug width S {}
        (.library (.fetched (fun _ => text) none) :: .library (.layout .banner) :: events) =
      .fetched (fun _ => text) none :: .display 0 :: .layout .banner ::
        dataSourceCallsAlong debug width S (opened width S text) events := by
  obtain ⟨c, hfetched, hrun⟩ := EventSystem.run_cons_iff.mp (run_opened debug hwidth hbanners hpos)
  have hlayout := EventSystem.run_singleton_iff.mp hrun
  rw [dataSourceCallsAlong_cons hfetched, dataSourceCallsAlong_cons hlayout]
  obtain rfl := Option.some.inj hfetched.2
  have hitems : 0 < (({} : LibraryViewController).fetchData S (fun _ => text) none).numberOfItems :=
    hpos.trans_eq (numberOfItems_opened width hbanners).symm
  have hfake : 0 < fakeNumberOfItems
      (({} : LibraryViewController).fetchData S (fun _ => text) none).numberOfItems := by
    rw [fakeNumberOfItems_of_pos hitems]
    omega
  have hcalls : dataSourceCalls debug width
      { carouselDataSource := ({} : LibraryViewController).fetchData S (fun _ => text) none,
        fetching := false } (.library (.layout .banner)) = [.display 0, .layout .banner] :=
    if_pos ⟨hfake, rfl⟩
  exact congrArg (_ :: ·) (congrArg (· ++ _) hcalls)

/-- An animation comes to its end. -/
theorem run_animation (debug : Bool) (hwidth : 0 < width) (target : ℚ)
    (hpos : 0 < c.numberOfItems) (hmotion : c.motion = .animating target)
    (hstart : c.contentOffset ≤ target) (hlower : 0 < target)
    (hupper : target ≤ width * (c.numberOfItems + 1)) :
    (system debug width S).Run c [.scroll target, .endScrollingAnimation]
      { c with contentOffset := target, autoscrollTimer := true, motion := .rest } := by
  have hscrolled : (system debug width S).Step c (.scroll target)
      { c with contentOffset := target, autoscrollTimer := true } := by
    refine ⟨?_, ?_⟩
    · show c.MayScroll width target
      rw [MayScroll, hmotion]
      exact ⟨hstart, le_rfl⟩
    · show didScroll width { c with contentOffset := target } = _
      rw [didScroll_eq (c := { c with contentOffset := target }) hwidth hpos]
      show some { c with
        contentOffset := looped width c.numberOfItems target, autoscrollTimer := true } = _
      rw [looped_of_bounds hwidth hlower hupper]
  exact .cons hscrolled (.cons ⟨hmotion, rfl⟩ (.nil _))

/-- A turn of the timer, with its animation, up to the next page. -/
theorem exists_turn (debug : Bool) (hwidth : 0 < width) (h : Reached S width c)
    (hinit : c.hasInitializedFirstPage = true) (hrest : c.motion = .rest) {page : ℕ}
    (hpage : c.contentOffset = width * page) (hsafe : ¬ AssertionFails debug width c .timer) :
    ∃ c', (system debug width S).Run c [.timer,
        .scroll (width * nextPage c.numberOfItems page), .endScrollingAnimation] c' ∧
      Reached S width c' ∧ c'.hasInitializedFirstPage = true ∧ c'.motion = .rest ∧
      c'.contentOffset = width * nextPage c.numberOfItems page ∧
      c'.carouselDataSource = c.carouselDataSource.carouselDidDisplayItemAt
        ((c.carouselDataSource.currentPage + 1) % c.numberOfItems) := by
  have hshown := h.invariant.shown hinit
  rcases timer_cases S debug hwidth hshown hrest with
    ⟨hdebug, hone, hlast, -⟩ | ⟨-, c₁, hnext, hshown₁, hinit₁, -, hlibrary, page', hpage', hmotion⟩
  · exact absurd ⟨rfl, hdebug, hone, hlast⟩ hsafe
  have heq : (page' : ℚ) = page := mul_left_cancel₀ hwidth.ne' (hpage'.symm.trans hpage)
  obtain rfl : page' = page := by exact_mod_cast heq
  have hturn : (system debug width S).Step c .timer c₁ :=
    ⟨⟨hshown.autoscrollTimer, hrest, hshown.asked⟩, hnext⟩
  obtain ⟨p, -, hlast, htarget, hle, -⟩ := hshown₁.animating _ hmotion
  have hupper : width * ((p : ℚ) + 1) ≤ width * (c₁.numberOfItems + 1) := by
    have hcast : (p : ℚ) + 1 ≤ c₁.numberOfItems + 1 := by exact_mod_cast Nat.succ_le_succ hlast
    exact mul_le_mul_of_nonneg_left hcast hwidth.le
  have hanimation := run_animation (S := S) debug hwidth _ hshown₁.pos hmotion hle
    (hshown₁.lower.trans_le hle) (htarget ▸ hupper)
  have hrun := EventSystem.Run.cons hturn hanimation
  exact ⟨_, hrun, hrun.invariant (fun _ _ _ h hstep => h.step hwidth hstep) h,
    hinit₁.trans hinit, rfl, rfl, hlibrary⟩

/-- With one banner, two turns of the timer lead to the failing assertion. -/
theorem exists_assertionFails (hwidth : 0 < width) (hbanners : DescribesBanners S text banners)
    (hone : banners.length = 1) :
    ∃ events c, ((system true width S).restrict fun _ => Brings text).Run {} events c ∧
      (system true width S).enabled c .timer ∧ AssertionFails true width c .timer := by
  have hopened := run_opened true hwidth hbanners (by omega)
  have hitems : (opened width S text).numberOfItems = 1 :=
    (numberOfItems_opened width hbanners).trans hone
  have hoffset : (opened width S text).contentOffset = width * (1 : ℕ) := by
    rw [Nat.cast_one, mul_one]
    rfl
  -- The timer turns the first page, and the animation comes to the last one.
  have hsafe : ¬ AssertionFails true width (opened width S text) .timer := by
    rintro ⟨-, -, -, hlast⟩
    rw [hoffset, mul_right_inj' hwidth.ne'] at hlast
    exact absurd hlast (by norm_num)
  obtain ⟨c, hturn, hreached, hinit, hrest, hlast, hlibrary⟩ :=
    exists_turn true hwidth (reached_run hwidth hopened) rfl rfl hoffset hsafe
  have hshown := hreached.invariant.shown hinit
  have hitems' : c.numberOfItems = 1 := by
    rw [numberOfItems, hlibrary]
    exact hitems
  refine ⟨_, c, (EventSystem.run_append_iff.mpr ⟨_, hopened, hturn⟩).restrict
    fun event hevent _ => ?_, ⟨hshown.autoscrollTimer, hrest, hshown.asked⟩, rfl, rfl, hitems', ?_⟩
  · simp only [List.cons_append, List.nil_append, List.mem_cons, List.not_mem_nil, or_false]
      at hevent
    rcases hevent with rfl | rfl | rfl | rfl | rfl
    · exact rfl
    all_goals exact trivial
  · rw [hlast, hitems]
    norm_num [nextPage]

end Opened

/-- A payload with one banner. -/
def oneBanner : String :=
  "\x7b\"top_banner_slides\":[\x7b\"id\":1,\"book_id\":7,\"cover\":\"c\"\x7d]\x7d"

def oneBannerServices : JSONServices :=
  .exactOn oneBanner (.object [("top_banner_slides", .array [.object
    [("id", .number (1 : Int)), ("book_id", .number (7 : Int)), ("cover", .string "c")]])])

theorem describesBanners_oneBanner :
    DescribesBanners oneBannerServices oneBanner [⟨1, 7, "c"⟩] := by
  have hobject : oneBannerServices.jsonObject oneBanner.toUTF8 = some _ :=
    JSONServices.exactOn_jsonObject oneBanner _
  refine ⟨_, [[("id", .number (1 : Int)), ("book_id", .number (7 : Int)),
    ("cover", .string "c")]], hobject, rfl, .cons ?_ .nil⟩
  exact ⟨⟨rfl, by decide⟩, ⟨rfl, by decide⟩, rfl⟩

/-! ### Two banners -/

/-- The carousel on the first of its two banners. -/
def openedTwo : CarouselCollectionView :=
  opened 320 LibraryViewController.fourBooksServices LibraryViewController.fourBooks

theorem run_openedTwo : (system true 320 LibraryViewController.fourBooksServices).Run {}
    [.library (.fetched (fun _ => LibraryViewController.fourBooks) none),
      .library (.layout .banner)] openedTwo :=
  run_opened true (by norm_num) LibraryViewController.describesBanners_fourBooks (by decide)

theorem numberOfItems_openedTwo : openedTwo.numberOfItems = 2 :=
  numberOfItems_opened 320 LibraryViewController.describesBanners_fourBooks

theorem contentOffset_openedTwo : openedTwo.contentOffset = 320 * ((1 : ℕ) : ℚ) := by
  norm_num [openedTwo, opened]

/-- The timer turns from one of the two banners to the other. -/
theorem exists_turn_two {c : CarouselCollectionView}
    (h : Reached LibraryViewController.fourBooksServices 320 c)
    (hinit : c.hasInitializedFirstPage = true) (hrest : c.motion = .rest)
    (htwo : c.numberOfItems = 2) {page : ℕ} (hpage : c.contentOffset = 320 * page) :
    ∃ c', (system true 320 LibraryViewController.fourBooksServices).Run c
        [.timer, .scroll (320 * nextPage 2 page), .endScrollingAnimation] c' ∧
      Reached LibraryViewController.fourBooksServices 320 c' ∧
      c'.hasInitializedFirstPage = true ∧ c'.motion = .rest ∧ c'.numberOfItems = 2 ∧
      c'.contentOffset = 320 * nextPage 2 page ∧
      c'.carouselDataSource = c.carouselDataSource.carouselDidDisplayItemAt
        ((c.carouselDataSource.currentPage + 1) % 2) := by
  have hsafe : ¬ AssertionFails true 320 c .timer := by
    rintro ⟨-, -, hone, -⟩
    omega
  obtain ⟨c', hturn, hreached, hinit', hrest', hoffset, hlibrary⟩ :=
    exists_turn true (by norm_num) h hinit hrest hpage hsafe
  rw [htwo] at hturn hoffset hlibrary
  have htwo' : c'.numberOfItems = 2 := by
    rw [numberOfItems, hlibrary]
    exact htwo
  exact ⟨c', hturn, hreached, hinit', hrest', htwo', hoffset, hlibrary⟩

/-- A cell that the screen can be asked for, the carousel can be asked for. -/
theorem step_library_cell (debug : Bool) (width : ℚ) {row : ℕ}
    (h : (LibraryViewController.system S).Step c.carouselDataSource (.cell .banner row)
      c.carouselDataSource) :
    (system debug width S).Step c (.library (.cell .banner row)) c :=
  ⟨h.1, Option.map_eq_some_iff.mpr ⟨_, h.2, rfl⟩⟩

theorem step_library_select (debug : Bool) (width : ℚ) {row : ℕ}
    (h : (LibraryViewController.system S).Step c.carouselDataSource (.select .banner row)
      c.carouselDataSource) :
    (system debug width S).Step c (.library (.select .banner row)) c :=
  ⟨h.1, Option.map_eq_some_iff.mpr ⟨_, h.2, rfl⟩⟩

/-- Two banners: the last row, which shows the first one again, is asked for, the timer
turns the page, and the second banner is selected. -/
theorem library_run_turn : ∃ c : CarouselCollectionView,
    (system true 320 LibraryViewController.fourBooksServices).Run {}
        [.library (.fetched (fun _ => LibraryViewController.fourBooks) none),
          .library (.layout .banner), .library (.cell .banner 3), .timer, .scroll 640,
          .endScrollingAnimation, .library (.select .banner 2)] c ∧
      (LibraryViewController.system LibraryViewController.fourBooksServices).Run {}
        [.fetched (fun _ => LibraryViewController.fourBooks) none, .display 0, .layout .banner,
          .cell .banner 3, .display 1, .select .banner 2] c.carouselDataSource ∧
      c.carouselDataSource.currentPage = 1 ∧ c.carouselDataSource.CacheCoherent ∧
      ∀ event, (system true 320 LibraryViewController.fourBooksServices).enabled c event →
        ∀ call ∈ c.dataSourceCalls true 320 event, ∀ index ∈ itemIndices c.numberOfItems call,
          0 ≤ index ∧ index < 2 := by
  have hreached := reached_run (by norm_num) run_openedTwo
  obtain ⟨c, hturn, -, -, -, htwo, -, hlibrary⟩ := exists_turn_two hreached rfl rfl
    numberOfItems_openedTwo contentOffset_openedTwo
  have hsecond : (320 : ℚ) * nextPage 2 1 = 640 := by norm_num [nextPage]
  rw [hsecond] at hturn
  have hcell : (system true 320 LibraryViewController.fourBooksServices).Step openedTwo
      (.library (.cell .banner 3)) openedTwo := by
    refine step_library_cell true 320
      (LibraryViewController.step_cell_of_lt _ (told_opened 320 _ _) ?_)
    show 3 < fakeNumberOfItems openedTwo.numberOfItems
    rw [numberOfItems_openedTwo]
    decide
  have hselect : (system true 320 LibraryViewController.fourBooksServices).Step c
      (.library (.select .banner 2)) c := by
    refine step_library_select true 320 (LibraryViewController.step_select_of_lt _ ?_ ?_)
    · rw [hlibrary, LibraryViewController.carouselDidDisplayItemAt_views,
        LibraryViewController.carouselDidDisplayItemAt_itemCount]
      exact told_opened 320 _ _
    · show 2 < fakeNumberOfItems c.numberOfItems
      rw [htwo]
      decide
  have hrun := EventSystem.run_append_iff.mpr ⟨_, run_openedTwo,
    EventSystem.Run.cons hcell (EventSystem.run_append_iff.mpr ⟨_, hturn,
      EventSystem.run_singleton_iff.mpr hselect⟩)⟩
  -- The calls of the turn, and those around it.
  obtain ⟨c₁, htimer, hanimation⟩ := EventSystem.run_cons_iff.mp hturn
  have hturned : openedTwo.dataSourceCalls true 320 .timer = [.display 1] := by
    rw [dataSourceCalls_timer true (by norm_num) (hreached.invariant.shown rfl) rfl,
      numberOfItems_openedTwo]
    rfl
  obtain ⟨c₂, hscroll, hend⟩ := EventSystem.run_cons_iff.mp hanimation
  have hend := EventSystem.run_singleton_iff.mp hend
  have hlater : dataSourceCallsAlong true 320 LibraryViewController.fourBooksServices openedTwo
      [.library (.cell .banner 3), .timer, .scroll 640, .endScrollingAnimation,
        .library (.select .banner 2)] = [.cell .banner 3, .display 1, .select .banner 2] := by
    rw [dataSourceCallsAlong_cons hcell, dataSourceCallsAlong_cons htimer, hturned,
      dataSourceCallsAlong_cons hscroll, dataSourceCallsAlong_cons hend,
      dataSourceCallsAlong_cons hselect]
    rfl
  have hopened := dataSourceCallsAlong_opened true (by norm_num : (0 : ℚ) < 320)
    LibraryViewController.describesBanners_fourBooks (by decide)
    [.library (.cell .banner 3), .timer, .scroll 640, .endScrollingAnimation,
      .library (.select .banner 2)]
  obtain ⟨hcalls, hcoherent, hindices⟩ := library_run (by norm_num) hrun
  refine ⟨c, hrun, ?_, by rw [hlibrary]; rfl, hcoherent, fun event henabled call hcall index
    hindex => ?_⟩
  · rw [← hlater]
    exact hopened ▸ hcalls
  · have hlength : (c.carouselDataSource.bannerSlides.length : Int) = 2 := by exact_mod_cast htwo
    exact hlength ▸ hindices event henabled call hcall index hindex

/-- **When the carousel is safe.**  For a text that describes these banners, no run in
which the fetch brings it traps, exactly unless there is one banner and assertions are
checked. -/
theorem carousel_safe_iff {text : String} {banners : List Banner} (hwidth : 0 < width)
    (hbanners : DescribesBanners S text banners) :
    (∀ events c event, ((system debug width S).restrict fun _ => Brings text).Run {} events c →
      ¬ (system debug width S).Traps c event) ↔
      ¬ (debug = true ∧ banners.length = 1) := by
  constructor
  · rintro hsafe ⟨rfl, hone⟩
    obtain ⟨events, c, hrun, henabled, hfails⟩ := exists_assertionFails hwidth hbanners hone
    exact hsafe events c .timer hrun
      ((traps_of_reached hwidth (reached_run hwidth hrun.of_restrict)).mpr ⟨henabled, hfails⟩)
  · intro hno events c event hrun htraps
    have hslides := hrun.invariant
      (I := fun c => Reached S width c ∧ (c.carouselDataSource.bannerSlides = [] ∨
        c.carouselDataSource.bannerSlides = banners))
      (fun _ _ _ h hstep => by
        obtain ⟨hstep, hbrings⟩ := EventSystem.step_restrict_iff.mp hstep
        exact ⟨h.1.step hwidth hstep, bannerSlides_step hbanners hwidth h.1 h.2 hstep hbrings⟩)
      ⟨⟨invariant_initial, [], .nil _⟩, .inl rfl⟩
    obtain ⟨hreached, hslides⟩ := hslides
    obtain ⟨-, -, hdebug, hone, -⟩ := (traps_of_reached hwidth hreached).mp htraps
    have hlength : c.carouselDataSource.bannerSlides.length = 1 := hone
    rcases hslides with hnil | hall
    · rw [hnil] at hlength
      exact absurd hlength (by simp)
    · exact hno ⟨hdebug, by rw [← hall]; exact hlength⟩

/-- One banner, in a debug build and in any other. -/
theorem carousel_safe_iff_one :
    (∀ events c event, ((system true 320 oneBannerServices).restrict
        fun _ => Brings oneBanner).Run {} events c →
      ¬ (system true 320 oneBannerServices).Traps c event) ↔
      ¬ (true = true ∧ ([⟨1, 7, "c"⟩] : List Banner).length = 1) :=
  carousel_safe_iff (by norm_num) describesBanners_oneBanner

/-- **The page control has the banner that fills the view**, whenever the carousel rests:
it rests on a page, the item in the middle of the view is the one of this page, and the
page control has the index of its banner, whose cover is in the cell. -/
theorem pageControl_at_rest (hwidth : 0 < width)
    (hrun : (system debug width S).Run {} events c) (hinit : c.hasInitializedFirstPage = true)
    (hrest : c.motion = .rest) :
    ∃ (page : ℕ) (banner : Banner), c.contentOffset = width * page ∧
      c.indexPathForItem width = some (page : Int) ∧
      c.carouselDataSource.currentPage = getRealIndex c.numberOfItems page ∧
      Swift.subscript c.carouselDataSource.bannerSlides c.carouselDataSource.currentPage =
        some banner ∧
      c.carouselDataSource.carouselCellForItemAt (getRealIndex c.numberOfItems page) =
        some banner.cover := by
  have hshown := (reached_run hwidth hrun).invariant.shown hinit
  obtain ⟨page, hfirst, hlast, hoffset, hcurrent⟩ := hshown.rest hrest
  obtain ⟨row, hrow, hindex, hpage⟩ := indexPathForItem_eq hwidth hshown.pos hshown.told
    hshown.lower hshown.upper
  obtain rfl := hpage page hoffset
  obtain ⟨i, hi, hreal⟩ := getRealIndex_lt hrow
  obtain ⟨banner, hbanner, hcell, -⟩ := c.carouselDataSource.showsBanners.item i hi
  refine ⟨row, banner, hoffset, hindex, hcurrent, ?_, ?_⟩
  · rw [hcurrent, hreal, Swift.subscript_natCast, hbanner]
  · rw [hreal, hcell]

/-- After a turn of the timer, the second of two banners. -/
theorem pageControl_at_rest_second : ∃ c : CarouselCollectionView,
    (system true 320 LibraryViewController.fourBooksServices).Run {}
        [.library (.fetched (fun _ => LibraryViewController.fourBooks) none),
          .library (.layout .banner), .timer, .scroll 640, .endScrollingAnimation] c ∧
      c.contentOffset = 640 ∧ c.carouselDataSource.currentPage = 1 ∧
      ∃ (page : ℕ) (banner : Banner), c.contentOffset = 320 * page ∧
        c.indexPathForItem 320 = some (page : Int) ∧
        c.carouselDataSource.currentPage = getRealIndex c.numberOfItems page ∧
        Swift.subscript c.carouselDataSource.bannerSlides c.carouselDataSource.currentPage =
          some banner ∧
        c.carouselDataSource.carouselCellForItemAt (getRealIndex c.numberOfItems page) =
          some banner.cover := by
  have hreached := reached_run (by norm_num) run_openedTwo
  obtain ⟨c, hturn, -, hinit, hrest, -, hoffset, hlibrary⟩ := exists_turn_two hreached rfl rfl
    numberOfItems_openedTwo contentOffset_openedTwo
  have hnext : (320 : ℚ) * nextPage 2 1 = 640 := by norm_num [nextPage]
  rw [hnext] at hturn hoffset
  have hrun := EventSystem.run_append_iff.mpr ⟨_, run_openedTwo, hturn⟩
  refine ⟨c, hrun, hoffset, ?_, pageControl_at_rest (by norm_num) hrun hinit hrest⟩
  rw [hlibrary]
  rfl

/-! ### Left alone -/

/-- Nobody drags, and no drag is still under way. -/
def Event.Unattended : Event → Prop
  | .willBeginDragging => False
  | .willEndDragging _ => False
  | .endDecelerating => False
  | _ => True

/-- The turns of the timer. -/
def Event.turns : Event → ℕ
  | .timer => 1
  | _ => 0

/-- The carousel left alone. -/
def Unattended (debug : Bool) (width : ℚ) (S : JSONServices) :
    EventSystem CarouselCollectionView Event :=
  (system debug width S).restrict fun _ event => event.Unattended

/-- Only the timer goes to another banner, and it goes to the next one. -/
theorem currentPage_step (hwidth : 0 < width) (h : Reached S width c)
    (hinit : c.hasInitializedFirstPage = true)
    (hstep : (Unattended debug width S).Step c event c') :
    c'.hasInitializedFirstPage = true ∧ c'.numberOfItems = c.numberOfItems ∧
      c'.carouselDataSource.currentPage =
        (c.carouselDataSource.currentPage + event.turns) % c.numberOfItems := by
  obtain ⟨⟨henabled, hnext⟩, hevent⟩ := EventSystem.step_restrict_iff.mp hstep
  have hshown := h.invariant.shown hinit
  -- No turn, no other banner.
  have hsame : c.carouselDataSource.currentPage =
      (c.carouselDataSource.currentPage + (0 : ℕ)) % c.numberOfItems := by
    rw [Nat.cast_zero, add_zero, Int.emod_eq_of_lt hshown.current.1 hshown.current.2]
  cases event with
  | timer =>
    obtain ⟨-, hrest, -⟩ := henabled
    rcases timer_cases S debug hwidth hshown hrest with
      ⟨-, -, -, htrap⟩ | ⟨-, c'', hnext', -, hinit', -, hlibrary, -⟩
    · exact absurd (htrap.symm.trans hnext) (by simp)
    · obtain rfl : c' = c'' := Option.some.inj (hnext.symm.trans hnext')
      refine ⟨hinit'.trans hinit, ?_, ?_⟩
      · show c'.carouselDataSource.numberOfItems = _
        rw [hlibrary]
        rfl
      · rw [hlibrary]
        rfl
  | scroll x =>
    obtain ⟨c'', hnext', -, hinit', hlibrary⟩ := handled_scroll (S := S) hwidth h.invariant henabled
    obtain rfl : c' = c'' := Option.some.inj (hnext.symm.trans hnext')
    refine ⟨hinit'.trans hinit, ?_, ?_⟩
    · show c'.carouselDataSource.numberOfItems = _
      rw [hlibrary]
      rfl
    · rw [hlibrary]
      exact hsame
  | endScrollingAnimation =>
    obtain rfl := Option.some.inj hnext
    exact ⟨hinit, rfl, hsame⟩
  | willBeginDragging => exact absurd hevent id
  | willEndDragging decelerates => exact absurd hevent id
  | endDecelerating => exact absurd hevent id
  | library event =>
    cases event with
    | fetched getConfigValue error =>
      exact absurd ((h.invariant.answered hshown.pos).symm.trans henabled) (by simp)
    | display index => exact absurd henabled id
    | cell view row =>
      obtain ⟨vc, hvc, rfl⟩ := Option.map_eq_some_iff.mp hnext
      rw [LibraryViewController.eq_of_queryCell hvc]
      exact ⟨hinit, rfl, hsame⟩
    | select view row =>
      obtain ⟨vc, hvc, rfl⟩ := Option.map_eq_some_iff.mp hnext
      rw [LibraryViewController.eq_of_querySelect hvc]
      exact ⟨hinit, rfl, hsame⟩
    | layout view =>
      cases view with
      | banner =>
        obtain ⟨c'', hnext', -, hslides, hframe⟩ :=
          handled_layout (S := S) debug hwidth h.invariant
        obtain rfl : c' = c'' := Option.some.inj (hnext.symm.trans hnext')
        obtain ⟨hinit', hcurrent⟩ := hframe hinit
        exact ⟨hinit', congrArg List.length hslides, hcurrent.trans hsame⟩
      | newArrivals =>
        obtain rfl := Option.some.inj hnext
        exact ⟨hinit, rfl, hsame⟩
      | romance =>
        obtain rfl := Option.some.inj hnext
        exact ⟨hinit, rfl, hsame⟩
      | fantasy =>
        obtain rfl := Option.some.inj hnext
        exact ⟨hinit, rfl, hsame⟩
      | science =>
        obtain rfl := Option.some.inj hnext
        exact ⟨hinit, rfl, hsame⟩

/-- **Left alone, the carousel goes round**: the timer is scheduled again and again, and
after `n` turns the page control is `n` banners further on, counted round. -/
theorem autoscroll_run (hwidth : 0 < width) (hrun : (system debug width S).Run {} events c)
    (hinit : c.hasInitializedFirstPage = true) {later : List Event}
    (hlater : (Unattended debug width S).Run c later c') :
    c'.autoscrollTimer = true ∧ c'.carouselDataSource.currentPage =
      (c.carouselDataSource.currentPage + (later.map Event.turns).sum) % c.numberOfItems := by
  have h := reached_run hwidth hrun
  clear hrun
  induction hlater with
  | nil =>
    have hshown := h.invariant.shown hinit
    refine ⟨hshown.autoscrollTimer, ?_⟩
    rw [List.map_nil, List.sum_nil, Nat.cast_zero, add_zero,
      Int.emod_eq_of_lt hshown.current.1 hshown.current.2]
  | @cons c c₁ c' event later hstep _ ih =>
    obtain ⟨hinit₁, hitems, hcurrent⟩ := currentPage_step hwidth h hinit hstep
    obtain ⟨htimer, hlast⟩ := ih hinit₁ (h.step hwidth (EventSystem.step_restrict_iff.mp hstep).1)
    refine ⟨htimer, ?_⟩
    rw [hlast, hcurrent, hitems, Int.emod_add_emod, List.map_cons, List.sum_cons, Nat.cast_add,
      add_assoc]

/-- Three turns, with two banners: past the last one, and on to it again. -/
theorem autoscroll_run_three : ∃ c, (Unattended true 320
      LibraryViewController.fourBooksServices).Run openedTwo
      [.timer, .scroll 640, .endScrollingAnimation, .timer, .scroll 960, .endScrollingAnimation,
        .timer, .scroll 640, .endScrollingAnimation] c ∧
    c.autoscrollTimer = true ∧ c.carouselDataSource.currentPage = 1 := by
  have hreached := reached_run (by norm_num) run_openedTwo
  obtain ⟨c₁, hturn₁, hreached₁, hinit₁, hrest₁, htwo₁, hoffset₁, -⟩ := exists_turn_two hreached
    rfl rfl numberOfItems_openedTwo contentOffset_openedTwo
  obtain ⟨c₂, hturn₂, hreached₂, hinit₂, hrest₂, htwo₂, hoffset₂, -⟩ :=
    exists_turn_two hreached₁ hinit₁ hrest₁ htwo₁ hoffset₁
  obtain ⟨c₃, hturn₃, -⟩ := exists_turn_two hreached₂ hinit₂ hrest₂ htwo₂ hoffset₂
  have hsecond : (320 : ℚ) * nextPage 2 1 = 640 := by norm_num [nextPage]
  have hthird : (320 : ℚ) * nextPage 2 (nextPage 2 1) = 960 := by norm_num [nextPage]
  have hback : (320 : ℚ) * nextPage 2 (nextPage 2 (nextPage 2 1)) = 640 := by norm_num [nextPage]
  rw [hsecond] at hturn₁
  rw [hthird] at hturn₂
  rw [hback] at hturn₃
  have hlater := EventSystem.run_append_iff.mpr ⟨_, hturn₁,
    EventSystem.run_append_iff.mpr ⟨_, hturn₂, hturn₃⟩⟩
  have halone := hlater.restrict (C := fun _ event => event.Unattended) fun event hevent _ => by
    simp only [List.cons_append, List.nil_append, List.mem_cons, List.not_mem_nil, or_false]
      at hevent
    rcases hevent with rfl | rfl | rfl | rfl | rfl | rfl | rfl | rfl | rfl <;> exact trivial
  obtain ⟨htimer, hcurrent⟩ := autoscroll_run (by norm_num) run_openedTwo rfl halone
  rw [numberOfItems_openedTwo] at hcurrent
  exact ⟨c₃, halone, htimer, hcurrent⟩

end Runs

end CarouselCollectionView

end HolyWater
