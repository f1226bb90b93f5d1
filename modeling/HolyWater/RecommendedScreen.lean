/-
The Recommended screen.

The screen opens with the index of the selected page, fetches its lists, asks
the paging layout to go to that page, and from then on follows the offset of the
carousel; each page it comes to fades the seven labels out, and in again with
the new texts once the fade-out has completed.

* `RecommendedViewController` — the screen, with the fade-outs in flight and the
  books `updateBookInfo` was called with;
* `fetchData_none`, `pageReached_eq`, `scrolled_cases` — what a handler does, on
  all of its ways through;
* `system` — the screen, driven by the main queue.
-/
import HolyWater.CollectionViews
import HolyWater.EventSystem
import HolyWater.Refresh
import HolyWater.Swift

namespace HolyWater

/-! ### The paging layout -/

namespace CollectionViewPagingLayout

/-- The offset `setCurrentPage` goes to: the page's own, kept inside the
content. -/
def offsetOfPage (pageSize : ℚ) (numberOfItems : ℕ) (page : Int) : ℚ :=
  min (max 0 (pageSize * page)) (numberOfItems * pageSize - pageSize)

theorem offsetOfPage_of_lt {pageSize : ℚ} {numberOfItems page : ℕ} (hsize : 0 < pageSize)
    (hpage : page < numberOfItems) :
    offsetOfPage pageSize numberOfItems page = page * pageSize := by
  have hle : (page : ℚ) + 1 ≤ numberOfItems := by exact_mod_cast hpage
  have hnonneg : 0 ≤ pageSize * page := by positivity
  rw [offsetOfPage, Int.cast_natCast, max_eq_right hnonneg, min_eq_left (by nlinarith), mul_comm]

end CollectionViewPagingLayout

/-! ### The labels -/

structure UILabel where
  text : String
  alpha : ℚ
  deriving DecidableEq, Repr, Inhabited

/-- The seven labels that follow the page. -/
structure BookLabels where
  bookName : UILabel
  authorName : UILabel
  readersCount : UILabel
  likesCount : UILabel
  quotesCount : UILabel
  genrelbl : UILabel
  summarylbl : UILabel
  deriving DecidableEq, Repr, Inhabited

namespace BookLabels

/-- The animation block of `updateBookInfo`. -/
def fadeOut (labels : BookLabels) : BookLabels :=
  { bookName := { labels.bookName with alpha := 0 }
    authorName := { labels.authorName with alpha := 0 }
    readersCount := { labels.readersCount with alpha := 0 }
    likesCount := { labels.likesCount with alpha := 0 }
    quotesCount := { labels.quotesCount with alpha := 0 }
    genrelbl := { labels.genrelbl with alpha := 0 }
    summarylbl := { labels.summarylbl with alpha := 0 } }

def setTexts (book : Carousel) (labels : BookLabels) : BookLabels :=
  { bookName := { labels.bookName with text := book.name }
    authorName := { labels.authorName with text := book.author }
    readersCount := { labels.readersCount with text := book.views }
    likesCount := { labels.likesCount with text := book.likes }
    quotesCount := { labels.quotesCount with text := book.quotes }
    genrelbl := { labels.genrelbl with text := book.genre }
    summarylbl := { labels.summarylbl with text := book.summary } }

def fadeIn (labels : BookLabels) : BookLabels :=
  { bookName := { labels.bookName with alpha := 1 }
    authorName := { labels.authorName with alpha := 4 / 5 }
    readersCount := { labels.readersCount with alpha := 1 }
    likesCount := { labels.likesCount with alpha := 1 }
    quotesCount := { labels.quotesCount with alpha := 1 }
    genrelbl := { labels.genrelbl with alpha := 1 }
    summarylbl := { labels.summarylbl with alpha := 1 } }

/-- The labels as they show `book`. -/
def showing (book : Carousel) : BookLabels where
  bookName := ⟨book.name, 1⟩
  authorName := ⟨book.author, 4 / 5⟩
  readersCount := ⟨book.views, 1⟩
  likesCount := ⟨book.likes, 1⟩
  quotesCount := ⟨book.quotes, 1⟩
  genrelbl := ⟨book.genre, 1⟩
  summarylbl := ⟨book.summary, 1⟩

/-- The completion of a fade-out leaves nothing of what the labels were. -/
theorem fadeIn_setTexts (book : Carousel) (labels : BookLabels) :
    (labels.setTexts book).fadeIn = showing book := rfl

/-- The two books have the same texts on the labels. -/
def SameTexts (book book' : Carousel) : Prop :=
  book.name = book'.name ∧ book.author = book'.author ∧ book.views = book'.views ∧
    book.likes = book'.likes ∧ book.quotes = book'.quotes ∧ book.genre = book'.genre ∧
    book.summary = book'.summary

theorem showing_eq_iff {book book' : Carousel} :
    showing book = showing book' ↔ SameTexts book book' := by
  simp [showing, SameTexts]

end BookLabels

/-! ### The view controller -/

/-- The two collection views of the screen. -/
inductive RecommendedView where
  | youWillAlsoLike
  | carousel
  deriving DecidableEq, Repr

/-- The screen between two turns of the main queue. -/
structure RecommendedViewController where
  viewModel : RecommendedViewModel := {}
  carouselModel : List Carousel := []
  recommendedModel : List Book := []
  isViewShowedFirstly : Bool := false
  currentCellIndex : Option Int := none
  previousCellIndex : Option Int := none
  labels : BookLabels
  /-- The offset of the carousel, and whether it takes touches. -/
  contentOffset : ℚ := 0
  isUserInteractionEnabled : Bool := true
  views : RecommendedView → ViewCache := fun _ => {}
  /-- The answer to the fetch is outstanding. -/
  fetching : Bool := true
  /-- The page the layout has been asked for and has not reached. -/
  requestedPage : Option Int := none
  /-- The completions of the fade-outs in flight, in the order they were started. -/
  fadeOuts : List Carousel := []
  /-- The books `updateBookInfo` was called with, in order. -/
  shown : List Carousel := []

namespace RecommendedViewController

/-- The screen after `viewDidLoad`, with the index handed over and the labels of
the storyboard. -/
def opened (currentCellIndex : Option Int) (labels : BookLabels) : RecommendedViewController where
  currentCellIndex := currentCellIndex
  labels := { labels with authorName := { labels.authorName with alpha := 4 / 5 } }

def updateBookInfo (book : Carousel) (vc : RecommendedViewController) :
    RecommendedViewController :=
  { vc with
    labels := vc.labels.fadeOut
    fadeOuts := vc.fadeOuts ++ [book]
    shown := vc.shown ++ [book] }

/-- The completion of the fade-out at index `i` runs. -/
def fadeOutCompleted (i : ℕ) (vc : RecommendedViewController) :
    Option RecommendedViewController :=
  vc.fadeOuts[i]?.map fun book =>
    { vc with
      labels := (vc.labels.setTexts book).fadeIn
      fadeOuts := vc.fadeOuts.eraseIdx i }

def reloadData (view : RecommendedView) (vc : RecommendedViewController) :
    RecommendedViewController :=
  { vc with views := Function.update vc.views view (vc.views view).reloadData }

/-- Ask the layout for the selected page; the completion is `pageReached`. -/
def showSelectedPage (vc : RecommendedViewController) : RecommendedViewController :=
  { vc with
    isUserInteractionEnabled := false
    requestedPage := some (vc.currentCellIndex.getD 0) }

/-- The completion that `fetchData` hands to the view model. -/
def fetchCompletion (error : Option RemoteConfigError) (vc : RecommendedViewController) :
    RecommendedViewController :=
  match error with
  | some _ => vc
  | none =>
    let vc := { vc with carouselModel := vc.viewModel.carousel }
    let vc := { vc with recommendedModel := vc.viewModel.recommended }
    let vc := vc.reloadData .youWillAlsoLike
    let vc := vc.reloadData .carousel
    vc.showSelectedPage

/-- The answer to the fetch goes through the view model to the completion. -/
def fetchData (S : JSONServices) (getConfigValue : String → String)
    (error : Option RemoteConfigError) (vc : RecommendedViewController) :
    RecommendedViewController :=
  let (viewModel, error) :=
    RecommendedViewModel.fetchRemoteConfig S getConfigValue (some vc.viewModel) error
  fetchCompletion error
    { vc with viewModel := viewModel.getD vc.viewModel, fetching := false }

/-- The layout has reached the page it was asked for, and runs the completion;
`none` is the trap of the subscript. -/
def pageReached (width : ℚ) (page : Int) (vc : RecommendedViewController) :
    Option RecommendedViewController :=
  let vc := { vc with
    requestedPage := none
    contentOffset := CollectionViewPagingLayout.offsetOfPage width vc.carouselModel.length page }
  -- The layout has clamped its page; the index of the subscript is as handed over.
  match Swift.subscript vc.carouselModel (vc.currentCellIndex.getD 0) with
  | none => none
  | some book =>
    let vc := vc.updateBookInfo book
    some { vc with
      previousCellIndex := vc.currentCellIndex
      isViewShowedFirstly := true
      isUserInteractionEnabled := true }

/-- `none` is a trap: of the division by an empty width, or of the subscript. -/
def scrollViewDidScroll (width : ℚ) (scrollView : RecommendedView)
    (vc : RecommendedViewController) : Option RecommendedViewController :=
  if vc.isViewShowedFirstly then
    if scrollView = .carousel then
      if width = 0 then none
      else
        let currentIndex := Swift.truncate (vc.contentOffset / width)
        -- `currentCellIndex` is set before the subscript, `previousCellIndex` after it.
        if some currentIndex ≠ vc.previousCellIndex then
          let vc := { vc with currentCellIndex := some currentIndex }
          match Swift.subscript vc.carouselModel currentIndex with
          | none => none
          | some carousel =>
            some { vc.updateBookInfo carousel with previousCellIndex := some currentIndex }
        else some vc
    else some vc
  else some vc

/-! ### What the handlers do -/

/-- The carousel decoded by a view model that starts out empty. -/
def decodedCarousel (S : JSONServices) (getConfigValue : String → String) : List Carousel :=
  updateList S "books" Carousel.decode (getConfigValue "details_carousel") []

theorem decodedCarousel_of_describes {S : JSONServices} {getConfigValue : String → String}
    {carousel : List Carousel}
    (h : DescribesCarousel S (getConfigValue "details_carousel") carousel) :
    decodedCarousel S getConfigValue = carousel :=
  updateList_of_describes (fun _ _ => Carousel.decode_eq_ok_iff) h []

theorem decodedCarousel_of_not_describes {S : JSONServices} {getConfigValue : String → String}
    (h : ∀ carousel, ¬ DescribesCarousel S (getConfigValue "details_carousel") carousel) :
    decodedCarousel S getConfigValue = [] :=
  updateList_of_not_describes (fun _ _ => Carousel.decode_eq_ok_iff) h []

/-- A successful fetch replaces the models, asks both views to reload and the
layout for the selected page, and blocks touches until it is reached. -/
theorem fetchData_none (S : JSONServices) (getConfigValue : String → String)
    {vc : RecommendedViewController} (hempty : vc.viewModel.carousel = []) :
    ∃ recommended views, vc.fetchData S getConfigValue none = { vc with
      viewModel := ⟨decodedCarousel S getConfigValue, recommended⟩
      carouselModel := decodedCarousel S getConfigValue
      recommendedModel := recommended
      isUserInteractionEnabled := false
      views := views
      fetching := false
      requestedPage := some (vc.currentCellIndex.getD 0) } := by
  have hcarousel : ((vc.viewModel.updateCarousel S getConfigValue).updateRecommended
      S getConfigValue).carousel = decodedCarousel S getConfigValue := by
    rw [updateRecommended_carousel, decodedCarousel, ← hempty]
    rfl
  refine ⟨((vc.viewModel.updateCarousel S getConfigValue).updateRecommended
    S getConfigValue).recommended,
    ((vc.reloadData .youWillAlsoLike).reloadData .carousel).views, ?_⟩
  rw [← hcarousel]
  rfl

theorem fetchData_some (S : JSONServices) (getConfigValue : String → String)
    (error : RemoteConfigError) (vc : RecommendedViewController) :
    vc.fetchData S getConfigValue (some error) = { vc with fetching := false } := rfl

/-- A fetch by itself neither shows a page nor scrolls to one, and leaves the
labels alone. -/
theorem fetchData_frame (S : JSONServices) (getConfigValue : String → String)
    (error : Option RemoteConfigError) (vc : RecommendedViewController) :
    (vc.fetchData S getConfigValue error).isViewShowedFirstly = vc.isViewShowedFirstly ∧
      (vc.fetchData S getConfigValue error).contentOffset = vc.contentOffset ∧
      (vc.fetchData S getConfigValue error).labels = vc.labels ∧
      (vc.fetchData S getConfigValue error).fadeOuts = vc.fadeOuts ∧
      (vc.fetchData S getConfigValue error).shown = vc.shown := by
  cases error <;> exact ⟨rfl, rfl, rfl, rfl, rfl⟩

/-- The completion of `setCurrentPage` traps exactly when the subscript does. -/
theorem pageReached_eq (width : ℚ) (page : Int) (vc : RecommendedViewController) :
    vc.pageReached width page =
      (Swift.subscript vc.carouselModel (vc.currentCellIndex.getD 0)).map fun book =>
        { vc with
          requestedPage := none
          contentOffset :=
            CollectionViewPagingLayout.offsetOfPage width vc.carouselModel.length page
          labels := vc.labels.fadeOut
          fadeOuts := vc.fadeOuts ++ [book]
          shown := vc.shown ++ [book]
          previousCellIndex := vc.currentCellIndex
          isViewShowedFirstly := true
          isUserInteractionEnabled := true } := by
  rw [pageReached]
  dsimp only
  cases Swift.subscript vc.carouselModel (vc.currentCellIndex.getD 0) <;> rfl

/-- The carousel is scrolled to the offset `x`, or the other view somewhere. -/
def scrolled (width : ℚ) (scrollView : RecommendedView) (x : ℚ)
    (vc : RecommendedViewController) : Option RecommendedViewController :=
  scrollViewDidScroll width scrollView
    (if scrollView = .carousel then { vc with contentOffset := x } else vc)

/-- The page the carousel is on at the offset `x`. -/
def pageAt (width x : ℚ) : Int := Swift.truncate (x / width)

theorem scrolled_youWillAlsoLike (width x : ℚ) (vc : RecommendedViewController) :
    vc.scrolled width .youWillAlsoLike x = some vc := by
  rw [scrolled, if_neg (by simp), scrollViewDidScroll]
  simp

/-- Before the screen has been shown, the carousel scrolls and nothing else. -/
theorem scrolled_carousel_of_not_shown (width x : ℚ) {vc : RecommendedViewController}
    (h : vc.isViewShowedFirstly = false) :
    vc.scrolled width .carousel x = some { vc with contentOffset := x } := by
  rw [scrolled, if_pos rfl, scrollViewDidScroll]
  simp [h]

theorem scrolled_carousel_same {width x : ℚ} {vc : RecommendedViewController}
    (hshown : vc.isViewShowedFirstly = true) (hwidth : width ≠ 0)
    (hpage : vc.previousCellIndex = some (pageAt width x)) :
    vc.scrolled width .carousel x = some { vc with contentOffset := x } := by
  rw [scrolled, if_pos rfl, scrollViewDidScroll]
  simp [hshown, hwidth, hpage, pageAt]

/-- On a new page the book there is faded in, unless the subscript traps. -/
theorem scrolled_carousel_new {width x : ℚ} {vc : RecommendedViewController}
    (hshown : vc.isViewShowedFirstly = true) (hwidth : width ≠ 0)
    (hpage : vc.previousCellIndex ≠ some (pageAt width x)) :
    vc.scrolled width .carousel x =
      (Swift.subscript vc.carouselModel (pageAt width x)).map fun book =>
        { vc with
          contentOffset := x
          labels := vc.labels.fadeOut
          fadeOuts := vc.fadeOuts ++ [book]
          shown := vc.shown ++ [book]
          currentCellIndex := some (pageAt width x)
          previousCellIndex := some (pageAt width x) } := by
  rw [scrolled, if_pos rfl, scrollViewDidScroll]
  simp only [hshown, if_true, if_neg hwidth]
  rw [if_pos (fun h => hpage h.symm)]
  dsimp only [pageAt]
  cases Swift.subscript vc.carouselModel (Swift.truncate (x / width)) <;> rfl

/-- The ways through a scroll event: nothing happens, only the offset changes,
or the carousel has come to a new page. -/
theorem scrolled_cases {width x : ℚ} {scrollView : RecommendedView}
    {vc vc' : RecommendedViewController} (h : vc.scrolled width scrollView x = some vc') :
    vc' = vc ∨ vc' = { vc with contentOffset := x } ∨
    (vc.isViewShowedFirstly = true ∧
      ∃ book, Swift.subscript vc.carouselModel (pageAt width x) = some book ∧
        vc' = { vc with
          contentOffset := x
          labels := vc.labels.fadeOut
          fadeOuts := vc.fadeOuts ++ [book]
          shown := vc.shown ++ [book]
          currentCellIndex := some (pageAt width x)
          previousCellIndex := some (pageAt width x) }) := by
  cases scrollView with
  | youWillAlsoLike =>
    rw [scrolled_youWillAlsoLike, Option.some_inj] at h
    exact .inl h.symm
  | carousel =>
    by_cases hshown : vc.isViewShowedFirstly = true
    · by_cases hwidth : width = 0
      · -- The division traps, so the event has no successor.
        rw [scrolled, if_pos rfl, scrollViewDidScroll] at h
        simp [hshown, hwidth] at h
      by_cases hpage : vc.previousCellIndex = some (pageAt width x)
      · rw [scrolled_carousel_same hshown hwidth hpage, Option.some_inj] at h
        exact .inr (.inl h.symm)
      · rw [scrolled_carousel_new hshown hwidth hpage, Option.map_eq_some_iff] at h
        obtain ⟨book, hbook, hvc⟩ := h
        exact .inr (.inr ⟨hshown, book, hbook, hvc.symm⟩)
    · rw [scrolled_carousel_of_not_shown width x (Bool.not_eq_true _ ▸ hshown),
        Option.some_inj] at h
      exact .inr (.inl h.symm)

/-! ### Runs -/

/-- What the main queue brings: the answer to the fetch, the completion of
`setCurrentPage`, scrolling of either view, the completion of a fade-out. -/
inductive Event where
  | fetched (getConfigValue : String → String) (error : Option RemoteConfigError)
  | pageReached
  | scrolled (scrollView : RecommendedView) (x : ℚ)
  | fadeOutCompleted (i : ℕ)

/-- The screen, driven by the main queue, with a carousel `width` wide. -/
def system (S : JSONServices) (width : ℚ) : EventSystem RecommendedViewController Event where
  enabled vc
    | .fetched _ _ => vc.fetching = true
    | .pageReached => vc.requestedPage.isSome
    | .scrolled _ _ => True
    | .fadeOutCompleted i => i < vc.fadeOuts.length
  next vc
    | .fetched getConfigValue error => some (vc.fetchData S getConfigValue error)
    | .pageReached => vc.requestedPage.bind fun page => vc.pageReached width page
    | .scrolled scrollView x => vc.scrolled width scrollView x
    | .fadeOutCompleted i => vc.fadeOutCompleted i

/-- When the layout has reached its page, the book at the index handed over is
faded in. -/
theorem next_pageReached_cases {S : JSONServices} {width : ℚ} {vc vc' : RecommendedViewController}
    (hnext : (system S width).next vc .pageReached = some vc') :
    ∃ page book, vc.requestedPage = some page ∧
      Swift.subscript vc.carouselModel (vc.currentCellIndex.getD 0) = some book ∧
      vc' = { vc with
        requestedPage := none
        contentOffset :=
          CollectionViewPagingLayout.offsetOfPage width vc.carouselModel.length page
        labels := vc.labels.fadeOut
        fadeOuts := vc.fadeOuts ++ [book]
        shown := vc.shown ++ [book]
        previousCellIndex := vc.currentCellIndex
        isViewShowedFirstly := true
        isUserInteractionEnabled := true } := by
  obtain ⟨page, hrequested, hpage⟩ := Option.bind_eq_some_iff.mp hnext
  rw [pageReached_eq, Option.map_eq_some_iff] at hpage
  obtain ⟨book, hbook, hvc⟩ := hpage
  exact ⟨page, book, hrequested, hbook, hvc.symm⟩

/-- The lists change with the answer to the fetch only. -/
theorem lists_of_next {S : JSONServices} {width : ℚ} {vc vc' : RecommendedViewController}
    {event : Event} (hnext : (system S width).next vc event = some vc') :
    (∃ getConfigValue error, event = .fetched getConfigValue error) ∨
    (vc'.viewModel = vc.viewModel ∧ vc'.carouselModel = vc.carouselModel ∧
      vc'.recommendedModel = vc.recommendedModel ∧ vc'.fetching = vc.fetching) := by
  cases event with
  | fetched getConfigValue error => exact .inl ⟨getConfigValue, error, rfl⟩
  | pageReached =>
    obtain ⟨page, book, -, -, rfl⟩ := next_pageReached_cases hnext
    exact .inr ⟨rfl, rfl, rfl, rfl⟩
  | scrolled scrollView x =>
    rcases scrolled_cases hnext with rfl | rfl | ⟨-, book, -, rfl⟩
    · exact .inr ⟨rfl, rfl, rfl, rfl⟩
    · exact .inr ⟨rfl, rfl, rfl, rfl⟩
    · exact .inr ⟨rfl, rfl, rfl, rfl⟩
  | fadeOutCompleted i =>
    obtain ⟨book, -, rfl⟩ := Option.map_eq_some_iff.mp hnext
    exact .inr ⟨rfl, rfl, rfl, rfl⟩

end RecommendedViewController

end HolyWater
