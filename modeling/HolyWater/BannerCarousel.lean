/-
The carousel of banners.

`CarouselCollectionView` shows its last item before the first one and its first one
after the last, jumps from one end to the other when it is scrolled there, and turns
its pages by a timer.  It is driven by the scroll view: dragging, deceleration and
animations move the offset, and each jump calls the delegate once more.

* `didScroll_eq` — the calls end, and leave the carousel where `looped` says;
* `looped_bounds`, `looped_of_bounds` — between its ends, and where it was scrolled to
  unless that is at an end;
* `scrollToNextElement_of_page`, `scrollToNextElement_of_last` — a turn of the timer
  goes on to the next page, and from the last one to the second.
-/
import HolyWater.LibraryScreen
import HolyWater.Swift
import Mathlib.Algebra.Order.Ring.Rat
import Mathlib.Tactic.FieldSimp
import Mathlib.Tactic.NormNum
import Mathlib.Tactic.Ring

namespace HolyWater

/-- How the scroll view is moving. -/
inductive Motion where
  | rest
  | dragging
  | decelerating
  /-- On its way to an offset that was set with animation. -/
  | animating (target : ℚ)
  deriving DecidableEq, Repr

/-- The carousel, with the screen it shows the banners of. -/
structure CarouselCollectionView where
  carouselDataSource : LibraryViewController := {}
  contentOffset : ℚ := 0
  hasInitializedFirstPage : Bool := false
  /-- The timer is scheduled, as it is when the screen is set up. -/
  autoscrollTimer : Bool := true
  motion : Motion := .rest
  /-- The fetch of the screen has not been answered. -/
  fetching : Bool := true

namespace CarouselCollectionView

/-! ### The functions of the carousel -/

section Definitions

-- Whether assertions are checked; and the width of an item, which is that of the view.
variable (debug : Bool) (width : ℚ)

def numberOfItems (c : CarouselCollectionView) : ℕ := c.carouselDataSource.numberOfItems

def fakeCurrentPage (c : CarouselCollectionView) : Int := ⌈c.contentOffset / width⌉

/-- The item at the centre of the view, of those it was told of. -/
def indexPathForItem (c : CarouselCollectionView) : Option Int :=
  let row := ⌊(c.contentOffset + width / 2) / width⌋
  if 0 ≤ row ∧ row < (c.carouselDataSource.views .banner).told.getD 0 then some row else none

def currentPage (c : CarouselCollectionView) : Option Int :=
  match c.indexPathForItem width with
  | some fakeIndexPath => some (getRealIndex c.numberOfItems fakeIndexPath)
  | none => if debug then none else some 0

def notifyDatasourceOnDisplayPage (index : Int) (c : CarouselCollectionView) :
    CarouselCollectionView :=
  { c with carouselDataSource := c.carouselDataSource.carouselDidDisplayItemAt index }

def tryToStartTimer (c : CarouselCollectionView) : CarouselCollectionView :=
  { c with autoscrollTimer := true }

/-- `setFakePage` without animation: the scroll view calls its delegate when the offset
changes. -/
def setFakePage (didScroll : CarouselCollectionView → Option CarouselCollectionView)
    (fakePage : Int) (c : CarouselCollectionView) : Option CarouselCollectionView :=
  if 0 ≤ fakePage ∧ fakePage < fakeNumberOfItems c.numberOfItems then
    if width * fakePage = c.contentOffset then some c
    else didScroll { c with contentOffset := width * fakePage }
  else none

/-- `setFakePage` with animation. -/
def setFakePageAnimated (fakePage : Int) (c : CarouselCollectionView) :
    Option CarouselCollectionView :=
  if 0 ≤ fakePage ∧ fakePage < fakeNumberOfItems c.numberOfItems then
    some { c with motion := .animating (width * fakePage) }
  else none

def loopItems (didScroll : CarouselCollectionView → Option CarouselCollectionView)
    (c : CarouselCollectionView) : Option CarouselCollectionView :=
  let page := c.fakeCurrentPage width
  if page = 0 then c.setFakePage width didScroll (fakeNumberOfItems c.numberOfItems - 2)
  else if page = fakeNumberOfItems c.numberOfItems then c.setFakePage width didScroll 1
  else some c

/-- A jump calls the delegate again, at most `depth` deep. -/
def scrollViewDidScroll : ℕ → CarouselCollectionView → Option CarouselCollectionView
  | 0, _ => none
  | depth + 1, c => (c.loopItems width (scrollViewDidScroll depth)).map tryToStartTimer

/-- The call after a jump does not jump. -/
def didScroll (c : CarouselCollectionView) : Option CarouselCollectionView :=
  scrollViewDidScroll width 2 c

def scrollToNextElement (c : CarouselCollectionView) : Option CarouselCollectionView :=
  if 0 < fakeNumberOfItems c.numberOfItems then
    if c.fakeCurrentPage width = fakeNumberOfItems c.numberOfItems - 1 then do
      let c ← c.setFakePage width (didScroll width) 1
      let newPageRealIndex :=
        if c.fakeCurrentPage width < c.numberOfItems then c.fakeCurrentPage width else 0
      if debug ∧ newPageRealIndex ≠ 1 then none
      else do
        let c ← c.setFakePageAnimated width (c.fakeCurrentPage width + 1)
        some (c.tryToStartTimer.notifyDatasourceOnDisplayPage newPageRealIndex)
    else do
      let newPageRealIndex :=
        if c.fakeCurrentPage width < c.numberOfItems then c.fakeCurrentPage width else 0
      let c ← c.setFakePageAnimated width (c.fakeCurrentPage width + 1)
      some (c.tryToStartTimer.notifyDatasourceOnDisplayPage newPageRealIndex)
  else some c

def scrollViewDidEndDecelerating (c : CarouselCollectionView) : Option CarouselCollectionView := do
  let c ← c.loopItems width (didScroll width)
  let page ← c.currentPage debug width
  some (c.notifyDatasourceOnDisplayPage page)

def scrollViewWillEndDragging (c : CarouselCollectionView) : Option CarouselCollectionView := do
  let page ← c.currentPage debug width
  some (c.notifyDatasourceOnDisplayPage page)

/-- `currentPage` is set. -/
def assignCurrentPage (newValue : Int) (c : CarouselCollectionView) :
    Option CarouselCollectionView :=
  if debug ∧ ¬ (0 ≤ newValue ∧ newValue < c.numberOfItems) then none
  else do
    let c ← c.setFakePage width (didScroll width) (newValue + 1)
    some (c.notifyDatasourceOnDisplayPage newValue)

/-- The carousel is asked for its count, which the screen has told by then, and shows
the first page when it is asked the first time. -/
def numberOfItemsInSection (c : CarouselCollectionView) : Option CarouselCollectionView := do
  let c ←
    if 0 < fakeNumberOfItems c.numberOfItems ∧ c.hasInitializedFirstPage = false then do
      let c ← c.assignCurrentPage debug width 0
      some { c with hasInitializedFirstPage := true }
    else some c
  some { c with carouselDataSource := c.carouselDataSource.layout .banner }

/-! ### Runs -/

inductive Event where
  | library (event : LibraryViewController.Event)
  | timer
  | willBeginDragging
  | scroll (x : ℚ)
  | willEndDragging (decelerates : Bool)
  | endDecelerating
  | endScrollingAnimation

/-- A page fills the view. -/
def OnPage (c : CarouselCollectionView) : Prop :=
  ∃ page : Int, c.contentOffset = width * page

/-- Where the scroll view may move to: a drag and the deceleration after it bounce by
less than a page, and an animation goes forward to its end. -/
def MayScroll (x : ℚ) (c : CarouselCollectionView) : Prop :=
  match c.motion with
  | .rest => False
  | .animating target => c.contentOffset ≤ x ∧ x ≤ target
  | _ => -width < x ∧ x < width * (c.numberOfItems + 2)

/-- The timer is not run while the view is tracked, and not before the view has asked
for its count when it is due to. -/
def enabled (S : JSONServices) (c : CarouselCollectionView) : Event → Prop
  | .library (.fetched _ _) => c.fetching = true
  | .library (.display _) => False
  | .library event => (LibraryViewController.system S).enabled c.carouselDataSource event
  | .timer => c.autoscrollTimer = true ∧ c.motion = .rest ∧
      (c.carouselDataSource.views .banner).needsReload = false
  | .willBeginDragging => c.hasInitializedFirstPage = true
  | .scroll x => c.MayScroll width x
  | .willEndDragging decelerates => c.motion = .dragging ∧ (decelerates = false → c.OnPage width)
  | .endDecelerating => c.motion = .decelerating ∧ c.OnPage width
  | .endScrollingAnimation => c.motion = .animating c.contentOffset

def next (S : JSONServices) (c : CarouselCollectionView) : Event → Option CarouselCollectionView
  | .library (.layout .banner) => c.numberOfItemsInSection debug width
  | .library (.fetched getConfigValue error) => some { c with
      carouselDataSource := c.carouselDataSource.fetchData S getConfigValue error
      fetching := false }
  | .library event => ((LibraryViewController.system S).next c.carouselDataSource event).map
      fun carouselDataSource => { c with carouselDataSource := carouselDataSource }
  | .timer => ({ c with autoscrollTimer := false } : CarouselCollectionView).scrollToNextElement
      debug width
  | .willBeginDragging => some { c with motion := .dragging }
  | .scroll x => didScroll width { c with contentOffset := x }
  | .willEndDragging decelerates => (c.scrollViewWillEndDragging debug width).map fun c =>
      { c with motion := if decelerates then .decelerating else .rest }
  | .endDecelerating => (c.scrollViewDidEndDecelerating debug width).map fun c =>
      { c with motion := .rest }
  | .endScrollingAnimation => some { c with motion := .rest }

/-- What the carousel tells its data source, and asks of it, while it handles an event. -/
def dataSourceCalls (c : CarouselCollectionView) : Event → List LibraryViewController.Event
  | .library (.layout .banner) =>
    if 0 < fakeNumberOfItems c.numberOfItems ∧ c.hasInitializedFirstPage = false then
      [.display 0, .layout .banner]
    else [.layout .banner]
  | .library event => [event]
  | .timer =>
    if 0 < fakeNumberOfItems c.numberOfItems then
      -- From the last page it has gone back to the first one by then.
      let page := if c.fakeCurrentPage width = fakeNumberOfItems c.numberOfItems - 1 then 1
        else c.fakeCurrentPage width
      [.display (if page < c.numberOfItems then page else 0)]
    else []
  | .willBeginDragging => []
  | .scroll _ => []
  | .willEndDragging _ => (c.currentPage debug width).toList.map .display
  | .endDecelerating =>
    ((c.loopItems width (didScroll width)).bind
      fun c => c.currentPage debug width).toList.map .display
  | .endScrollingAnimation => []

/-- The carousel, driven by the scroll view, the timer and the main queue. -/
def system (S : JSONServices) : EventSystem CarouselCollectionView Event where
  enabled c event := c.enabled width S event
  next c event := c.next debug width S event

/-- What it tells and asks while it handles the events one after the other. -/
def dataSourceCallsAlong (S : JSONServices) :
    CarouselCollectionView → List Event → List LibraryViewController.Event :=
  (system debug width S).emitted fun c event _ => c.dataSourceCalls debug width event

end Definitions

/-! ### What the functions do -/

section Functions

variable {debug : Bool} {width : ℚ} {c c' : CarouselCollectionView}

theorem fakeNumberOfItems_of_pos {numberOfItems : ℕ} (h : 0 < numberOfItems) :
    fakeNumberOfItems numberOfItems = numberOfItems + 2 := if_pos h

/-- The offset of a page is its page. -/
theorem fakeCurrentPage_eq (hwidth : 0 < width) {page : Int}
    (hoffset : c.contentOffset = width * page) : c.fakeCurrentPage width = page := by
  rw [fakeCurrentPage, hoffset, mul_div_cancel_left₀ _ hwidth.ne', Int.ceil_intCast]

/-- The page is the last one that the offset has come to. -/
theorem fakeCurrentPage_eq_iff (hwidth : 0 < width) {page : Int} :
    c.fakeCurrentPage width = page ↔
      width * (page - 1) < c.contentOffset ∧ c.contentOffset ≤ width * page := by
  rw [fakeCurrentPage, Int.ceil_eq_iff, lt_div_iff₀ hwidth, div_le_iff₀ hwidth, mul_comm width,
    mul_comm width]

/-- Where the carousel is after it has been scrolled to `x`: at the ends it jumps. -/
def looped (width : ℚ) (numberOfItems : ℕ) (x : ℚ) : ℚ :=
  if ⌈x / width⌉ = 0 then width * numberOfItems
  else if ⌈x / width⌉ = numberOfItems + 2 then width
  else x

/-- Away from the ends nothing happens. -/
theorem loopItems_of_ne {didScroll : CarouselCollectionView → Option CarouselCollectionView}
    (hpos : 0 < c.numberOfItems) (hfirst : c.fakeCurrentPage width ≠ 0)
    (hlast : c.fakeCurrentPage width ≠ c.numberOfItems + 2) :
    c.loopItems width didScroll = some c := by
  rw [loopItems, fakeNumberOfItems_of_pos hpos]
  rw [if_neg hfirst, if_neg (by push_cast; exact hlast)]

theorem setFakePage_eq {didScroll : CarouselCollectionView → Option CarouselCollectionView}
    (hpos : 0 < c.numberOfItems) {page : Int} (hfirst : 0 ≤ page)
    (hlast : page < c.numberOfItems + 2) :
    c.setFakePage width didScroll page = if width * page = c.contentOffset then some c
      else didScroll { c with contentOffset := width * page } := by
  rw [setFakePage, fakeNumberOfItems_of_pos hpos, if_pos ⟨hfirst, by push_cast; exact hlast⟩]

/-- The call after a jump, or where there is none. -/
theorem scrollViewDidScroll_of_page (hpos : 0 < c.numberOfItems) {page : Int}
    (hfirst : 0 < page) (hlast : page < c.numberOfItems + 2)
    (hpage : c.fakeCurrentPage width = page) (depth : ℕ) :
    scrollViewDidScroll width (depth + 1) c = some c.tryToStartTimer := by
  rw [scrollViewDidScroll, loopItems_of_ne hpos (by omega) (by omega)]
  rfl

/-- A jump to another page. -/
theorem setFakePage_jump (hwidth : 0 < width) (hpos : 0 < c.numberOfItems) (page : Int)
    (hfirst : 0 < page) (hlast : page < c.numberOfItems + 2)
    (hother : c.contentOffset ≠ width * page) (depth : ℕ) :
    c.setFakePage width (scrollViewDidScroll width (depth + 1)) page =
      some { c with contentOffset := width * page, autoscrollTimer := true } := by
  rw [setFakePage_eq hpos hfirst.le hlast, if_neg hother.symm]
  exact scrollViewDidScroll_of_page (c := { c with contentOffset := width * page }) hpos
    hfirst hlast (fakeCurrentPage_eq hwidth rfl) depth

/-- A jump to the first page. -/
theorem setFakePage_first (hwidth : 0 < width) (hpos : 0 < c.numberOfItems)
    (hother : c.contentOffset ≠ width) :
    c.setFakePage width (didScroll width) 1 =
      some { c with contentOffset := width, autoscrollTimer := true } := by
  have hjump := setFakePage_jump hwidth hpos 1 (by omega) (by omega)
    (by rwa [Int.cast_one, mul_one]) 1
  rw [Int.cast_one, mul_one] at hjump
  exact hjump

/-- A jump to another page, in a scroll. -/
theorem didScroll_of_jump (hwidth : 0 < width) (hpos : 0 < c.numberOfItems) (page : Int)
    (hfirst : 0 < page) (hlast : page < c.numberOfItems + 2)
    (hother : c.contentOffset ≠ width * page)
    (hloop : ∀ didScroll, c.loopItems width didScroll = c.setFakePage width didScroll page) :
    didScroll width c =
      some { c with contentOffset := width * page, autoscrollTimer := true } := by
  rw [didScroll, scrollViewDidScroll, hloop,
    setFakePage_jump hwidth hpos page hfirst hlast hother 0]
  rfl

/-- **Scrolling never goes on for ever**: the offset may jump once, and the timer is
scheduled. -/
theorem didScroll_eq (hwidth : 0 < width) (hpos : 0 < c.numberOfItems) :
    didScroll width c = some { c with
      contentOffset := looped width c.numberOfItems c.contentOffset
      autoscrollTimer := true } := by
  have hitems : (0 : ℚ) < c.numberOfItems := by exact_mod_cast hpos
  by_cases hfirst : c.fakeCurrentPage width = 0
  · have hlooped : looped width c.numberOfItems c.contentOffset = width * c.numberOfItems :=
      if_pos hfirst
    -- The jump is a real one, so the view is scrolled again, and stays.
    have hother : c.contentOffset ≠ width * ((c.numberOfItems : Int) : ℚ) := by
      have hle := ((fakeCurrentPage_eq_iff hwidth).mp hfirst).2
      have hlt : 0 < width * (c.numberOfItems : ℚ) := mul_pos hwidth hitems
      push_cast at hle ⊢
      intro heq
      linarith
    rw [hlooped]
    refine didScroll_of_jump hwidth hpos c.numberOfItems (by omega) (by omega) hother
      fun didScroll => ?_
    rw [loopItems, if_pos hfirst, fakeNumberOfItems_of_pos hpos]
    congr 1
    omega
  · by_cases hlast : c.fakeCurrentPage width = c.numberOfItems + 2
    · have hlooped : looped width c.numberOfItems c.contentOffset = width :=
        (if_neg hfirst).trans (if_pos hlast)
      have hother : c.contentOffset ≠ width * ((1 : Int) : ℚ) := by
        have hlt := ((fakeCurrentPage_eq_iff hwidth).mp hlast).1
        push_cast at hlt ⊢
        intro heq
        have := lt_of_mul_lt_mul_left (heq ▸ hlt) hwidth.le
        linarith
      have hjump := didScroll_of_jump hwidth hpos 1 (by omega) (by omega) hother
        fun didScroll => by
          rw [loopItems, if_neg hfirst, fakeNumberOfItems_of_pos hpos,
            if_pos (by push_cast; exact hlast)]
      rw [hjump, hlooped]
      simp
    · have hlooped : looped width c.numberOfItems c.contentOffset = c.contentOffset :=
        (if_neg hfirst).trans (if_neg hlast)
      rw [didScroll, scrollViewDidScroll, loopItems_of_ne hpos hfirst hlast, hlooped]
      rfl

/-- Within its bounds, scrolling leaves the carousel between its ends. -/
theorem looped_bounds (hwidth : 0 < width) {numberOfItems : ℕ} (hpos : 0 < numberOfItems) {x : ℚ}
    (hlower : -width < x) (hupper : x < width * (numberOfItems + 2)) :
    0 < looped width numberOfItems x ∧
      looped width numberOfItems x ≤ width * (numberOfItems + 1) := by
  have hitems : (1 : ℚ) ≤ numberOfItems := by exact_mod_cast hpos
  have hmul : width * 1 ≤ width * numberOfItems := mul_le_mul_of_nonneg_left hitems hwidth.le
  rw [looped]
  split
  · constructor <;> linarith
  · rename_i hfirst
    split
    · constructor <;> linarith
    · rename_i hlast
      have hfloor : ∀ page : Int, ⌈x / width⌉ = page ↔
          width * (page - 1) < x ∧ x ≤ width * page := by
        intro page
        rw [Int.ceil_eq_iff, lt_div_iff₀ hwidth, div_le_iff₀ hwidth, mul_comm width,
          mul_comm width]
      constructor
      · by_contra hle
        refine hfirst ((hfloor 0).mpr ⟨?_, ?_⟩) <;> push_cast <;> linarith
      · by_contra hgt
        refine hlast ((hfloor _).mpr ⟨?_, ?_⟩) <;> push_cast <;> linarith

/-- Between the ends there is no jump. -/
theorem ceil_ne_of_bounds (hwidth : 0 < width) {numberOfItems : ℕ} {x : ℚ} (hlower : 0 < x)
    (hupper : x ≤ width * (numberOfItems + 1)) :
    ⌈x / width⌉ ≠ 0 ∧ ⌈x / width⌉ ≠ numberOfItems + 2 := by
  have hceil : ∀ page : Int, ⌈x / width⌉ = page → width * (page - 1) < x ∧ x ≤ width * page := by
    intro page hpage
    rwa [Int.ceil_eq_iff, lt_div_iff₀ hwidth, div_le_iff₀ hwidth, mul_comm _ width,
      mul_comm _ width] at hpage
  constructor
  · intro hfirst
    have hle := (hceil _ hfirst).2
    push_cast at hle
    linarith
  · intro hlast
    have hlt := (hceil _ hlast).1
    push_cast at hlt
    linarith

theorem looped_of_bounds (hwidth : 0 < width) {numberOfItems : ℕ} {x : ℚ} (hlower : 0 < x)
    (hupper : x ≤ width * (numberOfItems + 1)) : looped width numberOfItems x = x := by
  obtain ⟨hfirst, hlast⟩ := ceil_ne_of_bounds hwidth hlower hupper
  rw [looped, if_neg hfirst, if_neg hlast]

/-- The item in the middle of the view. -/
theorem indexPathForItem_eq (hwidth : 0 < width) (hpos : 0 < c.numberOfItems)
    (htold : (c.carouselDataSource.views .banner).told = some (fakeNumberOfItems c.numberOfItems))
    (hlower : 0 < c.contentOffset) (hupper : c.contentOffset ≤ width * (c.numberOfItems + 1)) :
    ∃ row : ℕ, row < fakeNumberOfItems c.numberOfItems ∧
      c.indexPathForItem width = some (row : Int) ∧
      ∀ page : ℕ, c.contentOffset = width * page → row = page := by
  have hnonneg : 0 ≤ ⌊(c.contentOffset + width / 2) / width⌋ := by
    refine Int.floor_nonneg.mpr (div_nonneg ?_ hwidth.le)
    linarith
  have hlt : ⌊(c.contentOffset + width / 2) / width⌋ < (c.numberOfItems + 2 : ℕ) := by
    rw [Int.floor_lt, div_lt_iff₀ hwidth]
    push_cast
    linarith
  obtain ⟨row, hrow⟩ := Int.eq_ofNat_of_zero_le hnonneg
  refine ⟨row, ?_, ?_, fun page hpage => ?_⟩
  · rw [fakeNumberOfItems_of_pos hpos]
    omega
  · rw [indexPathForItem, htold, Option.getD_some, fakeNumberOfItems_of_pos hpos]
    rw [if_pos ⟨hnonneg, hlt⟩, hrow]
  · have hfloor : ⌊(c.contentOffset + width / 2) / width⌋ = page := by
      rw [Int.floor_eq_iff, le_div_iff₀ hwidth, div_lt_iff₀ hwidth, hpage]
      constructor <;> push_cast <;> linarith
    omega

/-- The page after the one that is shown has the next index, and after the last index
the first. -/
theorem getRealIndex_succ {numberOfItems page : ℕ} (hfirst : 1 ≤ page)
    (hlast : page ≤ numberOfItems) :
    getRealIndex numberOfItems (page + 1) =
      (getRealIndex numberOfItems page + 1) % numberOfItems := by
  have hpage : getRealIndex numberOfItems page = page - 1 := by
    rw [getRealIndex, if_neg (by omega), if_neg (by omega)]
  rw [hpage, getRealIndex]
  by_cases heq : page = numberOfItems
  · rw [if_pos (by omega), heq, sub_add_cancel, Int.emod_self]
  · rw [if_neg (by omega), if_neg (by omega), sub_add_cancel, Int.emod_eq_of_lt] <;> omega

/-- The first page and the one after the last are the same. -/
theorem getRealIndex_last {numberOfItems : ℕ} (hpos : 0 < numberOfItems) :
    getRealIndex numberOfItems (numberOfItems + 1 : ℕ) = getRealIndex numberOfItems 1 := by
  rw [getRealIndex, if_pos (by omega), getRealIndex, if_neg (by omega), if_neg (by omega)]
  rfl

/-- A remainder is an index. -/
theorem emod_bounds {numberOfItems : ℕ} (hpos : 0 < numberOfItems) (i : Int) :
    0 ≤ i % numberOfItems ∧ i % numberOfItems < numberOfItems :=
  ⟨Int.emod_nonneg _ (by omega), Int.emod_lt_of_pos _ (by omega)⟩

theorem getRealIndex_succ_eq_ite {numberOfItems page : ℕ} (hfirst : 1 ≤ page)
    (hlast : page ≤ numberOfItems) :
    (if (page : Int) < numberOfItems then (page : Int) else 0) =
      getRealIndex numberOfItems (page + 1) := by
  rw [getRealIndex]
  split
  · rw [if_neg (by omega), if_neg (by omega)]
    omega
  · rw [if_pos (by omega)]

theorem setFakePageAnimated_eq (width : ℚ) (hpos : 0 < c.numberOfItems) {page : Int}
    (hfirst : 0 ≤ page) (hlast : page < c.numberOfItems + 2) :
    c.setFakePageAnimated width page = some { c with motion := .animating (width * page) } := by
  rw [setFakePageAnimated, fakeNumberOfItems_of_pos hpos,
    if_pos ⟨hfirst, by push_cast; exact hlast⟩]

/-- The turn of the timer away from the last page. -/
theorem scrollToNextElement_of_page (debug : Bool) (hwidth : 0 < width) {page : ℕ}
    (hfirst : 1 ≤ page) (hlast : page ≤ c.numberOfItems)
    (hoffset : c.contentOffset = width * page) :
    c.scrollToNextElement debug width = some { c with
      carouselDataSource := c.carouselDataSource.carouselDidDisplayItemAt
        (getRealIndex c.numberOfItems (page + 1))
      autoscrollTimer := true
      motion := .animating (width * (page + 1)) } := by
  have hpos : 0 < c.numberOfItems := by omega
  have hpage : c.fakeCurrentPage width = page := fakeCurrentPage_eq hwidth hoffset
  rw [scrollToNextElement, fakeNumberOfItems_of_pos hpos, if_pos (by omega), hpage,
    if_neg (by omega), setFakePageAnimated_eq width hpos (by omega) (by omega),
    ← getRealIndex_succ_eq_ite hfirst hlast]
  simp [tryToStartTimer, notifyDatasourceOnDisplayPage]

/-- The turn of the timer on the last page: it goes back to the first one, which looks
the same, and on from there. -/
theorem scrollToNextElement_of_last (debug : Bool) (hwidth : 0 < width) (hpos : 0 < c.numberOfItems)
    (hoffset : c.contentOffset = width * (c.numberOfItems + 1)) :
    c.scrollToNextElement debug width =
      if debug = true ∧ c.numberOfItems = 1 then none
      else some { c with
        carouselDataSource := c.carouselDataSource.carouselDidDisplayItemAt
          (getRealIndex c.numberOfItems 2)
        contentOffset := width
        autoscrollTimer := true
        motion := .animating (width * 2) } := by
  have hpage : c.fakeCurrentPage width = c.numberOfItems + 1 :=
    fakeCurrentPage_eq hwidth (by rw [hoffset]; push_cast; rfl)
  have hother : c.contentOffset ≠ width := by
    have hitems : (0 : ℚ) < c.numberOfItems := by exact_mod_cast hpos
    have hlt : 0 < width * c.numberOfItems := mul_pos hwidth hitems
    rw [hoffset]
    intro heq
    linarith
  -- First it jumps back to the first page, and is at `d`.
  have hback := setFakePage_first hwidth hpos hother
  obtain ⟨d, hd⟩ : ∃ d : CarouselCollectionView,
      d = { c with contentOffset := width, autoscrollTimer := true } := ⟨_, rfl⟩
  have hfirst : d.fakeCurrentPage width = 1 :=
    fakeCurrentPage_eq hwidth (by rw [hd, Int.cast_one, mul_one])
  have hitems : d.numberOfItems = c.numberOfItems := by rw [hd]; rfl
  have hanimated : d.setFakePageAnimated width (1 + 1) =
      some { d with motion := .animating (width * ((1 + 1 : Int) : ℚ)) } :=
    setFakePageAnimated_eq width (by omega) (by omega) (by omega)
  have hindex : (if (1 : Int) < d.numberOfItems then 1 else 0) =
      getRealIndex c.numberOfItems 2 := by
    rw [hitems]
    have hsucc : (if ((1 : ℕ) : Int) < c.numberOfItems then ((1 : ℕ) : Int) else 0) =
        getRealIndex c.numberOfItems ((1 : ℕ) + 1) := getRealIndex_succ_eq_ite le_rfl hpos
    exact_mod_cast hsucc
  -- The assertion wants the next index to be 1, which fails for one banner only.
  have hassert : (debug = true ∧ getRealIndex c.numberOfItems 2 ≠ 1) ↔
      (debug = true ∧ c.numberOfItems = 1) := by
    rw [← hindex, hitems]
    refine and_congr_right fun _ => ?_
    split <;> omega
  rw [scrollToNextElement, fakeNumberOfItems_of_pos hpos, if_pos (by omega), hpage,
    if_pos (by omega), hback, ← hd, Option.bind_eq_bind, Option.bind_some, hfirst, hindex,
    hanimated]
  simp only [hassert]
  rw [hd]
  simp [tryToStartTimer, notifyDatasourceOnDisplayPage]

theorem currentPage_eq (debug : Bool) (hwidth : 0 < width) (hpos : 0 < c.numberOfItems)
    (htold : (c.carouselDataSource.views .banner).told = some (fakeNumberOfItems c.numberOfItems))
    (hlower : 0 < c.contentOffset) (hupper : c.contentOffset ≤ width * (c.numberOfItems + 1)) :
    ∃ row : ℕ, row < fakeNumberOfItems c.numberOfItems ∧
      c.currentPage debug width = some (getRealIndex c.numberOfItems row) ∧
      ∀ page : ℕ, c.contentOffset = width * page → row = page := by
  obtain ⟨row, hrow, hindex, hpage⟩ := indexPathForItem_eq hwidth hpos htold hlower hupper
  refine ⟨row, hrow, ?_, hpage⟩
  rw [currentPage, hindex]

end Functions

end CarouselCollectionView

end HolyWater
