/-
The shelves of the Library screen.

`numberOfItemsInSection`, `cellForItemAt` and `didSelectItemAt` are three chains
of branches over the five views and four lists of books; the views cache the
count they were told until they are asked to reload.

* `cacheCoherent_run` — along every run, a view that awaits no reload was last
  told the count computed from the current lists;
* `shows_shelves` — cell and selection at an index below the count are those of
  one book, on each shelf;
* `shelves_agree` — both in every reachable state, with what the genre shelves
  hold, and no event that traps.
-/
import HolyWater.Cells
import HolyWater.CollectionViews
import HolyWater.EventSystem
import HolyWater.Refresh
import HolyWater.Swift

namespace HolyWater

/-! ### The carousel that shows the banners -/

namespace CarouselCollectionView

/-- The carousel shows its last item before the first one, and its first one
after the last. -/
def fakeNumberOfItems (numberOfItems : ℕ) : ℕ :=
  if 0 < numberOfItems then numberOfItems + 2 else 0

def getRealIndex (numberOfItems : ℕ) (row : Int) : Int :=
  if row = numberOfItems + 1 then 0
  else if row = 0 then numberOfItems - 1
  else row - 1

/-- What the carousel passes on is an index of an item. -/
theorem getRealIndex_lt {numberOfItems row : ℕ} (h : row < fakeNumberOfItems numberOfItems) :
    ∃ i : ℕ, i < numberOfItems ∧ getRealIndex numberOfItems row = i := by
  have hpos : 0 < numberOfItems ∧ row < numberOfItems + 2 := by
    rw [fakeNumberOfItems] at h
    split at h <;> omega
  rw [getRealIndex]
  by_cases hlast : row = numberOfItems + 1
  · refine ⟨0, hpos.1, ?_⟩
    rw [if_pos (by omega)]
    rfl
  rw [if_neg (by omega)]
  by_cases hfirst : row = 0
  · refine ⟨numberOfItems - 1, by omega, ?_⟩
    rw [if_pos (by omega)]
    omega
  · refine ⟨row - 1, by omega, ?_⟩
    rw [if_neg (by omega)]
    omega

end CarouselCollectionView

/-! ### The view controller -/

/-- The five collection views of the screen. -/
inductive LibraryView where
  | newArrivals
  | romance
  | fantasy
  | science
  | banner
  deriving DecidableEq, Repr

inductive Genre where
  | science
  | fantasy
  | romance
  deriving DecidableEq, Repr

def Genre.rawValue : Genre → String
  | science => "Science"
  | fantasy => "Fantasy"
  | romance => "Romance"

theorem Genre.rawValue_injective : Function.Injective Genre.rawValue := by
  intro g g' h
  cases g <;> cases g' <;> first | rfl | exact absurd h (by decide)

/-- The screen between two turns of the main queue; the page control starts out
as in the storyboard. -/
structure LibraryViewController where
  viewModel : LibraryViewModel := {}
  booksModel : List Book := []
  bannerSlides : List Banner := []
  numberOfPages : ℕ := 5
  currentPage : Int := 0
  views : LibraryView → ViewCache := fun _ => {}

namespace LibraryViewController

def romanceBooks (vc : LibraryViewController) : List Book :=
  vc.booksModel.filter fun book => book.genre = Genre.romance.rawValue

def fantasyBooks (vc : LibraryViewController) : List Book :=
  vc.booksModel.filter fun book => book.genre = Genre.fantasy.rawValue

def scienceBooks (vc : LibraryViewController) : List Book :=
  vc.booksModel.filter fun book => book.genre = Genre.science.rawValue

def reloadData (view : LibraryView) (vc : LibraryViewController) : LibraryViewController :=
  { vc with views := Function.update vc.views view (vc.views view).reloadData }

/-- The completion that `fetchData` hands to the view model. -/
def fetchCompletion (error : Option RemoteConfigError) (vc : LibraryViewController) :
    LibraryViewController :=
  match error with
  | some _ => vc
  | none =>
    let vc := { vc with booksModel := vc.viewModel.books }
    let vc := { vc with bannerSlides := vc.viewModel.banners }
    let vc := { vc with numberOfPages := vc.bannerSlides.length }
    let vc := vc.reloadData .banner
    let vc := vc.reloadData .newArrivals
    let vc := vc.reloadData .romance
    let vc := vc.reloadData .fantasy
    vc.reloadData .science

/-- The answer to the fetch goes through the view model to the completion. -/
def fetchData (S : JSONServices) (getConfigValue : String → String)
    (error : Option RemoteConfigError) (vc : LibraryViewController) : LibraryViewController :=
  let (viewModel, error) :=
    LibraryViewModel.fetchRemoteConfig S getConfigValue (some vc.viewModel) error
  fetchCompletion error { vc with viewModel := viewModel.getD vc.viewModel }

def numberOfItemsInSection (vc : LibraryViewController) (collectionView : LibraryView) : ℕ :=
  if collectionView = .newArrivals then vc.booksModel.length
  else if collectionView = .romance then vc.romanceBooks.length
  else if collectionView = .fantasy then vc.fantasyBooks.length
  else if collectionView = .science then vc.scienceBooks.length
  -- The banners are counted by `numberOfItems` below.
  else 10

/-- How a cell shows a book on this screen. -/
def bookConfiguration (book : Book) : BookConfiguration :=
  { label := book.name, image := book.coverUrl, labelColor := Constants.colorWhite }

/-- The configuration of the cell, if it is configured at all; the outer `none`
is the trap of a subscript. -/
def cellForItemAt (vc : LibraryViewController) (collectionView : LibraryView) (row : Int) :
    Option (Option BookConfiguration) :=
  if collectionView = .newArrivals then
    (Swift.subscript vc.booksModel row).map fun book => some (bookConfiguration book)
  else if collectionView = .romance then
    (Swift.subscript vc.romanceBooks row).map fun book => some (bookConfiguration book)
  else if collectionView = .fantasy then
    (Swift.subscript vc.fantasyBooks row).map fun book => some (bookConfiguration book)
  else if collectionView = .science then
    (Swift.subscript vc.scienceBooks row).map fun book => some (bookConfiguration book)
  else some none

/-- The `currentCellIndex` handed to the screen that is pushed; the outer `none`
is the trap of a subscript. -/
def didSelectItemAt (vc : LibraryViewController) (collectionView : LibraryView) (row : Int) :
    Option (Option Int) :=
  if collectionView = .newArrivals then
    (Swift.subscript vc.booksModel row).map fun book => some book.id
  else if collectionView = .romance then
    (Swift.subscript vc.romanceBooks row).map fun book => some book.id
  else if collectionView = .fantasy then
    (Swift.subscript vc.fantasyBooks row).map fun book => some book.id
  else if collectionView = .science then
    (Swift.subscript vc.scienceBooks row).map fun book => some book.id
  else some none

/-! ### The screen as the source of the carousel -/

def numberOfItems (vc : LibraryViewController) : ℕ := vc.bannerSlides.length

/-- The image a banner cell is configured with. -/
def carouselCellForItemAt (vc : LibraryViewController) (index : Int) : Option String :=
  (Swift.subscript vc.bannerSlides index).map Banner.cover

def carouselDidSelectItemAt (vc : LibraryViewController) (index : Int) : Option (Option Int) :=
  (Swift.subscript vc.bannerSlides index).map fun banner => some banner.bookId

def carouselDidDisplayItemAt (vc : LibraryViewController) (index : Int) : LibraryViewController :=
  { vc with currentPage := index }

/-! ### Runs -/

/-- What the main queue brings: the answer to a fetch, a view asking for its
count, for a cell or to handle a selection, the carousel reaching a banner. -/
inductive Event where
  | fetched (getConfigValue : String → String) (error : Option RemoteConfigError)
  | layout (view : LibraryView)
  | cell (view : LibraryView) (row : ℕ)
  | select (view : LibraryView) (row : ℕ)
  | display (index : Int)

/-- The count a view is told when it asks. -/
def itemCount (vc : LibraryViewController) : LibraryView → ℕ
  | .banner => CarouselCollectionView.fakeNumberOfItems vc.numberOfItems
  | view => vc.numberOfItemsInSection view

/-- The view asks for its count. -/
def layout (view : LibraryView) (vc : LibraryViewController) : LibraryViewController :=
  { vc with views := Function.update vc.views view ((vc.views view).ask (vc.itemCount view)) }

@[simp] theorem layout_booksModel (view : LibraryView) (vc : LibraryViewController) :
    (vc.layout view).booksModel = vc.booksModel := rfl

@[simp] theorem layout_bannerSlides (view : LibraryView) (vc : LibraryViewController) :
    (vc.layout view).bannerSlides = vc.bannerSlides := rfl

@[simp] theorem layout_itemCount (view other : LibraryView) (vc : LibraryViewController) :
    (vc.layout view).itemCount other = vc.itemCount other := by
  cases other <;> rfl

@[simp] theorem layout_views_self (view : LibraryView) (vc : LibraryViewController) :
    (vc.layout view).views view = ⟨some (vc.itemCount view), false⟩ :=
  Function.update_self ..

theorem layout_views_of_ne {view other : LibraryView} (h : other ≠ view)
    (vc : LibraryViewController) : (vc.layout view).views other = vc.views other :=
  Function.update_of_ne h ..

@[simp] theorem carouselDidDisplayItemAt_views (vc : LibraryViewController) (index : Int) :
    (vc.carouselDidDisplayItemAt index).views = vc.views := rfl

@[simp] theorem carouselDidDisplayItemAt_itemCount (vc : LibraryViewController) (index : Int)
    (view : LibraryView) :
    (vc.carouselDidDisplayItemAt index).itemCount view = vc.itemCount view := by
  cases view <;> rfl

/-- A view asks for the cell at `row`; the screen stays as it is, or traps. -/
def queryCell (vc : LibraryViewController) (row : ℕ) : LibraryView → Option LibraryViewController
  | .banner => (vc.carouselCellForItemAt
      (CarouselCollectionView.getRealIndex vc.numberOfItems row)).map fun _ => vc
  | view => (vc.cellForItemAt view row).map fun _ => vc

/-- A view reports a selection at `row`; the screen stays as it is, or traps. -/
def querySelect (vc : LibraryViewController) (row : ℕ) : LibraryView → Option LibraryViewController
  | .banner => (vc.carouselDidSelectItemAt
      (CarouselCollectionView.getRealIndex vc.numberOfItems row)).map fun _ => vc
  | view => (vc.didSelectItemAt view row).map fun _ => vc

/-- A query that does not trap leaves the screen as it is. -/
theorem eq_of_queryCell {vc vc' : LibraryViewController} {row : ℕ} {view : LibraryView}
    (h : vc.queryCell row view = some vc') : vc' = vc := by
  cases view <;> exact ((Option.map_eq_some_iff.mp h).choose_spec.2).symm

theorem eq_of_querySelect {vc vc' : LibraryViewController} {row : ℕ} {view : LibraryView}
    (h : vc.querySelect row view = some vc') : vc' = vc := by
  cases view <;> exact ((Option.map_eq_some_iff.mp h).choose_spec.2).symm

/-- The screen, driven by the main queue. -/
def system (S : JSONServices) : EventSystem LibraryViewController Event where
  enabled vc
    | .fetched _ _ => True
    | .layout _ => True
    | .cell view row => (vc.views view).MayQuery row
    | .select view row => (vc.views view).MayQuery row
    | .display index => 0 ≤ index ∧ index < vc.numberOfItems
  next vc
    | .fetched getConfigValue error => some (vc.fetchData S getConfigValue error)
    | .layout view => some (vc.layout view)
    | .cell view row => vc.queryCell row view
    | .select view row => vc.querySelect row view
    | .display index => some (vc.carouselDidDisplayItemAt index)

/-- No view is out of step with the lists unless a reload is due. -/
def CacheCoherent (vc : LibraryViewController) : Prop :=
  ∀ view, (vc.views view).Coherent (vc.itemCount view)

theorem cacheCoherent_layout {vc : LibraryViewController} (h : vc.CacheCoherent)
    (view : LibraryView) : (vc.layout view).CacheCoherent := by
  intro view'
  show ViewCache.Coherent (Function.update vc.views view _ view') (vc.itemCount view')
  by_cases heq : view' = view
  · subst heq
    rw [Function.update_self]
    exact ViewCache.coherent_ask _ _
  · rw [Function.update_of_ne heq]
    exact h view'

/-- The completion asks every view to reload. -/
theorem needsReload_fetchCompletion (vc : LibraryViewController) (view : LibraryView) :
    ((vc.fetchCompletion none).views view).needsReload = true := by
  cases view <;> simp [fetchCompletion, reloadData, Function.update, ViewCache.reloadData]

theorem cacheCoherent_fetchData {S : JSONServices} {vc : LibraryViewController}
    (h : vc.CacheCoherent) (getConfigValue : String → String) (error : Option RemoteConfigError) :
    (vc.fetchData S getConfigValue error).CacheCoherent := by
  intro view
  cases error with
  | some error =>
    -- Nothing was decoded and nothing is shown that was not shown before.
    have hcount : (vc.fetchData S getConfigValue (some error)).itemCount view =
        vc.itemCount view := by
      cases view <;> rfl
    rw [hcount]
    exact h view
  | none =>
    intro hreload
    exact absurd hreload (by
      rw [show vc.fetchData S getConfigValue none =
        fetchCompletion none { vc with viewModel := _ } from rfl, needsReload_fetchCompletion]
      simp)

/-- The lists change with a successful fetch only. -/
theorem lists_of_next {S : JSONServices} {vc vc' : LibraryViewController} {event : Event}
    (hnext : (system S).next vc event = some vc') :
    (∃ getConfigValue, event = .fetched getConfigValue none) ∨
    (vc'.viewModel = vc.viewModel ∧ vc'.booksModel = vc.booksModel ∧
      vc'.bannerSlides = vc.bannerSlides ∧ vc'.numberOfPages = vc.numberOfPages) := by
  cases event with
  | fetched getConfigValue error =>
    cases error with
    | none => exact .inl ⟨getConfigValue, rfl⟩
    | some error =>
      obtain rfl := Option.some.inj hnext
      exact .inr ⟨rfl, rfl, rfl, rfl⟩
  | layout view =>
    obtain rfl := Option.some.inj hnext
    exact .inr ⟨rfl, rfl, rfl, rfl⟩
  | cell view row =>
    obtain rfl := eq_of_queryCell hnext
    exact .inr ⟨rfl, rfl, rfl, rfl⟩
  | select view row =>
    obtain rfl := eq_of_querySelect hnext
    exact .inr ⟨rfl, rfl, rfl, rfl⟩
  | display index =>
    obtain rfl := Option.some.inj hnext
    exact .inr ⟨rfl, rfl, rfl, rfl⟩

/-- A successful fetch of a text that describes books and banners shows these. -/
theorem fetchData_of_describes {S : JSONServices} (getConfigValue : String → String)
    {books : List Book} {banners : List Banner}
    (hbooks : DescribesBooks S (getConfigValue "json_data") books)
    (hbanners : DescribesBanners S (getConfigValue "json_data") banners)
    (vc : LibraryViewController) :
    vc.fetchData S getConfigValue none =
      fetchCompletion none { vc with viewModel := ⟨books, banners⟩ } := by
  have hviewModel : (vc.viewModel.updateBooks S getConfigValue).updateBanners S getConfigValue =
      ⟨books, banners⟩ := by
    rw [LibraryViewModel.updateBanners, LibraryViewModel.updateBooks_of_describes hbooks,
      LibraryViewModel.getJsonData,
      updateList_of_describes (fun _ _ => Banner.decode_eq_ok_iff) hbanners]
  rw [← hviewModel]
  rfl

/-- Each event leaves the views in step with the lists. -/
theorem cacheCoherent_step {S : JSONServices} {vc vc' : LibraryViewController} {event : Event}
    (h : vc.CacheCoherent) (hstep : (system S).Step vc event vc') : vc'.CacheCoherent := by
  obtain ⟨-, hnext⟩ := hstep
  cases event with
  | fetched getConfigValue error =>
    obtain rfl := Option.some.inj hnext
    exact cacheCoherent_fetchData h getConfigValue error
  | layout view =>
    obtain rfl := Option.some.inj hnext
    exact cacheCoherent_layout h view
  | cell view row =>
    obtain rfl := eq_of_queryCell hnext
    exact h
  | select view row =>
    obtain rfl := eq_of_querySelect hnext
    exact h
  | display index =>
    obtain rfl := Option.some.inj hnext
    exact h

/-- **The views stay in step with the lists** along every run. -/
theorem cacheCoherent_run {S : JSONServices} {vc vc' : LibraryViewController}
    {events : List Event} (hrun : (system S).Run vc events vc') (h : vc.CacheCoherent) :
    vc'.CacheCoherent :=
  hrun.invariant (fun _ _ _ => cacheCoherent_step) h

/-! ### Cells and selections -/

/-- The view shows `books`: it counts as many, and at each index below its count
the cell has the name and the cover of the book at that index, in white, and the
selection passes on its id. -/
structure Shows (vc : LibraryViewController) (view : LibraryView) (books : List Book) : Prop where
  count : vc.numberOfItemsInSection view = books.length
  item : ∀ i : ℕ, i < vc.numberOfItemsInSection view → ∃ book, books[i]? = some book ∧
    vc.cellForItemAt view i =
      some (some
        { label := book.name, image := book.coverUrl, labelColor := Constants.colorWhite }) ∧
    vc.didSelectItemAt view i = some (some book.id)

/-- The carousel shows the banners: it counts as many, and at each index below
their number the cell has the cover of the banner at that index, and the
selection passes on the id of its book. -/
structure ShowsBanners (vc : LibraryViewController) : Prop where
  count : vc.numberOfItems = vc.bannerSlides.length
  item : ∀ i : ℕ, i < vc.numberOfItems → ∃ banner, vc.bannerSlides[i]? = some banner ∧
    vc.carouselCellForItemAt i = some banner.cover ∧
    vc.carouselDidSelectItemAt i = some (some banner.bookId)

/-- A view whose three functions read one list shows that list. -/
theorem Shows.of_subscript {vc : LibraryViewController} {view : LibraryView} {books : List Book}
    (hcount : vc.numberOfItemsInSection view = books.length)
    (hcell : ∀ row, vc.cellForItemAt view row =
      (Swift.subscript books row).map fun book => some (bookConfiguration book))
    (hselect : ∀ row, vc.didSelectItemAt view row =
      (Swift.subscript books row).map fun book => some book.id) : vc.Shows view books := by
  refine ⟨hcount, fun i hi => ?_⟩
  rw [hcount] at hi
  refine ⟨books[i], List.getElem?_eq_getElem hi, ?_, ?_⟩
  · rw [hcell, Swift.subscript_natCast, List.getElem?_eq_getElem hi, Option.map_some]
    rfl
  · rw [hselect, Swift.subscript_natCast, List.getElem?_eq_getElem hi, Option.map_some]

theorem showsBanners (vc : LibraryViewController) : vc.ShowsBanners := by
  refine ⟨rfl, fun i hi => ?_⟩
  refine ⟨vc.bannerSlides[i], List.getElem?_eq_getElem hi, ?_, ?_⟩
  · rw [carouselCellForItemAt, Swift.subscript_natCast, List.getElem?_eq_getElem hi,
      Option.map_some]
  · rw [carouselDidSelectItemAt, Swift.subscript_natCast, List.getElem?_eq_getElem hi,
      Option.map_some]

/-- The books of one genre, in order. -/
def genreShelf (books : List Book) (genre : Genre) : List Book :=
  books.filter fun book => book.genre = genre.rawValue

/-- On each shelf, count, cell and selection read the same list. -/
theorem shows_shelves (vc : LibraryViewController) :
    vc.Shows .newArrivals vc.booksModel ∧
    vc.Shows .romance (genreShelf vc.booksModel .romance) ∧
    vc.Shows .fantasy (genreShelf vc.booksModel .fantasy) ∧
    vc.Shows .science (genreShelf vc.booksModel .science) := by
  refine ⟨?_, ?_, ?_, ?_⟩ <;>
    exact .of_subscript rfl (fun _ => rfl) (fun _ => rfl)

/-- A book of some genre is on the shelf of its genre as often as it is among
the new arrivals, and on no other shelf. -/
theorem count_genreShelf {book : Book} {genre : Genre} (hgenre : book.genre = genre.rawValue)
    (books : List Book) (genre' : Genre) :
    (genreShelf books genre').count book = if genre' = genre then books.count book else 0 := by
  have hshelf : book.genre = genre'.rawValue ↔ genre' = genre := by
    rw [hgenre, Genre.rawValue_injective.eq_iff, eq_comm]
  rw [genreShelf, Swift.count_filter]
  simp only [decide_eq_true_iff, hshelf]

theorem not_mem_genreShelf {book : Book} (hgenre : ∀ genre, book.genre ≠ Genre.rawValue genre)
    (books : List Book) (genre : Genre) : book ∉ genreShelf books genre := by
  intro hmem
  rw [genreShelf, List.mem_filter, decide_eq_true_iff] at hmem
  exact hgenre genre hmem.2

/-- The `currentCellIndex` a selection in any of the views hands over. -/
def selectedCellIndex (vc : LibraryViewController) (view : LibraryView) (index : Int) :
    Option (Option Int) :=
  match view with
  | .banner => vc.carouselDidSelectItemAt index
  | view => vc.didSelectItemAt view index

/-- The id of the book behind an item: its own on a shelf, the advertised one on
a banner. -/
def bookId (vc : LibraryViewController) (view : LibraryView) (i : ℕ) : Option Int :=
  match view with
  | .newArrivals => vc.booksModel[i]?.map Book.id
  | .romance => (genreShelf vc.booksModel .romance)[i]?.map Book.id
  | .fantasy => (genreShelf vc.booksModel .fantasy)[i]?.map Book.id
  | .science => (genreShelf vc.booksModel .science)[i]?.map Book.id
  | .banner => vc.bannerSlides[i]?.map Banner.bookId

/-- Every selection hands over the id of the book behind the item. -/
theorem selectedCellIndex_eq (vc : LibraryViewController) (view : LibraryView) (i : ℕ) :
    vc.selectedCellIndex view i = (vc.bookId view i).map some := by
  cases view with
  | banner =>
    rw [selectedCellIndex, carouselDidSelectItemAt, Swift.subscript_natCast, bookId,
      Option.map_map]
    rfl
  | newArrivals =>
    rw [bookId, Option.map_map, ← Swift.subscript_natCast]
    rfl
  | romance =>
    rw [bookId, Option.map_map, ← Swift.subscript_natCast]
    rfl
  | fantasy =>
    rw [bookId, Option.map_map, ← Swift.subscript_natCast]
    rfl
  | science =>
    rw [bookId, Option.map_map, ← Swift.subscript_natCast]
    rfl

theorem Shows.cell_of_lt {vc : LibraryViewController} {view : LibraryView} {books : List Book}
    (h : vc.Shows view books) {row : ℕ} (hrow : row < vc.numberOfItemsInSection view) :
    (vc.cellForItemAt view row).map (fun _ => vc) = some vc := by
  obtain ⟨book, -, hcell, -⟩ := h.item row hrow
  rw [hcell, Option.map_some]

theorem Shows.select_of_lt {vc : LibraryViewController} {view : LibraryView} {books : List Book}
    (h : vc.Shows view books) {row : ℕ} (hrow : row < vc.numberOfItemsInSection view) :
    (vc.didSelectItemAt view row).map (fun _ => vc) = some vc := by
  obtain ⟨book, -, -, hselect⟩ := h.item row hrow
  rw [hselect, Option.map_some]

/-- Below its count, a view is given a cell. -/
theorem queryCell_of_lt {vc : LibraryViewController} {view : LibraryView} {row : ℕ}
    (hrow : row < vc.itemCount view) : vc.queryCell row view = some vc := by
  obtain ⟨hnew, hromance, hfantasy, hscience⟩ := vc.shows_shelves
  cases view with
  | newArrivals => exact hnew.cell_of_lt hrow
  | romance => exact hromance.cell_of_lt hrow
  | fantasy => exact hfantasy.cell_of_lt hrow
  | science => exact hscience.cell_of_lt hrow
  | banner =>
    -- The row is one of the fake items, two more than there are banners.
    obtain ⟨i, hi, hindex⟩ := CarouselCollectionView.getRealIndex_lt hrow
    obtain ⟨banner, -, hcell, -⟩ := vc.showsBanners.item i hi
    rw [queryCell, hindex, hcell, Option.map_some]

/-- Below its count, a view may report a selection. -/
theorem querySelect_of_lt {vc : LibraryViewController} {view : LibraryView} {row : ℕ}
    (hrow : row < vc.itemCount view) : vc.querySelect row view = some vc := by
  obtain ⟨hnew, hromance, hfantasy, hscience⟩ := vc.shows_shelves
  cases view with
  | newArrivals => exact hnew.select_of_lt hrow
  | romance => exact hromance.select_of_lt hrow
  | fantasy => exact hfantasy.select_of_lt hrow
  | science => exact hscience.select_of_lt hrow
  | banner =>
    obtain ⟨i, hi, hindex⟩ := CarouselCollectionView.getRealIndex_lt hrow
    obtain ⟨banner, -, -, hselect⟩ := vc.showsBanners.item i hi
    rw [querySelect, hindex, hselect, Option.map_some]

/-- All views ask for their counts. -/
def layoutAll (vc : LibraryViewController) : LibraryViewController :=
  ((((vc.layout .newArrivals).layout .romance).layout .fantasy).layout .science).layout .banner

theorem run_layoutAll (S : JSONServices) (vc : LibraryViewController) :
    (system S).Run vc [.layout .newArrivals, .layout .romance, .layout .fantasy, .layout .science,
      .layout .banner] vc.layoutAll :=
  .cons ⟨trivial, rfl⟩ <| .cons ⟨trivial, rfl⟩ <| .cons ⟨trivial, rfl⟩ <| .cons ⟨trivial, rfl⟩ <|
    .cons ⟨trivial, rfl⟩ <| .nil _

theorem views_layoutAll (vc : LibraryViewController) (view : LibraryView) :
    vc.layoutAll.views view = ⟨some (vc.layoutAll.itemCount view), false⟩ := by
  cases view <;> simp [layoutAll, layout_views_of_ne]

/-- A view that was told its count asks for its cells. -/
theorem step_cell_of_lt (S : JSONServices) {vc : LibraryViewController} {view : LibraryView}
    {row : ℕ} (htold : vc.views view = ⟨some (vc.itemCount view), false⟩)
    (hrow : row < vc.itemCount view) : (system S).Step vc (.cell view row) vc := by
  refine ⟨?_, queryCell_of_lt hrow⟩
  show (vc.views view).MayQuery row
  rw [htold]
  exact ⟨rfl, _, rfl, hrow⟩

theorem step_select_of_lt (S : JSONServices) {vc : LibraryViewController} {view : LibraryView}
    {row : ℕ} (htold : vc.views view = ⟨some (vc.itemCount view), false⟩)
    (hrow : row < vc.itemCount view) : (system S).Step vc (.select view row) vc := by
  refine ⟨?_, querySelect_of_lt hrow⟩
  show (vc.views view).MayQuery row
  rw [htold]
  exact ⟨rfl, _, rfl, hrow⟩

/-- While the views are in step with the lists, no event traps. -/
theorem CacheCoherent.not_traps {S : JSONServices} {vc : LibraryViewController}
    (h : vc.CacheCoherent) (event : Event) : ¬ (system S).Traps vc event := by
  intro htraps
  obtain ⟨henabled, htrap⟩ := htraps
  cases event with
  | fetched getConfigValue error => exact absurd htrap (by simp [system])
  | layout view => exact absurd htrap (by simp [system])
  | display index => exact absurd htrap (by simp [system])
  | cell view row =>
    -- A view that may query was told the current count, and the row is below it.
    have hcell := queryCell_of_lt ((h view).row_lt henabled)
    exact absurd (hcell.symm.trans htrap) (by simp)
  | select view row =>
    have hselect := querySelect_of_lt ((h view).row_lt henabled)
    exact absurd (hselect.symm.trans htrap) (by simp)

/-- **The shelves agree with one another** in every reachable state: a view that
awaits no reload was last told the count computed from the current lists; each
shelf and the carousel show one book (banner) in a cell and in a selection; the
genre shelves are the books of their genre in order, so that a book of a genre
is on its shelf as often as among the new arrivals, on no other shelf, and a
book of any other genre on none; and no event traps. -/
theorem shelves_agree {S : JSONServices} {events : List Event} {vc : LibraryViewController}
    (hrun : (system S).Run {} events vc) :
    (∀ view, (vc.views view).needsReload = false →
      (vc.views view).told = some (vc.itemCount view)) ∧
    (vc.Shows .newArrivals vc.booksModel ∧
      vc.Shows .romance (genreShelf vc.booksModel .romance) ∧
      vc.Shows .fantasy (genreShelf vc.booksModel .fantasy) ∧
      vc.Shows .science (genreShelf vc.booksModel .science)) ∧
    vc.ShowsBanners ∧
    (∀ (book : Book) (genre : Genre), book.genre = genre.rawValue → ∀ genre',
      (genreShelf vc.booksModel genre').count book =
        if genre' = genre then vc.booksModel.count book else 0) ∧
    (∀ book : Book, (∀ genre : Genre, book.genre ≠ genre.rawValue) →
      ∀ genre, book ∉ genreShelf vc.booksModel genre) ∧
    ∀ event, ¬ (system S).Traps vc event := by
  have hinitial : CacheCoherent {} := by
    intro view hreload
    exact absurd hreload (by simp)
  have hcoherent := cacheCoherent_run hrun hinitial
  refine ⟨hcoherent, vc.shows_shelves, vc.showsBanners, ?_, ?_, hcoherent.not_traps⟩
  · intro book genre hgenre
    exact count_genreShelf hgenre vc.booksModel
  · intro book hgenre
    exact not_mem_genreShelf hgenre vc.booksModel

def cosmos : Book := ⟨7, "Cosmos", "Stars", "Science", "c", "1", "2"⟩

def cosmosMembers : Json.Dictionary :=
  [("id", .number (7 : Int)), ("name", .string "Cosmos"), ("summary", .string "Stars"),
    ("genre", .string "Science"), ("cover_url", .string "c"), ("likes", .string "1"),
    ("quotes", .string "2")]

def persuasion : Book := ⟨5, "Persuasion", "Bath", "Romance", "p", "3", "4"⟩

def persuasionMembers : Json.Dictionary :=
  [("id", .number (5 : Int)), ("name", .string "Persuasion"), ("summary", .string "Bath"),
    ("genre", .string "Romance"), ("cover_url", .string "p"), ("likes", .string "3"),
    ("quotes", .string "4")]

def poems : Book := ⟨6, "Poems", "Verse", "Poetry", "v", "5", "6"⟩

def poemsMembers : Json.Dictionary :=
  [("id", .number (6 : Int)), ("name", .string "Poems"), ("summary", .string "Verse"),
    ("genre", .string "Poetry"), ("cover_url", .string "v"), ("likes", .string "5"),
    ("quotes", .string "6")]

/-- A payload with four books, one of them twice and one of no shelf, and two
banners. -/
def fourBooks : String :=
  "\x7b\"books\":[" ++
  "\x7b\"id\":7,\"name\":\"Cosmos\",\"summary\":\"Stars\"," ++
  "\"genre\":\"Science\",\"cover_url\":\"c\",\"likes\":\"1\",\"quotes\":\"2\"\x7d," ++
  "\x7b\"id\":5,\"name\":\"Persuasion\",\"summary\":\"Bath\"," ++
  "\"genre\":\"Romance\",\"cover_url\":\"p\",\"likes\":\"3\",\"quotes\":\"4\"\x7d," ++
  "\x7b\"id\":6,\"name\":\"Poems\",\"summary\":\"Verse\"," ++
  "\"genre\":\"Poetry\",\"cover_url\":\"v\",\"likes\":\"5\",\"quotes\":\"6\"\x7d," ++
  "\x7b\"id\":7,\"name\":\"Cosmos\",\"summary\":\"Stars\"," ++
  "\"genre\":\"Science\",\"cover_url\":\"c\",\"likes\":\"1\",\"quotes\":\"2\"\x7d]," ++
  "\"top_banner_slides\":[\x7b\"id\":1,\"book_id\":5,\"cover\":\"x\"\x7d," ++
  "\x7b\"id\":2,\"book_id\":7,\"cover\":\"y\"\x7d]\x7d"

def bannerMembers (id bookId : Int) (cover : String) : Json.Dictionary :=
  [("id", .number id), ("book_id", .number bookId), ("cover", .string cover)]

def fourBooksServices : JSONServices := .exactOn fourBooks (.object
  [("books",
      .array ([cosmosMembers, persuasionMembers, poemsMembers, cosmosMembers].map .object)),
    ("top_banner_slides", .array ([bannerMembers 1 5 "x", bannerMembers 2 7 "y"].map .object))])

theorem describesBooks_fourBooks :
    DescribesBooks fourBooksServices fourBooks [cosmos, persuasion, poems, cosmos] := by
  have hcosmos : Book.Represents cosmosMembers cosmos :=
    ⟨⟨rfl, by decide⟩, rfl, rfl, rfl, rfl, rfl, rfl⟩
  have hpersuasion : Book.Represents persuasionMembers persuasion :=
    ⟨⟨rfl, by decide⟩, rfl, rfl, rfl, rfl, rfl, rfl⟩
  have hpoems : Book.Represents poemsMembers poems :=
    ⟨⟨rfl, by decide⟩, rfl, rfl, rfl, rfl, rfl, rfl⟩
  exact ⟨_, _, JSONServices.exactOn_jsonObject _ _, rfl,
    .cons hcosmos (.cons hpersuasion (.cons hpoems (.cons hcosmos .nil)))⟩

theorem describesBanners_fourBooks :
    DescribesBanners fourBooksServices fourBooks [⟨1, 5, "x"⟩, ⟨2, 7, "y"⟩] :=
  ⟨_, [bannerMembers 1 5 "x", bannerMembers 2 7 "y"], JSONServices.exactOn_jsonObject _ _, rfl,
    .cons ⟨⟨rfl, by decide⟩, ⟨rfl, by decide⟩, rfl⟩
      (.cons ⟨⟨rfl, by decide⟩, ⟨rfl, by decide⟩, rfl⟩ .nil)⟩

/-- Four books and two banners: the views are told their counts, ask for cells up
to their last ones, and report selections. -/
theorem shelves_agree_four_books :
    ∃ vc : LibraryViewController, (system fourBooksServices).Run {}
        [.fetched (fun _ => fourBooks) none, .layout .newArrivals, .layout .romance,
          .layout .fantasy, .layout .science, .layout .banner, .cell .newArrivals 3,
          .cell .science 1, .select .science 1, .select .romance 0, .cell .banner 3,
          .select .banner 0, .display 1] vc ∧
      (vc.views .science).told = some 2 ∧ (vc.views .fantasy).told = some 0 ∧
      (vc.views .banner).told = some 4 ∧
      vc.Shows .newArrivals [cosmos, persuasion, poems, cosmos] ∧
      vc.Shows .science [cosmos, cosmos] ∧ vc.Shows .romance [persuasion] ∧
      vc.Shows .fantasy [] ∧ vc.ShowsBanners ∧ vc.bannerSlides = [⟨1, 5, "x"⟩, ⟨2, 7, "y"⟩] ∧
      (genreShelf vc.booksModel .science).count cosmos = vc.booksModel.count cosmos ∧
      poems ∉ genreShelf vc.booksModel .science := by
  have hfetched := fetchData_of_describes (fun _ => fourBooks) describesBooks_fourBooks
    describesBanners_fourBooks {}
  obtain ⟨vc, hvc⟩ : ∃ vc, vc = (({} : LibraryViewController).fetchData fourBooksServices
    (fun _ => fourBooks) none).layoutAll := ⟨_, rfl⟩
  -- What is on the shelves once every view has been laid out.
  have hbooks : vc.booksModel = [cosmos, persuasion, poems, cosmos] := by
    simp only [hvc, layoutAll, layout_booksModel, hfetched]
    rfl
  have hbanners : vc.bannerSlides = [⟨1, 5, "x"⟩, ⟨2, 7, "y"⟩] := by
    simp only [hvc, layoutAll, layout_bannerSlides, hfetched]
    rfl
  have hscience : genreShelf vc.booksModel .science = [cosmos, cosmos] := by
    rw [hbooks]
    decide
  have hromance : genreShelf vc.booksModel .romance = [persuasion] := by
    rw [hbooks]
    decide
  have hfantasy : genreShelf vc.booksModel .fantasy = [] := by
    rw [hbooks]
    decide
  have hnewCount : vc.itemCount .newArrivals = 4 := congrArg List.length hbooks
  have hscienceCount : vc.itemCount .science = 2 := congrArg List.length hscience
  have hromanceCount : vc.itemCount .romance = 1 := congrArg List.length hromance
  have hfantasyCount : vc.itemCount .fantasy = 0 := congrArg List.length hfantasy
  have hbannerCount : vc.itemCount .banner = 4 := by
    rw [itemCount, numberOfItems, hbanners]
    rfl
  have hviews : ∀ view, vc.views view = ⟨some (vc.itemCount view), false⟩ := by
    rw [hvc]
    exact views_layoutAll _
  -- Each query is about a row that the view has.
  have hcell : ∀ view row, row < vc.itemCount view →
      (system fourBooksServices).Step vc (.cell view row) vc := fun view _ hrow =>
    step_cell_of_lt _ (hviews view) hrow
  have hselect : ∀ view row, row < vc.itemCount view →
      (system fourBooksServices).Step vc (.select view row) vc := fun view _ hrow =>
    step_select_of_lt _ (hviews view) hrow
  have hdisplay : (system fourBooksServices).Step vc (.display 1)
      (vc.carouselDidDisplayItemAt 1) := by
    refine ⟨⟨by decide, ?_⟩, rfl⟩
    rw [numberOfItems, hbanners]
    decide
  have hopen : (system fourBooksServices).Run {} (.fetched (fun _ => fourBooks) none :: _) vc :=
    .cons ⟨trivial, rfl⟩ (hvc ▸ run_layoutAll fourBooksServices _)
  have hrun := EventSystem.run_append_iff.mpr ⟨vc, hopen,
    .cons (hcell .newArrivals 3 (by omega)) <| .cons (hcell .science 1 (by omega)) <|
    .cons (hselect .science 1 (by omega)) <| .cons (hselect .romance 0 (by omega)) <|
    .cons (hcell .banner 3 (by omega)) <| .cons (hselect .banner 0 (by omega)) <|
    .cons hdisplay <| .nil _⟩
  obtain ⟨htold, ⟨hnew, hromances, hfantasies, hsciences⟩, hcarousel, hoften, hnone, -⟩ :=
    shelves_agree hrun
  have htold' : ∀ view, ((vc.carouselDidDisplayItemAt 1).views view).told =
      some (vc.itemCount view) :=
    fun view => htold view (congrArg ViewCache.needsReload (hviews view))
  refine ⟨_, hrun, (htold' _).trans (congrArg some hscienceCount),
    (htold' _).trans (congrArg some hfantasyCount), (htold' _).trans (congrArg some hbannerCount),
    ?_, ?_, ?_, ?_, hcarousel, hbanners, ?_, hnone poems ?_ .science⟩
  · rw [← hbooks]
    exact hnew
  · rw [← hscience]
    exact hsciences
  · rw [← hromance]
    exact hromances
  · rw [← hfantasy]
    exact hfantasies
  · rw [hoften cosmos .science rfl, if_pos rfl]
  · intro genre
    cases genre <;> decide

end LibraryViewController

end HolyWater
