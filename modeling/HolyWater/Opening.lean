/-
Opening the details of a selected book.

The Library screen hands the id of the selected book to the Recommended screen,
which takes it for a page of the details carousel: `setCurrentPage` keeps that
page inside the content, the subscript that follows does not.

* `phase_run` — a screen is fetching, on its way to the selected page, without
  lists, or open on a page, along every run;
* `opening_safe_iff` — opening traps on no run exactly when the index handed over
  is an index of the carousel that the configured text describes;
* `opens_selected_iff` — the entry with the selected id is the one shown, exactly
  when its position happens to be that id.
-/
import HolyWater.LibraryScreen
import HolyWater.RecommendedScreen

namespace HolyWater

namespace RecommendedViewController

variable {S : JSONServices} {width : ℚ} {getConfigValue : String → String} {idx : Option Int}
  {carousel : List Carousel} {vc vc' : RecommendedViewController}

/-! ### The phases of the screen -/

/-- The answer to the fetch is outstanding. -/
structure Fetching (idx : Option Int) (vc : RecommendedViewController) : Prop where
  fetching : vc.fetching = true
  decoded : vc.viewModel.carousel = []
  requestedPage : vc.requestedPage = none
  notShown : vc.isViewShowedFirstly = false
  currentCellIndex : vc.currentCellIndex = idx
  shown : vc.shown = []

/-- The lists have come, and the layout is on its way to the selected page. -/
structure Opening (idx : Option Int) (carousel : List Carousel)
    (vc : RecommendedViewController) : Prop where
  fetching : vc.fetching = false
  carouselModel : vc.carouselModel = carousel
  requestedPage : vc.requestedPage = some (idx.getD 0)
  notShown : vc.isViewShowedFirstly = false
  currentCellIndex : vc.currentCellIndex = idx
  shown : vc.shown = []

/-- The fetch has failed. -/
structure Failed (vc : RecommendedViewController) : Prop where
  fetching : vc.fetching = false
  requestedPage : vc.requestedPage = none
  notShown : vc.isViewShowedFirstly = false
  shown : vc.shown = []

/-- The selected page has been reached. -/
structure Open (carousel : List Carousel) (vc : RecommendedViewController) : Prop where
  fetching : vc.fetching = false
  carouselModel : vc.carouselModel = carousel
  requestedPage : vc.requestedPage = none
  isViewShowedFirstly : vc.isViewShowedFirstly = true

def Phase (idx : Option Int) (carousel : List Carousel) (vc : RecommendedViewController) : Prop :=
  Fetching idx vc ∨ Opening idx carousel vc ∨ Failed vc ∨ Open carousel vc

/-- A fetch, if the event is one, finds the texts of `getConfigValue`. -/
def Event.Reads (getConfigValue : String → String) : Event → Prop
  | .fetched getConfigValue' _ => getConfigValue' = getConfigValue
  | _ => True

/-- The screen while the texts are those of `getConfigValue`. -/
def reading (S : JSONServices) (width : ℚ) (getConfigValue : String → String) :
    EventSystem RecommendedViewController Event :=
  (system S width).restrict fun _ event => event.Reads getConfigValue

theorem fetching_opened (idx : Option Int) (labels : BookLabels) :
    Fetching idx (opened idx labels) :=
  ⟨rfl, rfl, rfl, rfl, rfl, rfl⟩

/-- A successful fetch brings the screen on its way to the selected page. -/
theorem Fetching.opening (h : Fetching idx vc) :
    Opening idx (decodedCarousel S getConfigValue) (vc.fetchData S getConfigValue none) := by
  obtain ⟨recommended, views, heq⟩ := fetchData_none S getConfigValue h.decoded
  rw [heq]
  exact ⟨rfl, rfl, by rw [h.currentCellIndex], h.notShown, h.currentCellIndex, h.shown⟩

/-- The page is reached: the book at the index handed over is shown. -/
theorem Opening.pageReached_eq (h : Opening idx carousel vc) :
    (system S width).next vc .pageReached =
      (Swift.subscript carousel (idx.getD 0)).map fun book =>
        { vc with
          requestedPage := none
          contentOffset :=
            CollectionViewPagingLayout.offsetOfPage width carousel.length (idx.getD 0)
          labels := vc.labels.fadeOut
          fadeOuts := vc.fadeOuts ++ [book]
          shown := vc.shown ++ [book]
          previousCellIndex := idx
          isViewShowedFirstly := true
          isUserInteractionEnabled := true } := by
  show (vc.requestedPage.bind fun page => vc.pageReached width page) = _
  rw [h.requestedPage, Option.bind_some, RecommendedViewController.pageReached_eq,
    h.carouselModel, h.currentCellIndex]

/-- What the phases speak of is as before, so the phase is. -/
theorem Phase.frame (h : Phase idx carousel vc) (hviewModel : vc'.viewModel = vc.viewModel)
    (hmodel : vc'.carouselModel = vc.carouselModel) (hfetching : vc'.fetching = vc.fetching)
    (hrequested : vc'.requestedPage = vc.requestedPage)
    (hflag : vc'.isViewShowedFirstly = vc.isViewShowedFirstly)
    (hindex : vc'.currentCellIndex = vc.currentCellIndex) (hshown : vc'.shown = vc.shown) :
    Phase idx carousel vc' := by
  have hdecoded : vc'.viewModel.carousel = vc.viewModel.carousel := by rw [hviewModel]
  rcases h with h | h | h | h
  · exact .inl ⟨hfetching.trans h.fetching, hdecoded.trans h.decoded,
      hrequested.trans h.requestedPage, hflag.trans h.notShown, hindex.trans h.currentCellIndex,
      hshown.trans h.shown⟩
  · exact .inr (.inl ⟨hfetching.trans h.fetching, hmodel.trans h.carouselModel,
      hrequested.trans h.requestedPage, hflag.trans h.notShown, hindex.trans h.currentCellIndex,
      hshown.trans h.shown⟩)
  · exact .inr (.inr (.inl ⟨hfetching.trans h.fetching, hrequested.trans h.requestedPage,
      hflag.trans h.notShown, hshown.trans h.shown⟩))
  · exact .inr (.inr (.inr ⟨hfetching.trans h.fetching, hmodel.trans h.carouselModel,
      hrequested.trans h.requestedPage, hflag.trans h.isViewShowedFirstly⟩))

/-- Each event leads from a phase to a phase. -/
theorem phase_step {event : Event} (h : Phase idx (decodedCarousel S getConfigValue) vc)
    (hstep : (reading S width getConfigValue).Step vc event vc') :
    Phase idx (decodedCarousel S getConfigValue) vc' := by
  obtain ⟨⟨henabled, hnext⟩, hreads⟩ := EventSystem.step_restrict_iff.mp hstep
  cases event with
  | fetched getConfigValue' error =>
    obtain rfl : getConfigValue' = getConfigValue := hreads
    obtain rfl := Option.some.inj hnext
    rcases h with h | h | h | h
    · cases error with
      | none => exact .inr (.inl h.opening)
      | some error =>
        rw [fetchData_some]
        exact .inr (.inr (.inl ⟨rfl, h.requestedPage, h.notShown, h.shown⟩))
    · exact absurd (h.fetching.symm.trans henabled) (by simp)
    · exact absurd (h.fetching.symm.trans henabled) (by simp)
    · exact absurd (h.fetching.symm.trans henabled) (by simp)
  | pageReached =>
    rcases h with h | h | h | h
    · exact absurd henabled (by simp [system, h.requestedPage])
    · -- The one phase in which the layout is on its way.
      rw [h.pageReached_eq, Option.map_eq_some_iff] at hnext
      obtain ⟨book, -, rfl⟩ := hnext
      exact .inr (.inr (.inr ⟨h.fetching, h.carouselModel, rfl, rfl⟩))
    · exact absurd henabled (by simp [system, h.requestedPage])
    · exact absurd henabled (by simp [system, h.requestedPage])
  | scrolled scrollView x =>
    rcases scrolled_cases hnext with rfl | rfl | ⟨hshown, book, -, rfl⟩
    · exact h
    · exact h.frame rfl rfl rfl rfl rfl rfl rfl
    · -- A new page is shown on an open screen only, and none of its facts is about pages.
      rcases h with h | h | h | h
      · exact absurd (h.notShown.symm.trans hshown) (by simp)
      · exact absurd (h.notShown.symm.trans hshown) (by simp)
      · exact absurd (h.notShown.symm.trans hshown) (by simp)
      · exact .inr (.inr (.inr ⟨h.fetching, h.carouselModel, h.requestedPage, hshown⟩))
  | fadeOutCompleted i =>
    obtain ⟨book, -, rfl⟩ := Option.map_eq_some_iff.mp hnext
    exact h.frame rfl rfl rfl rfl rfl rfl rfl

theorem phase_run {labels : BookLabels} {events : List Event}
    (hrun : (reading S width getConfigValue).Run (opened idx labels) events vc) :
    Phase idx (decodedCarousel S getConfigValue) vc :=
  hrun.invariant (fun _ _ _ => phase_step) (.inl (fetching_opened idx labels))

/-- A page is asked for only on the way to the selected one. -/
theorem Phase.opening (h : Phase idx carousel vc) (hpage : vc.requestedPage.isSome) :
    Opening idx carousel vc := by
  rcases h with h | h | h | h
  · exact absurd hpage (by simp [h.requestedPage])
  · exact h
  · exact absurd hpage (by simp [h.requestedPage])
  · exact absurd hpage (by simp [h.requestedPage])

/-! ### Opening without a trap -/

theorem Opening.traps_iff (h : Opening idx carousel vc) :
    (reading S width getConfigValue).Traps vc .pageReached ↔
      Swift.subscript carousel (idx.getD 0) = none := by
  have henabled : (reading S width getConfigValue).enabled vc .pageReached := by
    refine ⟨?_, trivial⟩
    show vc.requestedPage.isSome
    rw [h.requestedPage]
    rfl
  have hnext : (system S width).next vc .pageReached = none ↔
      Swift.subscript carousel (idx.getD 0) = none := by
    rw [h.pageReached_eq, Option.map_eq_none_iff]
  exact ⟨fun htraps => hnext.mp htraps.2, fun hsubscript => ⟨henabled, hnext.mpr hsubscript⟩⟩

/-- The lists come, and nothing else happens. -/
theorem run_fetched (idx : Option Int) (labels : BookLabels) :
    (reading S width getConfigValue).Run (opened idx labels) [.fetched getConfigValue none]
      ((opened idx labels).fetchData S getConfigValue none) :=
  .cons ⟨⟨rfl, rfl⟩, rfl⟩ (.nil _)

/-- Whatever happens before, opening the selected page does not trap. -/
def OpensSafely (S : JSONServices) (width : ℚ) (getConfigValue : String → String)
    (idx : Option Int) (labels : BookLabels) : Prop :=
  ∀ events vc, (reading S width getConfigValue).Run (opened idx labels) events vc →
    ¬ (reading S width getConfigValue).Traps vc .pageReached

theorem opensSafely_iff_subscript (labels : BookLabels) :
    OpensSafely S width getConfigValue idx labels ↔
      (Swift.subscript (decodedCarousel S getConfigValue) (idx.getD 0)).isSome := by
  constructor
  · intro hsafe
    by_contra hnone
    rw [Option.not_isSome_iff_eq_none] at hnone
    exact hsafe _ _ (run_fetched idx labels)
      ((fetching_opened idx labels).opening.traps_iff.mpr hnone)
  · intro hsome events vc hrun htraps
    have hopening := (phase_run hrun).opening htraps.1.1
    rw [hopening.traps_iff.mp htraps] at hsome
    exact absurd hsome (by simp)

/-- **When opening does not trap**: exactly when the configured text describes a
carousel, and the index handed over is the index of one of its entries. -/
theorem opening_safe_iff (S : JSONServices) (width : ℚ) (getConfigValue : String → String)
    (idx : Option Int) (labels : BookLabels) :
    OpensSafely S width getConfigValue idx labels ↔
      ∃ carousel, DescribesCarousel S (getConfigValue "details_carousel") carousel ∧
        0 ≤ idx.getD 0 ∧ idx.getD 0 < carousel.length := by
  rw [opensSafely_iff_subscript, Swift.subscript_isSome_iff]
  by_cases hdescribed :
      ∃ carousel, DescribesCarousel S (getConfigValue "details_carousel") carousel
  · obtain ⟨carousel, hcarousel⟩ := hdescribed
    rw [decodedCarousel_of_describes hcarousel]
    constructor
    · intro hrange
      exact ⟨carousel, hcarousel, hrange⟩
    · intro hrange
      obtain ⟨carousel', hcarousel', hrange⟩ := hrange
      rwa [hcarousel.unique (fun _ _ => Carousel.decode_eq_ok_iff) hcarousel']
  · have hnone : ∀ carousel, ¬ DescribesCarousel S (getConfigValue "details_carousel") carousel :=
      fun carousel hcarousel => hdescribed ⟨carousel, hcarousel⟩
    rw [decodedCarousel_of_not_describes hnone]
    constructor
    · intro hrange
      have hlt : idx.getD 0 < 0 := hrange.2
      omega
    · intro hrange
      obtain ⟨carousel, hcarousel, -⟩ := hrange
      exact absurd hcarousel (hnone carousel)

/-- With nothing on the server, the registered defaults are read; they are no
JSON, the carousel stays empty, and opening its first page traps. -/
theorem opening_traps_on_defaults :
    ¬ OpensSafely (.ofParser fun _ => none) 320
      (FirebaseRemoteConfigManager.getConfigValue fun _ => none) none default := by
  rw [opensSafely_iff_subscript]
  decide

/-! ### Opening the selected book -/

/-- The carousel has one entry with this id: `entry`, at position `p`. -/
def OnlyEntry (carousel : List Carousel) (id : Int) (p : ℕ) (entry : Carousel) : Prop :=
  carousel[p]? = some entry ∧ entry.id = id ∧
    ∀ q entry', carousel[q]? = some entry' → entry'.id = id → q = p

/-- If one entry has this id, then opening with the index `idx` shows that entry
and brings the carousel to its page. -/
def OpensSelected (S : JSONServices) (width : ℚ) (getConfigValue : String → String)
    (labels : BookLabels) (carousel : List Carousel) (id : Int) (idx : Option Int) : Prop :=
  ∀ p entry, OnlyEntry carousel id p entry →
    ∀ events vc, (reading S width getConfigValue).Run (opened idx labels) events vc →
      vc.requestedPage.isSome → ∃ vc', (reading S width getConfigValue).Step vc .pageReached vc' ∧
        vc'.shown = [entry] ∧ vc'.contentOffset = p * width

/-- What is shown is the entry at the index handed over. -/
theorem Opening.shown_of_step (h : Opening idx carousel vc)
    (hstep : (reading S width getConfigValue).Step vc .pageReached vc') :
    ∃ entry, Swift.subscript carousel (idx.getD 0) = some entry ∧ vc'.shown = [entry] ∧
      vc'.contentOffset =
        CollectionViewPagingLayout.offsetOfPage width carousel.length (idx.getD 0) := by
  have hnext : (system S width).next vc .pageReached = some vc' := hstep.2
  rw [h.pageReached_eq, Option.map_eq_some_iff] at hnext
  obtain ⟨entry, hentry, rfl⟩ := hnext
  refine ⟨entry, hentry, ?_, rfl⟩
  show vc.shown ++ [entry] = [entry]
  rw [h.shown, List.nil_append]

/-- With the id of the entry for an index, the entry is shown exactly when its
position is its id. -/
theorem opensSelected_iff
    (hcarousel : DescribesCarousel S (getConfigValue "details_carousel") carousel)
    (hwidth : 0 < width) (labels : BookLabels) (id : Int) :
    OpensSelected S width getConfigValue labels carousel id (some id) ↔
      ∀ p entry, OnlyEntry carousel id p entry → (p : Int) = id := by
  have hdecoded := decodedCarousel_of_describes hcarousel
  constructor
  · intro h p entry honly
    -- The run without delays: the lists come and the page is reached.
    have hopening : Opening (some id) carousel
        ((opened (some id) labels).fetchData S getConfigValue none) :=
      hdecoded ▸ (fetching_opened (some id) labels).opening
    obtain ⟨vc', hstep, hshown, -⟩ := h p entry honly _ _ (run_fetched (some id) labels)
      (by rw [hopening.requestedPage]; rfl)
    obtain ⟨entry', hentry', hshown', -⟩ := hopening.shown_of_step hstep
    obtain rfl : entry = entry' := by
      rw [hshown] at hshown'
      exact (List.cons.inj hshown').1
    obtain ⟨q, hq, hentry⟩ := Swift.subscript_eq_some_iff.mp hentry'
    have hpq : q = p := honly.2.2 q entry hentry honly.2.1
    rw [← hpq]
    exact hq.symm
  · intro h p entry honly events vc hrun hpage
    -- The subscript is in range, so the layout's completion does not trap.
    have hid : (p : Int) = id := h p entry honly
    have hopening : Opening (some id) carousel vc :=
      hdecoded ▸ (phase_run hrun).opening hpage
    have hentry : Swift.subscript carousel ((some id).getD 0) = some entry := by
      rw [Option.getD_some, ← hid, Swift.subscript_natCast]
      exact honly.1
    have hsafe : ¬ (reading S width getConfigValue).Traps vc .pageReached := by
      rw [hopening.traps_iff, hentry]
      simp
    obtain ⟨vc', hvc'⟩ : ∃ vc', (reading S width getConfigValue).next vc .pageReached = some vc' :=
      Option.ne_none_iff_exists'.mp fun hnone => hsafe ⟨⟨hpage, trivial⟩, hnone⟩
    have hstep : (reading S width getConfigValue).Step vc .pageReached vc' :=
      ⟨⟨hpage, trivial⟩, hvc'⟩
    obtain ⟨entry', hentry', hshown, hoffset⟩ := hopening.shown_of_step hstep
    obtain rfl : entry = entry' := Option.some.inj (hentry.symm.trans hentry')
    refine ⟨vc', hstep, hshown, ?_⟩
    have hlt : p < carousel.length := (List.getElem?_eq_some_iff.mp honly.1).1
    rw [hoffset, Option.getD_some, ← hid,
      CollectionViewPagingLayout.offsetOfPage_of_lt hwidth hlt]

end RecommendedViewController

/-- **When the selected book is the one that opens.**  Whatever item of the
Library screen is selected, the entry with the id of its book is shown, and the
carousel brought to its page, exactly when a single entry with that id has that
id for its position too. -/
theorem opens_selected_iff {S : JSONServices} {getConfigValue : String → String}
    {carousel : List Carousel} {width : ℚ} {library : LibraryViewController}
    {view : LibraryView} {i : ℕ} {id : Int}
    (hcarousel : DescribesCarousel S (getConfigValue "details_carousel") carousel)
    (hwidth : 0 < width) (hselect : library.bookId view i = some id) (labels : BookLabels) :
    ∃ idx, library.selectedCellIndex view i = some idx ∧
      (RecommendedViewController.OpensSelected S width getConfigValue labels carousel id idx ↔
        ∀ p entry, RecommendedViewController.OnlyEntry carousel id p entry → (p : Int) = id) := by
  refine ⟨some id, ?_, RecommendedViewController.opensSelected_iff hcarousel hwidth labels id⟩
  rw [library.selectedCellIndex_eq, hselect, Option.map_some]

/-! ### A server with a given carousel -/

/-- The text of an entry, for texts that need no escapes. -/
def entryText (entry : Carousel) : String :=
  "\x7b\"id\":" ++ toString entry.id ++ ",\"name\":\"" ++ entry.name ++
  "\",\"author\":\"" ++ entry.author ++ "\",\"summary\":\"" ++ entry.summary ++
  "\",\"genre\":\"" ++ entry.genre ++ "\",\"cover_url\":\"" ++ entry.coverUrl ++
  "\",\"views\":\"" ++ entry.views ++ "\",\"likes\":\"" ++ entry.likes ++
  "\",\"quotes\":\"" ++ entry.quotes ++ "\"\x7d"

/-- What the text of an entry parses to. -/
def entryMembers (entry : Carousel) : Json.Dictionary :=
  [("id", .number entry.id), ("name", .string entry.name), ("author", .string entry.author),
    ("summary", .string entry.summary), ("genre", .string entry.genre),
    ("cover_url", .string entry.coverUrl), ("views", .string entry.views),
    ("likes", .string entry.likes), ("quotes", .string entry.quotes)]

/-- The configured text of a server that has this carousel, and nothing else. -/
def carouselConfig (carousel : List Carousel) (key : String) : String :=
  if key = "details_carousel" then
    "\x7b\"books\":[" ++ ",".intercalate (carousel.map entryText) ++ "]\x7d"
  else ""

/-- Services whose parser knows that text. -/
def carouselServices (carousel : List Carousel) : JSONServices :=
  .exactOn (carouselConfig carousel "details_carousel")
    (.object [("books", .array ((carousel.map entryMembers).map .object))])

theorem represents_entryMembers {entry : Carousel} (hid : Json.IsInt64 entry.id) :
    Carousel.Represents (entryMembers entry) entry :=
  ⟨⟨rfl, hid⟩, rfl, rfl, rfl, rfl, rfl, rfl, rfl, rfl⟩

theorem describesCarousel_config {carousel : List Carousel}
    (hids : ∀ entry ∈ carousel, Json.IsInt64 entry.id) :
    DescribesCarousel (carouselServices carousel) (carouselConfig carousel "details_carousel")
      carousel := by
  refine ⟨_, carousel.map entryMembers, JSONServices.exactOn_jsonObject _ _, rfl, ?_⟩
  rw [List.forall₂_map_left_iff, List.forall₂_same]
  intro entry hentry
  exact represents_entryMembers (hids entry hentry)

/-! ### A selection -/

def cosmosEntry : Carousel :=
  ⟨7, "Cosmos", "Stargazer", "Stars", "Science", "c", "3", "1", "2"⟩

def emmaEntry : Carousel :=
  ⟨8, "Emma", "Novelist", "Highbury", "Romance", "e", "6", "5", "4"⟩

theorem describesCarousel_cosmos :
    DescribesCarousel (carouselServices [cosmosEntry])
      (carouselConfig [cosmosEntry] "details_carousel") [cosmosEntry] :=
  describesCarousel_config (by decide)

theorem describesCarousel_two :
    DescribesCarousel (carouselServices [cosmosEntry, emmaEntry])
      (carouselConfig [cosmosEntry, emmaEntry] "details_carousel") [cosmosEntry, emmaEntry] :=
  describesCarousel_config (by decide)

/-- The first book of the library has the id 7. -/
def cosmosLibrary : LibraryViewController := { booksModel := [LibraryViewController.cosmos] }

theorem opens_selected_cosmos :
    ∃ idx, cosmosLibrary.selectedCellIndex .newArrivals 0 = some idx ∧
      (RecommendedViewController.OpensSelected (carouselServices [cosmosEntry]) 320
          (carouselConfig [cosmosEntry]) default [cosmosEntry] 7 idx ↔
        ∀ p entry, RecommendedViewController.OnlyEntry [cosmosEntry] 7 p entry → (p : Int) = 7) :=
  opens_selected_iff (i := 0) describesCarousel_cosmos (by norm_num) rfl default

/-- The first book of the library has an entry of its own among the details, at
position 0; the id 7 that is handed over does not open it. -/
theorem selected_book_not_opened :
    cosmosLibrary.selectedCellIndex .newArrivals 0 = some (some cosmosEntry.id) ∧
      RecommendedViewController.OnlyEntry [cosmosEntry] cosmosEntry.id 0 cosmosEntry ∧
      ¬ RecommendedViewController.OpensSelected (carouselServices [cosmosEntry]) 320
        (carouselConfig [cosmosEntry]) default [cosmosEntry] cosmosEntry.id
        (some cosmosEntry.id) := by
  have honly : RecommendedViewController.OnlyEntry [cosmosEntry] cosmosEntry.id 0 cosmosEntry := by
    refine ⟨rfl, rfl, fun q entry' hentry' _ => ?_⟩
    have hlt : q < 1 := (List.getElem?_eq_some_iff.mp hentry').1
    omega
  refine ⟨rfl, honly, fun hopens => ?_⟩
  rw [RecommendedViewController.opensSelected_iff describesCarousel_cosmos (by norm_num)] at hopens
  exact absurd (hopens 0 cosmosEntry honly) (by decide)

end HolyWater
