/-
The recommended shelf and the catalogue it is taken from.

`LibraryViewModel.updateBooks` and `RecommendedViewModel.updateRecommended` each
decode the books of the same text on their own: the one skips the assignment
when a cast fails, the other returns, and casts a section of ids besides.

* `hasSection_iff_describes` — the sections the cast reads, without reference to
  the code;
* `recommendedShelf_eq_filter`, `recommendedShelf_eq_nil` — the shelf of a new
  view model, by what the text describes;
* `recommended_from_catalogue` — on every text the shelf is part of the
  catalogue, by the ids in the section and nothing else;
* `recommendedModel_sublist_booksModel` — and so it is on the two screens, in
  every reachable state, as long as their fetches have brought the same text.
-/
import HolyWater.LibraryScreen
import HolyWater.RecommendedScreen

open Json

namespace HolyWater

variable {S : JSONServices} {getConfigValue : String → String} {books : List Book} {ids : List Int}

/-- The text parses to an object whose section is an array of values that stand
for the integers `ids`, one by one and in order. -/
def DescribesSection (S : JSONServices) (text : String) (ids : List Int) : Prop :=
  ∃ top vs, S.jsonObject text.toUTF8 = some (.object top) ∧
    top.lookup "you_will_like_section" = some (.array vs) ∧ List.Forall₂ StandsForInt vs ids

theorem hasSection_iff_describes {text : String} :
    HasSection S text ids ↔ DescribesSection S text ids := by
  constructor
  · rintro ⟨top, v, hparse, hlookup, hids⟩
    obtain ⟨vs, rfl, hvs⟩ := asInts_eq_some_iff.mp hids
    exact ⟨top, vs, hparse, hlookup, hvs⟩
  · rintro ⟨top, vs, hparse, hlookup, hvs⟩
    exact ⟨top, .array vs, hparse, hlookup, asInts_eq_some_iff.mpr ⟨vs, rfl, hvs⟩⟩

/-- A section of 64-bit numbers is read number by number. -/
theorem describesSection_of_numbers {text : String} {top : Dictionary}
    (hparse : S.jsonObject text.toUTF8 = some (.object top))
    (hlookup : top.lookup "you_will_like_section" =
      some (.array (ids.map fun id : Int => .number id)))
    (hids : ∀ id ∈ ids, IsInt64 id) : DescribesSection S text ids := by
  refine ⟨top, _, hparse, hlookup, ?_⟩
  rw [List.forall₂_map_left_iff, List.forall₂_same]
  intro id hid
  exact .number (hids id hid)

/-! ### The lists of new view models -/

/-- The books of a new view model of the Library screen after its update. -/
def catalogue (S : JSONServices) (getConfigValue : String → String) : List Book :=
  (({} : LibraryViewModel).updateBooks S getConfigValue).books

/-- The shelf of a new view model of the Recommended screen after its update. -/
def recommendedShelf (S : JSONServices) (getConfigValue : String → String) : List Book :=
  (({} : RecommendedViewModel).updateRecommended S getConfigValue).recommended

theorem catalogue_eq (hbooks : DescribesBooks S (getConfigValue "json_data") books) :
    catalogue S getConfigValue = books :=
  LibraryViewModel.updateBooks_of_describes hbooks {}

theorem recommendedShelf_eq_filter (hbooks : DescribesBooks S (getConfigValue "json_data") books)
    (hids : DescribesSection S (getConfigValue "json_data") ids) :
    recommendedShelf S getConfigValue = books.filter fun book => ids.contains book.id := by
  rw [recommendedShelf, updateRecommended_of_describes
    ⟨books, ids, hbooks, hasSection_iff_describes.mpr hids, rfl⟩]

theorem recommendedShelf_eq_nil
    (h : (¬ ∃ books, DescribesBooks S (getConfigValue "json_data") books) ∨
      ¬ ∃ ids, DescribesSection S (getConfigValue "json_data") ids) :
    recommendedShelf S getConfigValue = [] := by
  have hnone : ∀ shelf, ¬ DescribesRecommended S (getConfigValue "json_data") shelf := by
    rintro shelf ⟨books, ids, hbooks, hids, -⟩
    rcases h with h | h
    · exact h ⟨books, hbooks⟩
    · exact h ⟨ids, hasSection_iff_describes.mp hids⟩
  rw [recommendedShelf, updateRecommended_of_not_describes hnone]

/-- An empty shelf is filled as that of a new view model. -/
theorem updateRecommended_of_empty {vm : RecommendedViewModel} (hempty : vm.recommended = []) :
    (vm.updateRecommended S getConfigValue).recommended = recommendedShelf S getConfigValue := by
  rw [recommendedShelf]
  rcases updateRecommended_cases S getConfigValue with ⟨recommended, -, hset⟩ | ⟨-, hkept⟩
  · rw [hset, hset]
  · rw [hkept, hkept, hempty]

/-- The shelf is among the books that the update of the Library screen decodes,
whatever that screen held before. -/
theorem recommendedShelf_sublist_updateBooks (S : JSONServices)
    (getConfigValue : String → String) (library : LibraryViewModel) :
    (recommendedShelf S getConfigValue).Sublist (library.updateBooks S getConfigValue).books := by
  rw [recommendedShelf]
  rcases updateRecommended_cases S getConfigValue with
    ⟨recommended, ⟨books, ids, hbooks, -, rfl⟩, hset⟩ | ⟨-, hkept⟩
  · rw [hset, LibraryViewModel.updateBooks_of_describes hbooks]
    exact List.filter_sublist
  · rw [hkept]
    exact List.nil_sublist _

/-- A book is on the shelf as often as in the catalogue, or not at all. -/
theorem count_recommendedShelf (hbooks : DescribesBooks S (getConfigValue "json_data") books)
    (hids : DescribesSection S (getConfigValue "json_data") ids) (book : Book) :
    (recommendedShelf S getConfigValue).count book =
      if book.id ∈ ids then (catalogue S getConfigValue).count book else 0 := by
  rw [recommendedShelf_eq_filter hbooks hids, catalogue_eq hbooks, Swift.count_filter]
  simp only [List.contains_iff_mem]

/-- Of a section it only matters which books it names. -/
theorem recommendedShelf_congr {getConfigValue₂ : String → String} {ids₂ : List Int}
    (hbooks : DescribesBooks S (getConfigValue "json_data") books)
    (hids : DescribesSection S (getConfigValue "json_data") ids)
    (hbooks₂ : DescribesBooks S (getConfigValue₂ "json_data") books)
    (hids₂ : DescribesSection S (getConfigValue₂ "json_data") ids₂)
    (hsame : ∀ book ∈ books, book.id ∈ ids ↔ book.id ∈ ids₂) :
    recommendedShelf S getConfigValue = recommendedShelf S getConfigValue₂ := by
  rw [recommendedShelf_eq_filter hbooks hids, recommendedShelf_eq_filter hbooks₂ hids₂]
  refine List.filter_congr fun book hbook => ?_
  rw [Bool.eq_iff_iff, List.contains_iff_mem, List.contains_iff_mem]
  exact hsame book hbook

/-- **The recommended shelf is taken from the catalogue**, on every text: it is
a sublist of the books that the Library screen decodes; when books and a section
are described, a book of the catalogue is on it as often as in the catalogue if
its id is in the section, and not at all otherwise; two texts with the same
books and sections that name the same ones of them, in whatever order, however
often and beside whatever unknown ids, give the same shelf; and the shelf is
empty when books or section are not described. -/
theorem recommended_from_catalogue (S : JSONServices) (getConfigValue : String → String) :
    (recommendedShelf S getConfigValue).Sublist (catalogue S getConfigValue) ∧
    (∀ books ids, DescribesBooks S (getConfigValue "json_data") books →
      DescribesSection S (getConfigValue "json_data") ids →
      (∀ book, (recommendedShelf S getConfigValue).count book =
        if book.id ∈ ids then (catalogue S getConfigValue).count book else 0) ∧
      ∀ (getConfigValue₂ : String → String) (ids₂ : List Int),
        DescribesBooks S (getConfigValue₂ "json_data") books →
        DescribesSection S (getConfigValue₂ "json_data") ids₂ →
        (∀ book ∈ books, book.id ∈ ids ↔ book.id ∈ ids₂) →
        recommendedShelf S getConfigValue = recommendedShelf S getConfigValue₂) ∧
    (((¬ ∃ books, DescribesBooks S (getConfigValue "json_data") books) ∨
        ¬ ∃ ids, DescribesSection S (getConfigValue "json_data") ids) →
      recommendedShelf S getConfigValue = []) := by
  refine ⟨recommendedShelf_sublist_updateBooks S getConfigValue {}, ?_, recommendedShelf_eq_nil⟩
  intro books ids hbooks hids
  constructor
  · exact count_recommendedShelf hbooks hids
  · intro getConfigValue₂ ids₂ hbooks₂ hids₂ hsame
    exact recommendedShelf_congr hbooks hids hbooks₂ hids₂ hsame

/-- A payload that holds one of its two books twice, with a section that names
this one twice and one that is not there. -/
def threeBooks : String :=
  "\x7b\"books\":[" ++
  "\x7b\"id\":7,\"name\":\"Cosmos\",\"summary\":\"Stars\"," ++
  "\"genre\":\"Science\",\"cover_url\":\"c\",\"likes\":\"1\",\"quotes\":\"2\"\x7d," ++
  "\x7b\"id\":8,\"name\":\"Emma\",\"summary\":\"Matches\"," ++
  "\"genre\":\"Romance\",\"cover_url\":\"e\",\"likes\":\"3\",\"quotes\":\"4\"\x7d," ++
  "\x7b\"id\":8,\"name\":\"Emma\",\"summary\":\"Matches\"," ++
  "\"genre\":\"Romance\",\"cover_url\":\"e\",\"likes\":\"3\",\"quotes\":\"4\"\x7d]," ++
  "\"you_will_like_section\":[8,99,8]\x7d"

def emma : Book := ⟨8, "Emma", "Matches", "Romance", "e", "3", "4"⟩

def emmaMembers : Dictionary :=
  [("id", .number (8 : Int)), ("name", .string "Emma"), ("summary", .string "Matches"),
    ("genre", .string "Romance"), ("cover_url", .string "e"), ("likes", .string "3"),
    ("quotes", .string "4")]

def threeBooksJson : Json :=
  .object [("books",
      .array ([LibraryViewController.cosmosMembers, emmaMembers, emmaMembers].map .object)),
    ("you_will_like_section", .array ([8, 99, 8].map fun id : Int => .number id))]

/-- The book that the section names is on the shelf as often as in the catalogue,
however often it is named; the other one is not. -/
theorem recommended_from_catalogue_three_books :
    let services := JSONServices.exactOn threeBooks threeBooksJson
    catalogue services (fun _ => threeBooks) = [LibraryViewController.cosmos, emma, emma] ∧
    (recommendedShelf services fun _ => threeBooks).count emma = 2 ∧
    (recommendedShelf services fun _ => threeBooks).count LibraryViewController.cosmos = 0 := by
  intro services
  have hcosmos : Book.Represents LibraryViewController.cosmosMembers LibraryViewController.cosmos :=
    ⟨⟨rfl, by decide⟩, rfl, rfl, rfl, rfl, rfl, rfl⟩
  have hemma : Book.Represents emmaMembers emma :=
    ⟨⟨rfl, by decide⟩, rfl, rfl, rfl, rfl, rfl, rfl⟩
  have hbooks : DescribesBooks services threeBooks [LibraryViewController.cosmos, emma, emma] :=
    ⟨_, _, JSONServices.exactOn_jsonObject _ _, rfl,
      .cons hcosmos (.cons hemma (.cons hemma .nil))⟩
  have hids : DescribesSection services threeBooks [8, 99, 8] :=
    describesSection_of_numbers (JSONServices.exactOn_jsonObject _ _) rfl (by decide)
  have hcatalogue : catalogue services (fun _ => threeBooks) =
      [LibraryViewController.cosmos, emma, emma] := catalogue_eq hbooks
  obtain ⟨-, hshelf, -⟩ := recommended_from_catalogue services fun _ => threeBooks
  obtain ⟨hcount, -⟩ := hshelf _ _ hbooks hids
  refine ⟨hcatalogue, ?_, ?_⟩
  · rw [hcount, hcatalogue]
    decide
  · rw [hcount, hcatalogue]
    decide

/-! ### On the screens -/

/-- Without another successful fetch the Library screen keeps its books. -/
theorem LibraryViewController.booksModel_of_not_fetched {vc vc' : LibraryViewController}
    {events : List LibraryViewController.Event}
    (hrun : (LibraryViewController.system S).Run vc events vc')
    (hfetched : ∀ getConfigValue, .fetched getConfigValue none ∉ events) :
    vc'.booksModel = vc.booksModel := by
  induction hrun with
  | nil => rfl
  | cons hstep _ ih =>
    rcases lists_of_next hstep.2 with ⟨getConfigValue, rfl⟩ | ⟨-, hbooks, -⟩
    · exact absurd List.mem_cons_self (hfetched getConfigValue)
    · have hrest := ih fun getConfigValue h =>
        hfetched getConfigValue (List.mem_cons_of_mem _ h)
      exact hrest.trans hbooks

namespace RecommendedViewController

variable {width : ℚ} {vc vc' : RecommendedViewController} {events : List Event}

theorem recommendedModel_fetchData (hempty : vc.viewModel.recommended = []) :
    (vc.fetchData S getConfigValue none).recommendedModel = recommendedShelf S getConfigValue := by
  have hcarousel : (vc.viewModel.updateCarousel S getConfigValue).recommended = [] := hempty
  exact updateRecommended_of_empty hcarousel

/-- A screen fetches once, so the answer settles its shelf. -/
theorem recommendedModel_of_answered (hrun : (system S width).Run vc events vc')
    (hanswered : vc.fetching = false) : vc'.recommendedModel = vc.recommendedModel := by
  have hstep : ∀ t event t', t.fetching = false ∧ t.recommendedModel = vc.recommendedModel →
      (system S width).Step t event t' →
      t'.fetching = false ∧ t'.recommendedModel = vc.recommendedModel := by
    rintro t event t' ⟨hfetching, hmodel⟩ ⟨henabled, hnext⟩
    rcases lists_of_next hnext with ⟨getConfigValue, error, rfl⟩ | ⟨-, -, hmodel', hfetching'⟩
    · exact absurd (hfetching.symm.trans henabled) (by simp)
    · exact ⟨hfetching'.trans hfetching, hmodel'.trans hmodel⟩
  exact (hrun.invariant hstep ⟨hanswered, rfl⟩).2

/-- The shelf shown is empty, or the one of a configuration fetched. -/
theorem recommendedModel_run (hrun : (system S width).Run vc events vc')
    (hempty : vc.viewModel.recommended = []) (hshown : vc.recommendedModel = []) :
    vc'.recommendedModel = [] ∨ ∃ getConfigValue, .fetched getConfigValue none ∈ events ∧
      vc'.recommendedModel = recommendedShelf S getConfigValue := by
  induction hrun with
  | nil => exact .inl hshown
  | @cons vc next vc' event events hstep hrest ih =>
    obtain ⟨henabled, hnext⟩ := hstep
    rcases lists_of_next hnext with ⟨getConfigValue, error, rfl⟩ | ⟨hviewModel, -, hmodel, -⟩
    · -- The first answer is the only one.
      obtain rfl := Option.some.inj hnext
      cases error with
      | none =>
        have hlast := recommendedModel_of_answered hrest rfl
        rw [recommendedModel_fetchData hempty] at hlast
        exact .inr ⟨getConfigValue, List.mem_cons_self, hlast⟩
      | some error =>
        have hlast := recommendedModel_of_answered hrest rfl
        exact .inl (hlast.trans hshown)
    · rcases ih (by rw [hviewModel, hempty]) (hmodel.trans hshown) with hnone | ⟨g, hg, hshelf⟩
      · exact .inl hnone
      · exact .inr ⟨g, List.mem_cons_of_mem _ hg, hshelf⟩

end RecommendedViewController

/-- **The two screens show one catalogue.**  Let the last successful fetch of a
Library screen have brought some text; then all that a Recommended screen opened
beside it recommends is among the books shown there, in their order, however the
events of the two screens interleave, provided that its own fetch, if it has
succeeded, has brought the same text. -/
theorem recommendedModel_sublist_booksModel {width : ℚ} {currentCellIndex : Option Int}
    {labels : BookLabels} {before after : List LibraryViewController.Event}
    {library : LibraryViewController} {events : List RecommendedViewController.Event}
    {recommended : RecommendedViewController}
    (hlibrary : (LibraryViewController.system S).Run {}
      (before ++ .fetched getConfigValue none :: after) library)
    (hlast : ∀ getConfigValue₂, .fetched getConfigValue₂ none ∉ after)
    (hrecommended : (RecommendedViewController.system S width).Run
      (.opened currentCellIndex labels) events recommended)
    (hsame : ∀ getConfigValue₂, .fetched getConfigValue₂ none ∈ events →
      getConfigValue₂ "json_data" = getConfigValue "json_data") :
    recommended.recommendedModel.Sublist library.booksModel := by
  rcases RecommendedViewController.recommendedModel_run hrecommended rfl rfl with
    hempty | ⟨getConfigValue₂, hfetched, hshelf⟩
  · rw [hempty]
    exact List.nil_sublist _
  · obtain ⟨vc, -, hfetch⟩ := EventSystem.run_append_iff.mp hlibrary
    obtain ⟨vc', ⟨-, hnext⟩, hafter⟩ := EventSystem.run_cons_iff.mp hfetch
    obtain rfl := Option.some.inj hnext
    have hbooks : library.booksModel = (vc.viewModel.updateBooks S getConfigValue).books :=
      LibraryViewController.booksModel_of_not_fetched hafter hlast
    have hsame : recommendedShelf S getConfigValue₂ = recommendedShelf S getConfigValue := by
      simp only [recommendedShelf, RecommendedViewModel.updateRecommended,
        RecommendedViewModel.getJsonData, hsame getConfigValue₂ hfetched]
    rw [hshelf, hsame, hbooks]
    exact recommendedShelf_sublist_updateBooks S getConfigValue vc.viewModel

end HolyWater
