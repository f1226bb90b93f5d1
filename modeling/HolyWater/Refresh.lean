/-
What a refresh leaves behind.

`fetchRemoteConfig` of a view model runs two updates in sequence and then
reports `nil`.  Each list follows its own part of the configured texts:

* `refresh_lists_independent` — after a successful fetch the completion receives
  `nil`, and each list is the one its text describes, or the old one; both are
  replaced, as one would expect of an atomic refresh, exactly when both are
  described;
* `refresh_not_atomic` — a payload with books but no banners replaces one list,
  keeps the other and still reports `nil`.
-/
import HolyWater.RemoteConfig
import HolyWater.ViewModels

open Json

namespace HolyWater

variable {α β : Type}

/-- The completion the view model hands to the manager.  `self` is `none` once
the view model is gone: the completion is called all the same. -/
def LibraryViewModel.fetchRemoteConfig (S : JSONServices) (getConfigValue : String → String)
    (self : Option LibraryViewModel) (error : Option RemoteConfigError) :
    Option LibraryViewModel × Option RemoteConfigError :=
  match error with
  | some error => (self, some error)
  -- Neither update says how it went, so `nil` it is in any case.
  | none => (self.map fun vm =>
      (vm.updateBooks S getConfigValue).updateBanners S getConfigValue, none)

/-- The completion the view model hands to the manager. -/
def RecommendedViewModel.fetchRemoteConfig (S : JSONServices) (getConfigValue : String → String)
    (self : Option RecommendedViewModel) (error : Option RemoteConfigError) :
    Option RecommendedViewModel × Option RemoteConfigError :=
  match error with
  | some error => (self, some error)
  | none => (self.map fun vm =>
      (vm.updateCarousel S getConfigValue).updateRecommended S getConfigValue, none)

/-! ### Lists that follow their texts -/

/-- The list `new` is the one described, or the old one when none is. -/
def Refreshed (describes : List α → Prop) (old new : List α) : Prop :=
  (∀ xs, describes xs → new = xs) ∧ ((∀ xs, ¬ describes xs) → new = old)

/-- An atomic and honestly reported refresh: both lists are replaced by what is
described and `nil` is reported, or both are kept and an error is. -/
def AtomicRefresh (describes₁ : List α → Prop) (describes₂ : List β → Prop)
    (old new : List α × List β) (error : Option RemoteConfigError) : Prop :=
  (describes₁ new.1 ∧ describes₂ new.2 ∧ error = none) ∨ (new = old ∧ error ≠ none)

theorem Refreshed.describes_iff {describes : List α → Prop} {old new : List α}
    (h : Refreshed describes old new) : describes new ↔ ∃ xs, describes xs := by
  constructor
  · intro hnew
    exact ⟨new, hnew⟩
  · rintro ⟨xs, hxs⟩
    rw [h.1 xs hxs]
    exact hxs

/-- When each list follows its text and `nil` is always reported, a refresh is
atomic exactly when both lists are described. -/
theorem atomicRefresh_iff {describes₁ : List α → Prop} {describes₂ : List β → Prop}
    {old new : List α × List β} (h₁ : Refreshed describes₁ old.1 new.1)
    (h₂ : Refreshed describes₂ old.2 new.2) :
    AtomicRefresh describes₁ describes₂ old new none ↔
      (∃ xs, describes₁ xs) ∧ ∃ ys, describes₂ ys := by
  rw [← h₁.describes_iff, ← h₂.describes_iff]
  simp [AtomicRefresh]

theorem refreshed_updateList {S : JSONServices} {key text : String}
    {decode : Dictionary → Except DecodingError α} {Represents : Dictionary → α → Prop}
    (hdecode : ∀ m x, decode m = .ok x ↔ Represents m x) (old : List α) :
    Refreshed (Describes S key Represents text) old (updateList S key decode text old) :=
  ⟨fun _ hxs => updateList_of_describes hdecode hxs old,
    fun hnone => updateList_of_not_describes hdecode hnone old⟩

theorem refreshed_updateRecommended (S : JSONServices) (getConfigValue : String → String)
    (vm : RecommendedViewModel) :
    Refreshed (DescribesRecommended S (getConfigValue "json_data")) vm.recommended
      (vm.updateRecommended S getConfigValue).recommended := by
  refine ⟨fun xs hxs => ?_, fun hnone => ?_⟩
  · rw [updateRecommended_of_describes hxs]
  · rw [updateRecommended_of_not_describes hnone]

@[simp] theorem updateRecommended_carousel (S : JSONServices) (getConfigValue : String → String)
    (vm : RecommendedViewModel) :
    (vm.updateRecommended S getConfigValue).carousel = vm.carousel := by
  rcases updateRecommended_cases S getConfigValue with ⟨recommended, -, hset⟩ | ⟨-, hkept⟩
  · rw [hset]
  · rw [hkept]

/-! ### The refresh of each view model -/

/-- **The lists are refreshed independently.**  After a successful fetch the
completion receives `nil` in any case; each of the two lists of a view model is
replaced by what its text describes and otherwise kept, whatever becomes of the
other one; so the refresh is atomic exactly when both lists are described. -/
theorem refresh_lists_independent (S : JSONServices) (getConfigValue : String → String) :
    (∀ old : LibraryViewModel, ∃ new : LibraryViewModel,
      LibraryViewModel.fetchRemoteConfig S getConfigValue (some old) none = (some new, none) ∧
      Refreshed (DescribesBooks S (getConfigValue "json_data")) old.books new.books ∧
      Refreshed (DescribesBanners S (getConfigValue "json_data")) old.banners new.banners ∧
      (AtomicRefresh (DescribesBooks S (getConfigValue "json_data"))
          (DescribesBanners S (getConfigValue "json_data"))
          (old.books, old.banners) (new.books, new.banners) none ↔
        (∃ xs, DescribesBooks S (getConfigValue "json_data") xs) ∧
          ∃ ys, DescribesBanners S (getConfigValue "json_data") ys)) ∧
    (∀ old : RecommendedViewModel, ∃ new : RecommendedViewModel,
      RecommendedViewModel.fetchRemoteConfig S getConfigValue (some old) none = (some new, none) ∧
      Refreshed (DescribesCarousel S (getConfigValue "details_carousel"))
        old.carousel new.carousel ∧
      Refreshed (DescribesRecommended S (getConfigValue "json_data"))
        old.recommended new.recommended ∧
      (AtomicRefresh (DescribesCarousel S (getConfigValue "details_carousel"))
          (DescribesRecommended S (getConfigValue "json_data"))
          (old.carousel, old.recommended) (new.carousel, new.recommended) none ↔
        (∃ xs, DescribesCarousel S (getConfigValue "details_carousel") xs) ∧
          ∃ ys, DescribesRecommended S (getConfigValue "json_data") ys)) := by
  constructor
  · intro old
    have hbooks : Refreshed (DescribesBooks S (getConfigValue "json_data"))
        old.books (old.updateBooks S getConfigValue).books :=
      refreshed_updateList (fun _ _ => Book.decode_eq_ok_iff) old.books
    have hbanners : Refreshed (DescribesBanners S (getConfigValue "json_data"))
        old.banners (old.updateBanners S getConfigValue).banners :=
      refreshed_updateList (fun _ _ => Banner.decode_eq_ok_iff) old.banners
    exact ⟨_, rfl, hbooks, hbanners, atomicRefresh_iff hbooks hbanners⟩
  · intro old
    have hcarousel : Refreshed (DescribesCarousel S (getConfigValue "details_carousel"))
        old.carousel ((old.updateCarousel S getConfigValue).updateRecommended
          S getConfigValue).carousel := by
      rw [updateRecommended_carousel]
      exact refreshed_updateList (fun _ _ => Carousel.decode_eq_ok_iff) old.carousel
    have hrecommended := refreshed_updateRecommended S getConfigValue
      (old.updateCarousel S getConfigValue)
    exact ⟨_, rfl, hcarousel, hrecommended, atomicRefresh_iff hcarousel hrecommended⟩

/-- A payload that holds books and nothing else. -/
def booksOnly : String := "\x7b\"books\":[]\x7d"

/-- A payload without banners empties the books of a view model, leaves it the
banners of an earlier payload, and is reported as a success. -/
theorem refresh_not_atomic :
    let services := JSONServices.exactOn booksOnly (.object [("books", .array [])])
    LibraryViewModel.fetchRemoteConfig services (fun _ => booksOnly)
        (some { books := [default], banners := [default] }) none =
      (some { books := [], banners := [default] }, none) ∧
    ¬ AtomicRefresh (DescribesBooks services booksOnly) (DescribesBanners services booksOnly)
      ([default], [default]) ([], [default]) none := by
  intro services
  have hobject : services.jsonObject booksOnly.toUTF8 = some (.object [("books", .array [])]) :=
    JSONServices.exactOn_jsonObject _ _
  have hbooks : DescribesBooks services booksOnly [] := ⟨_, [], hobject, rfl, .nil⟩
  have hbanners : ∀ xs, ¬ DescribesBanners services booksOnly xs := by
    intro xs hxs
    obtain ⟨top, ms, hparse, hlookup, -⟩ := hxs
    obtain rfl : top = [("books", .array [])] := by
      rw [hobject] at hparse
      simpa using hparse.symm
    have hnone : List.lookup "top_banner_slides" [("books", Json.array [])] = none := rfl
    exact absurd (hnone.symm.trans hlookup) (by simp)
  constructor
  · simp only [LibraryViewModel.fetchRemoteConfig, LibraryViewModel.updateBooks,
      LibraryViewModel.updateBanners, LibraryViewModel.getJsonData, Option.map_some,
      updateList_of_describes (fun _ _ => Book.decode_eq_ok_iff) hbooks,
      updateList_of_not_describes (fun _ _ => Banner.decode_eq_ok_iff) hbanners]
  · intro hatomic
    rcases hatomic with ⟨-, hdescribed, -⟩ | ⟨-, herror⟩
    · exact hbanners _ hdescribed
    · exact herror rfl

end HolyWater
