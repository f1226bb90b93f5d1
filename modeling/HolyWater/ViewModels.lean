/-
The lists of the two view models.

`updateBooks`, `updateBanners`, `updateCarousel` and `updateRecommended` read a
configured text, parse it, cast a part of it and decode that part; a failure on
the way either throws (and is caught and printed) or skips the assignment.

* `Describes` says, without reference to the code, which list a text describes;
* `updateList_of_describes`, `updateList_of_not_describes` — the update shared
  by three of the four functions, in both directions;
* `updates_all_or_nothing` — each of the three lists is replaced exactly by the
  list the text describes, and is untouched when the text describes none.
-/
import HolyWater.Models

open Json

namespace HolyWater

variable {α V : Type}

/-- The UTF-8 bytes of a string, which every string has. -/
def dataUsingUTF8 (s : String) : Option ByteArray := some s.toUTF8

/-! ### The update shared by three of the lists -/

/-- The body of the `do` block: parse, cast, decode.  Neither cast throws. -/
def tryUpdateList (S : JSONServices) (key : String)
    (decode : Dictionary → Except DecodingError α) (jsonData : ByteArray) (list : List α) :
    Except JSONError (List α) :=
  match S.jsonObject jsonData with
  | none => .error .malformed
  | some jsonObject =>
    -- A failed cast skips the assignment.
    match jsonObject.asDictionary with
    | none => .ok list
    | some jsonDict =>
      match (jsonDict.lookup key).bind asDictionaries with
      | none => .ok list
      | some elements => S.decodeList decode elements

/-- Replace `list` by the records found under `key`, if the text yields any. -/
def updateList (S : JSONServices) (key : String)
    (decode : Dictionary → Except DecodingError α) (text : String) (list : List α) : List α :=
  match dataUsingUTF8 text with
  | none => list
  | some jsonData =>
    match tryUpdateList S key decode jsonData list with
    | .ok newList => newList
    -- The error is caught and printed; no assignment has happened.
    | .error _ => list

/-- The text parses to an object that holds under `key` an array of objects,
and these represent `xs`, one by one and in order. -/
def Describes (S : JSONServices) (key : String) (Represents : Dictionary → α → Prop)
    (text : String) (xs : List α) : Prop :=
  ∃ top ms, S.jsonObject text.toUTF8 = some (.object top) ∧
    top.lookup key = some (.array (ms.map .object)) ∧ List.Forall₂ Represents ms xs

/-- The text describes this catalogue. -/
abbrev DescribesBooks (S : JSONServices) (text : String) (books : List Book) : Prop :=
  Describes S "books" Book.Represents text books

/-- The text describes these banners. -/
abbrev DescribesBanners (S : JSONServices) (text : String) (banners : List Banner) : Prop :=
  Describes S "top_banner_slides" Banner.Represents text banners

/-- The text describes this details carousel. -/
abbrev DescribesCarousel (S : JSONServices) (text : String) (carousel : List Carousel) : Prop :=
  Describes S "books" Carousel.Represents text carousel

section UpdateList

variable {S : JSONServices} {key text : String} {xs list : List α}
  {decode : Dictionary → Except DecodingError α} {Represents : Dictionary → α → Prop}

/-- The ways through the `do` block: the parse throws, a cast skips the
assignment, or an array of objects goes to the decoder. -/
theorem tryUpdateList_cases (S : JSONServices) (key : String)
    (decode : Dictionary → Except DecodingError α) (jsonData : ByteArray) :
    (S.jsonObject jsonData = none ∧
      ∀ list, tryUpdateList S key decode jsonData list = .error .malformed) ∨
    ((∀ top (ms : List Dictionary), S.jsonObject jsonData = some (.object top) →
        top.lookup key ≠ some (.array (ms.map .object))) ∧
      ∀ list, tryUpdateList S key decode jsonData list = .ok list) ∨
    (∃ top, ∃ ms : List Dictionary, S.jsonObject jsonData = some (.object top) ∧
      top.lookup key = some (.array (ms.map .object)) ∧
      ∀ list, tryUpdateList S key decode jsonData list = S.decodeList decode ms) := by
  rcases hparse : S.jsonObject jsonData with _ | jsonObject
  · exact .inl ⟨rfl, fun list => by simp only [tryUpdateList, hparse]⟩
  rcases hdict : jsonObject.asDictionary with _ | top
  · refine .inr (.inl ⟨?_, fun list => by simp only [tryUpdateList, hparse, hdict]⟩)
    intro top ms h
    rw [Option.some_inj] at h
    rw [asDictionary_eq_some_iff.mpr h] at hdict
    exact absurd hdict (by simp)
  have hobject := asDictionary_eq_some_iff.mp hdict
  rcases hcast : (top.lookup key).bind asDictionaries with _ | ms
  · refine .inr (.inl ⟨?_, fun list => by simp only [tryUpdateList, hparse, hdict, hcast]⟩)
    intro top' ms h hlookup
    obtain rfl : top = top' := by simpa [hobject] using h
    rw [hlookup, Option.bind_some, asDictionaries_eq_some_iff.mpr rfl] at hcast
    exact absurd hcast (by simp)
  · obtain ⟨v, hlookup, hv⟩ := Option.bind_eq_some_iff.mp hcast
    rw [asDictionaries_eq_some_iff.mp hv] at hlookup
    exact .inr (.inr ⟨top, ms, by rw [hobject], hlookup, fun list => by
      simp only [tryUpdateList, hparse, hdict, hcast]⟩)

theorem updateList_of_describes (hdecode : ∀ m x, decode m = .ok x ↔ Represents m x)
    (h : Describes S key Represents text xs) (list : List α) :
    updateList S key decode text list = xs := by
  obtain ⟨top, ms, hparse, hlookup, hms⟩ := h
  have hcast : (top.lookup key).bind asDictionaries = some ms := by
    rw [hlookup, Option.bind_some, asDictionaries_eq_some_iff]
  have hlist : S.decodeList decode ms = .ok xs :=
    (S.decodeList_eq_ok_iff hparse hlookup).mpr (hms.imp fun m x => (hdecode m x).mpr)
  simp only [updateList, dataUsingUTF8, tryUpdateList, hparse, asDictionary, hcast, hlist]

theorem updateList_of_not_describes (hdecode : ∀ m x, decode m = .ok x ↔ Represents m x)
    (h : ∀ xs, ¬ Describes S key Represents text xs) (list : List α) :
    updateList S key decode text list = list := by
  simp only [updateList, dataUsingUTF8]
  rcases tryUpdateList_cases S key decode text.toUTF8 with
    ⟨-, htry⟩ | ⟨-, htry⟩ | ⟨top, ms, hparse, hlookup, htry⟩
  · rw [htry]
  · rw [htry]
  · rw [htry]
    rcases hlist : S.decodeList decode ms with e | xs
    · rfl
    · have hms := (S.decodeList_eq_ok_iff hparse hlookup).mp hlist
      exact absurd ⟨top, ms, hparse, hlookup, hms.imp fun m x => (hdecode m x).mp⟩ (h xs)

/-- A text describes at most one list. -/
theorem Describes.unique (hdecode : ∀ m x, decode m = .ok x ↔ Represents m x) {ys : List α}
    (hx : Describes S key Represents text xs) (hy : Describes S key Represents text ys) :
    xs = ys :=
  (updateList_of_describes hdecode hx []).symm.trans (updateList_of_describes hdecode hy [])

end UpdateList

/-! ### The view models -/

structure LibraryViewModel where
  books : List Book := []
  banners : List Banner := []
  deriving DecidableEq, Repr, Inhabited

namespace LibraryViewModel

def getJsonData (getConfigValue : String → String) : String := getConfigValue "json_data"

def updateBooks (S : JSONServices) (getConfigValue : String → String) (vm : LibraryViewModel) :
    LibraryViewModel :=
  { vm with books := updateList S "books" Book.decode (getJsonData getConfigValue) vm.books }

def updateBanners (S : JSONServices) (getConfigValue : String → String) (vm : LibraryViewModel) :
    LibraryViewModel :=
  { vm with banners :=
      updateList S "top_banner_slides" Banner.decode (getJsonData getConfigValue) vm.banners }

theorem updateBooks_of_describes {S : JSONServices} {getConfigValue : String → String}
    {books : List Book} (hbooks : DescribesBooks S (getConfigValue "json_data") books)
    (vm : LibraryViewModel) : (vm.updateBooks S getConfigValue).books = books :=
  updateList_of_describes (fun _ _ => Book.decode_eq_ok_iff) hbooks vm.books

end LibraryViewModel

structure RecommendedViewModel where
  carousel : List Carousel := []
  recommended : List Book := []
  deriving DecidableEq, Repr, Inhabited

namespace RecommendedViewModel

def getJsonData (getConfigValue : String → String) : String := getConfigValue "json_data"

def getDetailsCarousel (getConfigValue : String → String) : String :=
  getConfigValue "details_carousel"

def updateCarousel (S : JSONServices) (getConfigValue : String → String)
    (vm : RecommendedViewModel) : RecommendedViewModel :=
  { vm with carousel :=
      updateList S "books" Carousel.decode (getDetailsCarousel getConfigValue) vm.carousel }

/-- The body of the `do` block of `updateRecommended`: the guards return, the
parse and the decoding throw. -/
def tryUpdateRecommended (S : JSONServices) (jsonData : ByteArray) (recommended : List Book) :
    Except JSONError (List Book) :=
  match S.jsonObject jsonData with
  | none => .error .malformed
  | some jsonObject =>
    match jsonObject.asDictionary with
    | none => .ok recommended
    | some jsonDict =>
      match (jsonDict.lookup "books").bind asDictionaries with
      | none => .ok recommended
      | some booksArray =>
        match S.decodeList Book.decode booksArray with
        | .error e => .error e
        | .ok books =>
          -- The second guard casts the same object again, then the section.
          match (jsonDict.lookup "you_will_like_section").bind asInts with
          | none => .ok recommended
          | some recommendedArray =>
            .ok (books.filter fun book => recommendedArray.contains book.id)

def updateRecommended (S : JSONServices) (getConfigValue : String → String)
    (vm : RecommendedViewModel) : RecommendedViewModel :=
  match dataUsingUTF8 (getJsonData getConfigValue) with
  | none => vm
  | some jsonData =>
    match tryUpdateRecommended S jsonData vm.recommended with
    | .ok recommended => { vm with recommended := recommended }
    | .error _ => vm

end RecommendedViewModel

/-! ### All or nothing -/

/-- An update of one list of a view model that is all or nothing: a text
describes `xs` exactly when the update sets the list to `xs` whatever it held
and touches nothing else, and describes no list exactly when the update changes
nothing at all. -/
def AllOrNothing (describes : List α → Prop) (set : V → List α → V) (update : V → V) : Prop :=
  (∀ xs, describes xs ↔ ∀ vm, update vm = set vm xs) ∧
  ((∀ xs, ¬ describes xs) ↔ ∀ vm, update vm = vm)

/-- A view model that keeps its list behind `get` and `set`, and updates it by
`updateList`, updates it all or nothing. -/
theorem allOrNothing_of_updateList [Nonempty α] [Nonempty V] {S : JSONServices}
    {key text : String} {decode : Dictionary → Except DecodingError α}
    {Represents : Dictionary → α → Prop} (get : V → List α) {set : V → List α → V}
    {update : V → V} (hdecode : ∀ m x, decode m = .ok x ↔ Represents m x)
    (hget : ∀ vm xs, get (set vm xs) = xs) (hset : ∀ vm, set vm (get vm) = vm)
    (hupdate : ∀ vm, update vm = set vm (updateList S key decode text (get vm))) :
    AllOrNothing (Describes S key Represents text) set update := by
  have hdescribed : ∀ xs, Describes S key Represents text xs → ∀ vm, update vm = set vm xs := by
    intro xs hxs vm
    rw [hupdate, updateList_of_describes hdecode hxs]
  have hkept : (∀ xs, ¬ Describes S key Represents text xs) → ∀ vm, update vm = vm := by
    intro hnone vm
    rw [hupdate, updateList_of_not_describes hdecode hnone, hset]
  -- Some view model holds a list other than `xs`, so setting `xs` shows there.
  have hother : ∀ xs, ∃ vm, set vm xs ≠ vm := by
    intro xs
    obtain ⟨x⟩ := ‹Nonempty α›
    obtain ⟨vm⟩ := ‹Nonempty V›
    refine ⟨set vm (x :: xs), fun h => ?_⟩
    have hlists := congrArg get h
    rw [hget, hget] at hlists
    exact List.cons_ne_self x xs hlists.symm
  refine ⟨fun xs => ⟨hdescribed xs, fun h => ?_⟩, hkept, fun h xs hxs => ?_⟩
  · obtain ⟨vm, hvm⟩ := hother xs
    by_contra hxs
    by_cases hsome : ∃ ys, Describes S key Represents text ys
    · obtain ⟨ys, hys⟩ := hsome
      have hlists := congrArg get ((h vm).symm.trans (hdescribed ys hys vm))
      rw [hget, hget] at hlists
      exact hxs (hlists ▸ hys)
    · exact hvm ((h vm).symm.trans (hkept (fun ys hys => hsome ⟨ys, hys⟩) vm))
  · obtain ⟨vm, hvm⟩ := hother xs
    exact hvm ((hdescribed xs hxs vm).symm.trans (h vm))

/-- **Each list is decoded all or nothing.**  Of the three lists each is
replaced exactly when the configured text describes one, by the list described,
and otherwise left as it was; the other list of the view model is not touched. -/
theorem updates_all_or_nothing (S : JSONServices) (getConfigValue : String → String) :
    AllOrNothing (DescribesBooks S (getConfigValue "json_data"))
      (fun (vm : LibraryViewModel) books => { vm with books := books })
      (LibraryViewModel.updateBooks S getConfigValue) ∧
    AllOrNothing (DescribesBanners S (getConfigValue "json_data"))
      (fun (vm : LibraryViewModel) banners => { vm with banners := banners })
      (LibraryViewModel.updateBanners S getConfigValue) ∧
    AllOrNothing (DescribesCarousel S (getConfigValue "details_carousel"))
      (fun (vm : RecommendedViewModel) carousel => { vm with carousel := carousel })
      (RecommendedViewModel.updateCarousel S getConfigValue) := by
  refine ⟨?_, ?_, ?_⟩
  · exact allOrNothing_of_updateList LibraryViewModel.books
      (fun _ _ => Book.decode_eq_ok_iff) (fun _ _ => rfl) (fun _ => rfl) (fun _ => rfl)
  · exact allOrNothing_of_updateList LibraryViewModel.banners
      (fun _ _ => Banner.decode_eq_ok_iff) (fun _ _ => rfl) (fun _ => rfl) (fun _ => rfl)
  · exact allOrNothing_of_updateList RecommendedViewModel.carousel
      (fun _ _ => Carousel.decode_eq_ok_iff) (fun _ _ => rfl) (fun _ => rfl) (fun _ => rfl)

/-! ### The recommended shelf -/

/-- The text parses to an object whose section of recommended ids casts to
`ids`. -/
def HasSection (S : JSONServices) (text : String) (ids : List Int) : Prop :=
  ∃ top v, S.jsonObject text.toUTF8 = some (.object top) ∧
    top.lookup "you_will_like_section" = some v ∧ v.asInts = some ids

/-- The text describes a catalogue and a section, and `recommended` are the
books of the one whose ids are in the other. -/
def DescribesRecommended (S : JSONServices) (text : String) (recommended : List Book) : Prop :=
  ∃ books ids, DescribesBooks S text books ∧ HasSection S text ids ∧
    recommended = books.filter fun book => ids.contains book.id

theorem updateRecommended_of_describes {S : JSONServices} {getConfigValue : String → String}
    {recommended : List Book}
    (h : DescribesRecommended S (getConfigValue "json_data") recommended)
    (vm : RecommendedViewModel) :
    vm.updateRecommended S getConfigValue = { vm with recommended := recommended } := by
  obtain ⟨books, ids, ⟨top, ms, hparse, hlookup, hms⟩, ⟨top', v, hparse', hsection, hids⟩, rfl⟩ := h
  obtain rfl : top = top' := by
    rw [hparse] at hparse'
    simpa using hparse'
  have hcast : (top.lookup "books").bind asDictionaries = some ms := by
    rw [hlookup, Option.bind_some, asDictionaries_eq_some_iff]
  have hbooks : S.decodeList Book.decode ms = .ok books :=
    (S.decodeList_eq_ok_iff hparse hlookup).mpr (hms.imp fun _ _ => Book.decode_eq_ok_iff.mpr)
  have hcast' : (top.lookup "you_will_like_section").bind asInts = some ids := by
    rw [hsection, Option.bind_some, hids]
  simp only [RecommendedViewModel.updateRecommended, RecommendedViewModel.getJsonData,
    dataUsingUTF8, RecommendedViewModel.tryUpdateRecommended, hparse, asDictionary, hcast, hbooks,
    hcast']

theorem updateRecommended_of_not_describes {S : JSONServices} {getConfigValue : String → String}
    (h : ∀ books, ¬ DescribesRecommended S (getConfigValue "json_data") books)
    (vm : RecommendedViewModel) : vm.updateRecommended S getConfigValue = vm := by
  simp only [RecommendedViewModel.updateRecommended, RecommendedViewModel.getJsonData,
    dataUsingUTF8, RecommendedViewModel.tryUpdateRecommended]
  rcases hparse : S.jsonObject (getConfigValue "json_data").toUTF8 with _ | jsonObject
  · rfl
  rcases hdict : jsonObject.asDictionary with _ | top
  · simp only [hdict]
  rw [asDictionary_eq_some_iff.mp hdict] at hparse
  rcases hcast : (top.lookup "books").bind asDictionaries with _ | ms
  · simp only [hdict, hcast]
  obtain ⟨v, hlookup, hv⟩ := Option.bind_eq_some_iff.mp hcast
  rw [asDictionaries_eq_some_iff.mp hv] at hlookup
  rcases hbooks : S.decodeList Book.decode ms with e | books
  · simp only [hdict, hcast, hbooks]
  rcases hcast' : (top.lookup "you_will_like_section").bind asInts with _ | ids
  · simp only [hdict, hcast, hbooks, hcast']
  -- Nothing was skipped and nothing threw, so the text describes a shelf.
  · obtain ⟨w, hsection, hids⟩ := Option.bind_eq_some_iff.mp hcast'
    have hms := (S.decodeList_eq_ok_iff hparse hlookup).mp hbooks
    exact absurd ⟨books, ids, ⟨top, ms, hparse, hlookup, hms.imp fun _ _ =>
      Book.decode_eq_ok_iff.mp⟩, ⟨top, w, hparse, hsection, hids⟩, rfl⟩ (h _)

/-- The update sets the shelf to what the text describes, on every view model, or
changes none. -/
theorem updateRecommended_cases (S : JSONServices) (getConfigValue : String → String) :
    (∃ recommended, DescribesRecommended S (getConfigValue "json_data") recommended ∧
      ∀ vm : RecommendedViewModel,
        vm.updateRecommended S getConfigValue = { vm with recommended := recommended }) ∨
    ((∀ recommended, ¬ DescribesRecommended S (getConfigValue "json_data") recommended) ∧
      ∀ vm : RecommendedViewModel, vm.updateRecommended S getConfigValue = vm) := by
  by_cases h : ∃ recommended, DescribesRecommended S (getConfigValue "json_data") recommended
  · obtain ⟨recommended, hrecommended⟩ := h
    exact .inl ⟨recommended, hrecommended, updateRecommended_of_describes hrecommended⟩
  · have hnone : ∀ recommended,
        ¬ DescribesRecommended S (getConfigValue "json_data") recommended :=
      fun recommended hrecommended => h ⟨recommended, hrecommended⟩
    exact .inr ⟨hnone, updateRecommended_of_not_describes hnone⟩

end HolyWater
