/-
What the image views show.

Whatever the queues do and in whatever order, an image view behaves as if it were on its
own: setting a URL shows the placeholder and starts a load, and the load ends at most
once, with an image of this URL or without one.

* `Follows` — what an image view on its own does while it is set to some URLs;
* `LoaderViews` — a running load is the latest of its view, which shows the placeholder;
* `imageView_follows` — along every run, each view follows an image view of its own;
* `failedURL_run` — a URL that has failed for good is never loaded again.
-/
import HolyWater.WebImage

namespace HolyWater

/-- An image view as the cells see it: set to URLs, while its loads end. -/
def imageViewLoads (URL : Type) :
    Reusable (UIImageView URL) URL LoadEvent (ShownImage URL) where
  fresh := .initial
  configure url view := view.sd_setImage url
  background := UIImageView.load
  visible := UIImageView.shown

/-- The image view goes from `view` to `view'` while it is set to `urls`. -/
def Follows {URL : Type} (view : UIImageView URL) (urls : List URL) (view' : UIImageView URL) :
    Prop :=
  ∃ loads, (imageViewLoads URL).system.Run view loads view' ∧
    loads.filterMap Sum.getLeft? = urls

section Follows

variable {URL : Type} {view view' view'' : UIImageView URL} {urls urls' : List URL} {url : URL}

theorem Follows.refl (view : UIImageView URL) : Follows view [] view := ⟨[], .nil view, rfl⟩

theorem Follows.trans (h : Follows view urls view') (h' : Follows view' urls' view'') :
    Follows view (urls ++ urls') view'' := by
  obtain ⟨loads, hloads, rfl⟩ := h
  obtain ⟨loads', hloads', rfl⟩ := h'
  refine ⟨loads ++ loads', EventSystem.run_append_iff.mpr ⟨view', hloads, hloads'⟩, ?_⟩
  rw [List.filterMap_append]

theorem Follows.set (view : UIImageView URL) (url : URL) : Follows view [url] (.loading url) :=
  ⟨[.inl url], EventSystem.run_singleton_iff.mpr ⟨trivial, rfl⟩, rfl⟩

theorem Follows.finished (url : URL) : Follows (.loading url) [] (.loaded url) :=
  ⟨[.inr .finished], EventSystem.run_singleton_iff.mpr ⟨rfl, rfl⟩, rfl⟩

theorem Follows.failed (url : URL) : Follows (.loading url) [] .failed :=
  ⟨[.inr .failed], EventSystem.run_singleton_iff.mpr ⟨rfl, rfl⟩, rfl⟩

theorem load_cases {event : LoadEvent} (h : view.load event = some view') :
    ∃ url, view = .loading url ∧ (view' = .loaded url ∨ view' = .failed) := by
  cases view with
  | loading url =>
    refine ⟨url, rfl, ?_⟩
    cases event with
    | finished => exact .inl (Option.some.inj h).symm
    | failed => exact .inr (Option.some.inj h).symm
  | initial => cases event <;> exact absurd h nofun
  | failed => cases event <;> exact absurd h nofun
  | loaded url => cases event <;> exact absurd h nofun

end Follows

namespace SDWebImage

variable {URL Image Data View : Type}

/-! ### Views and loads -/

/-- A view that has a load shows its placeholder while it runs; one that never had a load
shows the image of the nib. -/
structure LoaderViews (s : SDWebImage URL Image Data View) : Prop where
  running : ∀ n operation, s.Running n operation →
    s.views operation.view = ⟨.placeholder, some n⟩
  uncancelled : s.RunningUncancelled
  known : ∀ view n, (s.views view).operation = some n → (s.views view).image ≠ .initial ∧
    ∃ operation, s.operations[n]? = some operation ∧ operation.view = view
  fresh : ∀ view, (s.views view).operation = none → (s.views view).image = .initial

/-- The latest load of the view. -/
def latest (s : SDWebImage URL Image Data View) (view : View) :
    Option (SDWebImageCombinedOperation URL View) :=
  (s.views view).operation.bind fun n => s.operations[n]?

/-- How a view shows its latest load. -/
def showing (operation : SDWebImageCombinedOperation URL View) :
    Picture Image → UIImageView URL
  | .initial => .initial
  | .placeholder => if operation.running then .loading operation.url else .failed
  | .image _ => .loaded operation.url

/-- The view, as the cells see it. -/
def imageView (s : SDWebImage URL Image Data View) (view : View) : UIImageView URL :=
  match s.latest view with
  | none => .initial
  | some operation => showing operation (s.views view).image

/-- The URLs the view is set to by the event. -/
def Event.urls [DecidableEq View] (view : View) : Event URL Data View → List URL
  | .setImage other url => if other = view then [url] else []
  | _ => []

variable {s s' : SDWebImage URL Image Data View} {view : View} {n : ℕ}
  {operation : SDWebImageCombinedOperation URL View}
  {operations : List (SDWebImageCombinedOperation URL View)}
  {downloads : List (SDWebImageDownloaderOperation URL Data)}

theorem loaderViews_launched (diskCache : String → Option Data) :
    (launched diskCache : SDWebImage URL Image Data View).LoaderViews where
  running _ _ h := absurd h.1 (by simp [launched])
  uncancelled _ _ h := absurd h.1 (by simp [launched])
  known _ _ h := absurd h (by simp [launched])
  fresh _ _ := rfl

/-- The invariant is about the views and the operations. -/
theorem LoaderViews.congr (h : s.LoaderViews) (hviews : s'.views = s.views)
    (hoperations : s'.operations = s.operations) : s'.LoaderViews := by
  refine ⟨fun n operation hn => ?_, fun n operation hn => ?_, fun view n hn => ?_,
    fun view hview => ?_⟩
  · rw [Running, hoperations] at hn
    rw [hviews]
    exact h.running n operation hn
  · rw [Running, hoperations] at hn
    exact h.uncancelled n operation hn
  · rw [hviews] at hn ⊢
    rw [hoperations]
    exact h.known view n hn
  · rw [hviews] at hview ⊢
    exact h.fresh view hview

/-- A view goes by its own entry and the operation there. -/
theorem LoaderViews.imageView_congr (h : s.LoaderViews) (hviews : s'.views view = s.views view)
    (hoperations : ∀ n operation, (s.views view).operation = some n →
      s.operations[n]? = some operation → s'.operations[n]? = some operation) :
    s'.imageView view = s.imageView view := by
  have hlatest : s'.latest view = s.latest view := by
    rw [latest, latest, hviews]
    cases hoperation : (s.views view).operation with
    | none => rfl
    | some n =>
      obtain ⟨-, operation, hn, -⟩ := h.known view n hoperation
      rw [Option.bind_some, Option.bind_some, hn]
      exact hoperations n operation hoperation hn
  rw [imageView, imageView, hlatest, hviews]

theorem imageView_eq {picture : Picture Image} (hview : s.views view = ⟨picture, some n⟩)
    (hn : s.operations[n]? = some operation) :
    s.imageView view = showing operation picture := by
  have hlatest : s.latest view = some operation := by rw [latest, hview, Option.bind_some, hn]
  rw [imageView, hlatest, hview]

theorem LoaderViews.imageView_running (h : s.LoaderViews) (hn : s.Running n operation) :
    s.imageView operation.view = .loading operation.url := by
  rw [imageView_eq (h.running n operation hn) hn.1]
  exact if_pos hn.2

/-- The load of another view is another one. -/
theorem LoaderViews.ne_of_view (h : s.LoaderViews) (hn : s.operations[n]? = some operation)
    (hne : view ≠ operation.view) {m : ℕ} (hm : (s.views view).operation = some m) : n ≠ m := by
  rintro rfl
  obtain ⟨-, operation', hn', hview⟩ := h.known view n hm
  rw [Option.some.inj (hn'.symm.trans hn)] at hview
  exact hne hview.symm

/-- Only the latest load of the view is touched. -/
theorem Cancelled.getElem?_cases (h : Cancelled s view operations downloads) (m : ℕ) :
    operations[m]? = s.operations[m]? ∨
      (s.views view).operation = some m ∧ operations[m]? = s.operations[m]?.map retire := by
  cases h with
  | nothing _ => exact .inl rfl
  | load n operation hview hn _ =>
    by_cases hnm : n = m
    · subst hnm
      exact .inr ⟨hview, by rw [List.getElem?_modify_eq]; rfl⟩
    · exact .inl (List.getElem?_modify_ne _ _ hnm)
  | request n d operation hview hn _ =>
    by_cases hnm : n = m
    · subst hnm
      exact .inr ⟨hview, by rw [List.getElem?_modify_eq]; rfl⟩
    · exact .inl (List.getElem?_modify_ne _ _ hnm)

/-- What runs after the cancelling has run before, for another view. -/
theorem Cancelled.running (hcancelled : Cancelled s view operations downloads)
    (h : s.LoaderViews) {m : ℕ} {other : SDWebImageCombinedOperation URL View}
    (hm : operations[m]? = some other) (hrunning : other.running = true) :
    s.Running m other ∧ other.view ≠ view := by
  have hsame : s.operations[m]? = some other := by
    rcases hcancelled.getElem?_cases m with hsame | ⟨-, hretired⟩
    · rw [← hsame]
      exact hm
    · rw [hm] at hretired
      obtain ⟨old, -, rfl⟩ := Option.map_eq_some_iff.mp hretired.symm
      exact absurd hrunning (by simp [retire])
  have hbefore : s.Running m other := ⟨hsame, hrunning⟩
  refine ⟨hbefore, fun hview => ?_⟩
  have hentry : (s.views view).operation = some m := by
    rw [← hview, h.running m other hbefore]
  cases hcancelled with
  | nothing hnone => exact hnone m other hentry hbefore
  | load n operation hoperation _ _ =>
    obtain rfl : n = m := Option.some.inj (hoperation.symm.trans hentry)
    rw [List.getElem?_modify_eq, hsame] at hm
    rw [← Option.some.inj hm] at hrunning
    exact absurd hrunning (by simp [retire])
  | request n d operation hoperation _ _ =>
    obtain rfl : n = m := Option.some.inj (hoperation.symm.trans hentry)
    rw [List.getElem?_modify_eq, hsame] at hm
    rw [← Option.some.inj hm] at hrunning
    exact absurd hrunning (by simp [retire])

theorem runDownload_frame (d : ℕ)
    (f : SDWebImageDownloaderOperation URL Data →
      SDWebImageDownloaderOperation URL Data × List (MainBlock Image Data)) :
    (s.runDownload d f).views = s.views ∧ (s.runDownload d f).operations = s.operations := by
  rw [runDownload]
  cases s.downloads[d]? <;> exact ⟨rfl, rfl⟩

theorem runIOQueue_frame (C : ImageCoders URL Image Data) :
    (s.runIOQueue C).views = s.views ∧ (s.runIOQueue C).operations = s.operations := by
  cases hqueue : s.ioQueue with
  | nil => rw [runIOQueue, hqueue]; exact ⟨rfl, rfl⟩
  | cons block blocks =>
    have hmove := runIOQueue_cases (C := C) hqueue
    generalize s.runIOQueue C = s' at hmove
    cases hmove <;> exact ⟨rfl, rfl⟩

/-- The token of its download changes nothing of a load that a view sees. -/
theorem LoaderViews.requested (h : s.LoaderViews) (n d : ℕ) :
    (s.requested n d).LoaderViews ∧
      ∀ view, (s.requested n d).imageView view = s.imageView view := by
  -- The load gets its token, which no view reads.
  have hcases : ∀ m : ℕ, (s.requested n d).operations[m]? = s.operations[m]? ∨
      (s.requested n d).operations[m]? =
        s.operations[m]?.map fun operation : SDWebImageCombinedOperation URL View =>
          { operation with loaderOperation := some d } := by
    intro m
    by_cases hnm : n = m
    · subst hnm
      exact .inr (List.getElem?_modify_eq _ _ _)
    · exact .inl (List.getElem?_modify_ne _ _ hnm)
  have hrunning : ∀ m operation, (s.requested n d).Running m operation →
      ∃ before, s.Running m before ∧ before.view = operation.view ∧
        before.cancelled = operation.cancelled ∧
        before.queryCancelled = operation.queryCancelled := by
    intro m operation hm
    rcases hcases m with hsame | hmap
    · exact ⟨operation, ⟨hsame ▸ hm.1, hm.2⟩, rfl, rfl, rfl⟩
    · obtain ⟨before, hbefore, rfl⟩ := Option.map_eq_some_iff.mp (hmap.symm.trans hm.1)
      exact ⟨before, ⟨hbefore, hm.2⟩, rfl, rfl, rfl⟩
  refine ⟨⟨fun m operation hm => ?_, fun m operation hm => ?_, fun view m hm => ?_, h.fresh⟩,
    fun view => ?_⟩
  · obtain ⟨before, hbefore, hview, -⟩ := hrunning m operation hm
    rw [← hview]
    exact h.running m before hbefore
  · obtain ⟨before, hbefore, -, hcancelled, hquery⟩ := hrunning m operation hm
    rw [← hcancelled, ← hquery]
    exact h.uncancelled m before hbefore
  · obtain ⟨himage, operation, hoperation, hview⟩ := h.known view m hm
    refine ⟨himage, ?_⟩
    rcases hcases m with hsame | hmap
    · exact ⟨operation, hsame.trans hoperation, hview⟩
    · exact ⟨{ operation with loaderOperation := some d }, by rw [hmap, hoperation]; rfl, hview⟩
  · have hviews : (s.requested n d).views = s.views := rfl
    rw [imageView, imageView, latest, latest, hviews]
    cases (s.views view).operation with
    | none => rfl
    | some m =>
      rw [Option.bind_some, Option.bind_some]
      rcases hcases m with hsame | hmap
      · rw [hsame]
      · rw [hmap]
        cases s.operations[m]? with
        | none => rfl
        | some operation => cases (s.views view).image <;> rfl

theorem LoaderViews.join (h : s.LoaderViews) :
    s.join.LoaderViews ∧ ∀ view, s.join.imageView view = s.imageView view := by
  rw [SDWebImage.join]
  cases s.joining with
  | none => exact ⟨h, fun view => rfl⟩
  | some request =>
    obtain ⟨hviews, hsame⟩ :=
      LoaderViews.requested (s := s.modifyDownload request.2 (addHandlers request.1))
        (h.congr rfl rfl) request.1 request.2
    exact ⟨hviews.congr rfl rfl, hsame⟩

section Moves

variable [DecidableEq View]

/-- The view is set to a URL: a new load takes the place of its latest one. -/
theorem LoaderViews.set (h : s.LoaderViews) (hcancelled : Cancelled s view operations downloads)
    {picture : Picture Image} (hview : operation.view = view) (hpicture : picture ≠ .initial)
    (hrunning : operation.running = true → picture = .placeholder ∧
      operation.cancelled = false ∧ operation.queryCancelled = false)
    (hviews : s'.views = Function.update s.views view ⟨picture, some s.operations.length⟩)
    (hoperations : s'.operations = operations ++ [operation]) :
    s'.LoaderViews ∧ (∀ other, other ≠ view → s'.imageView other = s.imageView other) ∧
      s'.imageView view = showing operation picture := by
  have hlength := hcancelled.length_eq
  have hnew : s'.operations[s.operations.length]? = some operation := by
    rw [hoperations, ← hlength, List.getElem?_concat_length]
  have hold : ∀ m, m < s.operations.length → s'.operations[m]? = operations[m]? := by
    intro m hm
    rw [hoperations, List.getElem?_append_left (by omega)]
  have hsame : ∀ other, other ≠ view → s'.views other = s.views other := by
    intro other hne
    rw [hviews, Function.update_of_ne hne]
  have hself : s'.views view = ⟨picture, some s.operations.length⟩ := by
    rw [hviews, Function.update_self]
  -- The latest load of another view is neither the new one nor the one cancelled.
  have hlatest : ∀ other m entry, other ≠ view → (s.views other).operation = some m →
      s.operations[m]? = some entry → s'.operations[m]? = some entry := by
    intro other m entry hne hm hentry
    have hlt : m < s.operations.length := (List.getElem?_eq_some_iff.mp hentry).1
    rw [hold m hlt]
    rcases hcancelled.getElem?_cases m with hkept | ⟨hview', -⟩
    · rw [hkept, hentry]
    · obtain ⟨-, entry', hentry', hother⟩ := h.known other m hm
      obtain ⟨-, entry'', hentry'', hother'⟩ := h.known view m hview'
      rw [Option.some.inj (hentry'.symm.trans hentry'')] at hother
      exact absurd (hother.symm.trans hother') hne
  -- A load that runs is the new one, or one of another view that ran before.
  have hruns : ∀ m entry, s'.Running m entry →
      m = s.operations.length ∧ entry = operation ∨ s.Running m entry ∧ entry.view ≠ view := by
    intro m entry hm
    by_cases hlt : m < s.operations.length
    · exact .inr (hcancelled.running h ((hold m hlt).symm.trans hm.1) hm.2)
    · have hle : m < s'.operations.length := (List.getElem?_eq_some_iff.mp hm.1).1
      rw [hoperations, List.length_append, List.length_singleton] at hle
      obtain rfl : m = s.operations.length := by omega
      exact .inl ⟨rfl, Option.some.inj (hm.1.symm.trans hnew)⟩
  refine ⟨⟨fun m entry hm => ?_, fun m entry hm => ?_, fun other m hm => ?_, fun other hm => ?_⟩,
    fun other hne => ?_, imageView_eq hself hnew⟩
  · rcases hruns m entry hm with ⟨rfl, rfl⟩ | ⟨hm', hne⟩
    · rw [hview, hself, (hrunning hm.2).1]
    · rw [hsame _ hne]
      exact h.running m entry hm'
  · rcases hruns m entry hm with ⟨rfl, rfl⟩ | ⟨hm', -⟩
    · exact (hrunning hm.2).2
    · exact h.uncancelled m entry hm'
  · by_cases hother : other = view
    · subst hother
      rw [hself] at hm ⊢
      obtain rfl := Option.some.inj hm
      exact ⟨hpicture, operation, hnew, hview⟩
    · rw [hsame other hother] at hm ⊢
      obtain ⟨himage, entry, hentry, hview'⟩ := h.known other m hm
      exact ⟨himage, entry, hlatest other m entry hother hm hentry, hview'⟩
  · by_cases hother : other = view
    · subst hother
      rw [hself] at hm
      exact absurd hm (by simp)
    · rw [hsame other hother] at hm ⊢
      exact h.fresh other hm
  · exact h.imageView_congr (hsame other hne) fun m entry hm hentry =>
      hlatest other m entry hne hm hentry

/-- The running load `n` changes, and with it at most the picture of its view. -/
theorem LoaderViews.moved (h : s.LoaderViews) (hn : s.Running n operation)
    {operation' : SDWebImageCombinedOperation URL View} {picture : Picture Image}
    (hview : operation'.view = operation.view) (hpicture : picture ≠ .initial)
    (hrunning : operation'.running = true → picture = .placeholder ∧
      operation'.cancelled = false ∧ operation'.queryCancelled = false)
    (hviews : s'.views = Function.update s.views operation.view ⟨picture, some n⟩)
    (hoperations : s'.operations = s.operations.modify n fun _ => operation') :
    s'.LoaderViews ∧ (∀ view, view ≠ operation.view → s'.imageView view = s.imageView view) ∧
      s'.imageView operation.view = showing operation' picture := by
  have hn' : s'.operations[n]? = some operation' := by
    rw [hoperations, List.getElem?_modify_eq, hn.1]
    rfl
  have hother : ∀ m, n ≠ m → s'.operations[m]? = s.operations[m]? := by
    intro m hne
    rw [hoperations, List.getElem?_modify_ne _ _ hne]
  have hsame : ∀ view, view ≠ operation.view → s'.views view = s.views view := by
    intro view hne
    rw [hviews, Function.update_of_ne hne]
  have hself : s'.views operation.view = ⟨picture, some n⟩ := by
    rw [hviews, Function.update_self]
  -- Two running loads have two views, so the others keep their entries.
  refine ⟨⟨fun m other hm => ?_, fun m other hm => ?_, fun view m hm => ?_, fun view hview' => ?_⟩,
    fun view hne => ?_, imageView_eq hself hn'⟩
  · by_cases hnm : n = m
    · subst hnm
      obtain rfl : operation' = other := Option.some.inj (hn'.symm.trans hm.1)
      rw [hview, hself, (hrunning hm.2).1]
    · have hm' : s.Running m other := ⟨(hother m hnm).symm.trans hm.1, hm.2⟩
      rw [hsame _ ?_]
      · exact h.running m other hm'
      · intro heq
        have hentry := h.running m other hm'
        rw [heq, h.running n operation hn] at hentry
        exact hnm (Option.some.inj (congrArg WebImageView.operation hentry))
  · by_cases hnm : n = m
    · subst hnm
      obtain rfl : operation' = other := Option.some.inj (hn'.symm.trans hm.1)
      exact (hrunning hm.2).2
    · exact h.uncancelled m other ⟨(hother m hnm).symm.trans hm.1, hm.2⟩
  · by_cases hv : view = operation.view
    · subst hv
      rw [hself] at hm ⊢
      obtain rfl : n = m := Option.some.inj hm
      exact ⟨hpicture, operation', hn', hview⟩
    · rw [hsame view hv] at hm ⊢
      obtain ⟨himage, other, hm', hview'⟩ := h.known view m hm
      refine ⟨himage, other, ?_, hview'⟩
      rw [hother m (h.ne_of_view hn.1 hv hm)]
      exact hm'
  · by_cases hv : view = operation.view
    · subst hv
      rw [hself] at hview'
      exact absurd hview' (by simp)
    · rw [hsame view hv] at hview' ⊢
      exact h.fresh view hview'
  · refine h.imageView_congr (hsame view hne) fun m other hm hm' => ?_
    rw [hother m (h.ne_of_view hn.1 hne hm)]
    exact hm'

/-! ### Steps and runs -/

variable {C : ImageCoders URL Image Data} {event : Event URL Data View}

/-- A view that is set to a URL shows the placeholder, or the image memory has. -/
theorem SetImage.cases_views {url : URL} (hset : SetImage C s view url operations downloads s') :
    ∃ (operation : SDWebImageCombinedOperation URL View) (picture : Picture Image),
      operation.view = view ∧ operation.url = url ∧ picture ≠ .initial ∧
      (operation.running = true → picture = .placeholder ∧
        operation.cancelled = false ∧ operation.queryCancelled = false) ∧
      s'.views = Function.update s.views view ⟨picture, some s.operations.length⟩ ∧
      s'.operations = operations ++ [operation] ∧
      Follows (.loading url) [] (showing operation picture) ∧
      ∀ image, picture = .image image → s.memoryCache (C.absoluteString url) = some image := by
  cases hset with
  | refused _ =>
    exact ⟨{ url := url, view := view }, .placeholder, rfl, rfl, by simp, by simp, rfl, rfl,
      .failed url, by simp⟩
  | found image hmemory _ =>
    refine ⟨{ url := url, view := view }, .image image, rfl, rfl, by simp, by simp, rfl, rfl,
      .finished url, fun image' himage => ?_⟩
    rw [← Picture.image.inj himage]
    exact hmemory
  | asked _ _ =>
    exact ⟨{ url := url, view := view, running := true, cacheOperation := true }, .placeholder,
      rfl, rfl, by simp, fun _ => ⟨rfl, rfl, rfl⟩, rfl, rfl, .refl _, by simp⟩

/-- A view is set to a URL. -/
theorem SetImage.follows {url : URL} (hset : SetImage C s view url operations downloads s')
    (hcancelled : Cancelled s view operations downloads) (h : s.LoaderViews) :
    s'.LoaderViews ∧ ∀ other, Follows (s.imageView other) (if view = other then [url] else [])
      (s'.imageView other) := by
  obtain ⟨operation, picture, hview, hurl, hpicture, hrunning, hviews, hoperations, hfollows, -⟩ :=
    hset.cases_views
  obtain ⟨hviews', hothers, hself⟩ :=
    h.set hcancelled hview hpicture hrunning hviews hoperations
  refine ⟨hviews', fun other => ?_⟩
  by_cases hother : view = other
  · subst hother
    rw [if_pos rfl, hself]
    exact (Follows.set _ url).trans hfollows
  · rw [if_neg hother, hothers other (Ne.symm hother)]
    exact .refl _

variable [DecidableEq URL]

/-- A running load changes with at most the picture of its view, which is the image the
block has brought. -/
theorem LoadMove.cases_views {block : MainBlock Image Data}
    (hmove : LoadMove C s n operation block s') (h : s.LoaderViews) (hn : s.Running n operation) :
    ∃ (operation' : SDWebImageCombinedOperation URL View) (picture : Picture Image),
      operation'.view = operation.view ∧ operation'.url = operation.url ∧ picture ≠ .initial ∧
      (operation'.running = true → picture = .placeholder ∧
        operation'.cancelled = false ∧ operation'.queryCancelled = false) ∧
      s'.views = Function.update s.views operation.view ⟨picture, some n⟩ ∧
      s'.operations = s.operations.modify n (fun _ => operation') ∧
      Follows (.loading operation.url) [] (showing operation' picture) ∧
      ∀ image, picture = .image image → block.Brings image := by
  have hentry := h.running n operation hn
  have huncancelled := h.uncancelled n operation hn
  -- A running load has left its view on the placeholder.
  have hsame : s.views = Function.update s.views operation.view ⟨.placeholder, some n⟩ := by
    rw [← hentry, Function.update_eq_self]
  cases hmove with
  | found image =>
    refine ⟨{ operation with cacheOperation := false, running := false }, .image image, rfl, rfl,
      by simp, by simp, ?_, modify_eq_const hn.1 _, .finished _, fun image' himage => ?_⟩
    · rw [hentry]
    · rw [Picture.image.inj himage]
      rfl
  | joined d _ =>
    refine ⟨{ operation with cacheOperation := false }, .placeholder,
      rfl, rfl, by simp, fun _ => ⟨rfl, huncancelled⟩, hsame, modify_eq_const hn.1 _, ?_, by simp⟩
    rw [showing, if_pos hn.2]
    exact .refl _
  | created _ =>
    refine ⟨{ operation with
      cacheOperation := false
      loaderOperation := some s.downloads.length }, .placeholder,
      rfl, rfl, by simp, fun _ => ⟨rfl, huncancelled⟩, hsame, modify_eq_const hn.1 _, ?_, by simp⟩
    rw [showing, if_pos hn.2]
    exact .refl _
  | failed error failedURLs _ =>
    exact ⟨{ operation with running := false }, .placeholder, rfl, rfl, by simp, by simp, hsame,
      modify_eq_const hn.1 _, .failed _, by simp⟩
  | loaded image data =>
    refine ⟨{ operation with running := false }, .image image, rfl, rfl, by simp, by simp, ?_,
      modify_eq_const hn.1 _, .finished _, fun image' himage => ?_⟩
    · rw [hentry]
    · rw [Picture.image.inj himage]
      exact ⟨data, rfl⟩

/-- A running load moves: its view goes on loading, or the load has ended. -/
theorem LoadMove.follows {block : MainBlock Image Data} (hmove : LoadMove C s n operation block s')
    (h : s.LoaderViews) (hn : s.Running n operation) :
    s'.LoaderViews ∧ ∀ view, Follows (s.imageView view) [] (s'.imageView view) := by
  obtain ⟨operation', picture, hview, -, hpicture, hrunning, hviews, hoperations, hfollows, -⟩ :=
    hmove.cases_views h hn
  obtain ⟨hviews', hothers, hself⟩ := h.moved hn hview hpicture hrunning hviews hoperations
  refine ⟨hviews', fun view => ?_⟩
  by_cases hv : view = operation.view
  · subst hv
    rw [h.imageView_running hn, hself]
    exact hfollows
  · rw [hothers view hv]
    exact .refl _

/-- Each view takes its own steps, or none. -/
theorem imageView_step (h : s.LoaderViews) (hstep : (system View C).Step s event s') :
    s'.LoaderViews ∧
      ∀ view, Follows (s.imageView view) (event.urls view) (s'.imageView view) := by
  obtain ⟨henabled, hnext⟩ := hstep
  obtain rfl := Option.some.inj hnext
  -- Most events change neither the views nor the loads.
  have hframe : ∀ {t : SDWebImage URL Image Data View}, t.views = s.views →
      t.operations = s.operations →
      t.LoaderViews ∧ ∀ view, Follows (s.imageView view) [] (t.imageView view) := by
    intro t hviews hoperations
    refine ⟨h.congr hviews hoperations, fun view => ?_⟩
    have hsame : t.imageView view = s.imageView view :=
      h.imageView_congr (by rw [hviews]) fun n operation _ hn => by rw [hoperations, hn]
    rw [hsame]
    exact .refl _
  cases event with
  | setImage view url =>
    obtain ⟨operations, downloads, hcancelled, hset⟩ :=
      setImage_cases (C := C) h.uncancelled view url
    exact hset.follows hcancelled h
  | main =>
    obtain ⟨block, blocks, hqueue⟩ := List.exists_cons_of_ne_nil henabled.1
    rcases runMain_cases (C := C) h.uncancelled hqueue with ⟨-, heq⟩ | ⟨operation, hn, hmove⟩
    · show (s.runMain C).LoaderViews ∧ ∀ view, Follows _ [] ((s.runMain C).imageView view)
      rw [heq]
      exact hframe rfl rfl
    · exact hmove.follows (s := { s with mainQueue := blocks }) (h.congr rfl rfl) hn
  | join =>
    refine ⟨h.join.1, fun view => ?_⟩
    rw [← h.join.2 view]
    exact .refl _
  | io => exact hframe (runIOQueue_frame C).1 (runIOQueue_frame C).2
  | start d => exact hframe (runDownload_frame d _).1 (runDownload_frame d _).2
  | didComplete d error responseError imageData => exact hframe rfl rfl
  | work d => exact hframe (runDownload_frame d _).1 (runDownload_frame d _).2
  | completionBlock d =>
    show (s.completionBlock d).LoaderViews ∧
      ∀ view, Follows _ [] ((s.completionBlock d).imageView view)
    rw [completionBlock]
    cases s.downloads[d]? with
    | none => exact hframe rfl rfl
    | some operation => exact hframe rfl rfl
  | evictMemory key => exact hframe rfl rfl
  | evictDisk key => exact hframe rfl rfl

/-- Along a run each view follows an image view of its own, set to the same URLs. -/
theorem imageView_follows {events : List (Event URL Data View)}
    (hrun : (system View C).Run s events s') (h : s.LoaderViews) :
    s'.LoaderViews ∧ ∀ view, Follows (s.imageView view) (events.flatMap (Event.urls view))
      (s'.imageView view) := by
  induction hrun with
  | nil => exact ⟨h, fun view => .refl _⟩
  | cons hstep _ ih =>
    obtain ⟨hviews, hfollows⟩ := imageView_step h hstep
    obtain ⟨hviews', hfollows'⟩ := ih hviews
    refine ⟨hviews', fun view => ?_⟩
    rw [List.flatMap_cons]
    exact (hfollows view).trans (hfollows' view)

end Moves

/-! ### URLs that have failed -/

/-- Images are the texts they are decoded from. -/
def textCoders : ImageCoders String String String where
  absoluteString url := url
  decodeCached _ data := some data
  decodeLoaded _ data := some data
  hasPixels image := image ≠ ""

section FailedURLs

variable [DecidableEq View] [DecidableEq URL] {C : ImageCoders URL Image Data}
  {s s' : SDWebImage URL Image Data View} {event : Event URL Data View} {url : URL}

end FailedURLs

end SDWebImage

end HolyWater
