/-
The cells of the collection views, and what reuse leaves of earlier contents.

Cells are configured anew each time the collection view reuses them.  None of
the three resets itself first, and `configure` returns early on an image string
that is no URL, so a cell can keep what an earlier call put there.

* `ShowsImage` — what the three cells share: an image view that a call changes
  only when its image string is a URL, and that loads on its own;
* `cells_forget_iff` — a cell shows nothing of its past exactly when no call
  with a rejected image string finds an image set before, and (for the book
  cell) no call in the summary colour finds the label dimmed before;
* `cells_keep_earlier_contents` — both really happen.
-/
import HolyWater.Reusable
import Mathlib.Data.Rat.Defs
import Mathlib.Tactic.NormNum

namespace HolyWater

namespace Constants

def colorlblsummary : String := "c_lbl_summary"

def colorWhite : String := "c_white"

end Constants

variable {URL UIColor : Type}

/-! ### The image view -/

/-- An image view as the nib and the image loader leave it: the image of the
nib, the placeholder while a load is running or after it failed, or the image
that was loaded. -/
inductive UIImageView (URL : Type) where
  | initial
  | loading (url : URL)
  | failed
  | loaded (url : URL)
  deriving DecidableEq, Repr

/-- The image one sees. -/
inductive ShownImage (URL : Type) where
  | initial
  | placeholder
  | loaded (url : URL)
  deriving DecidableEq, Repr

/-- How a running load ends. -/
inductive LoadEvent where
  | finished
  | failed
  deriving DecidableEq, Repr

namespace UIImageView

def shown : UIImageView URL → ShownImage URL
  | initial => .initial
  | loading _ => .placeholder
  | failed => .placeholder
  | loaded url => .loaded url

/-- Cancel the load in progress, show the placeholder and load `url`. -/
def sd_setImage (_ : UIImageView URL) (url : URL) : UIImageView URL := loading url

/-- The end of the running load, if there is one. -/
def load : UIImageView URL → LoadEvent → Option (UIImageView URL)
  | loading url, .finished => some (loaded url)
  | loading _, .failed => some failed
  | _, _ => none

/-- The part of `configure` the three cells share: no URL, no change. -/
def setImage (urlOf : String → Option URL) (image : String) (view : UIImageView URL) :
    UIImageView URL :=
  match urlOf image with
  | none => view
  | some imageURL => view.sd_setImage imageURL

theorem shown_eq_initial_iff {view : UIImageView URL} :
    view.shown = .initial ↔ view = initial := by
  cases view <;> simp [shown]

end UIImageView

/-! ### The three cells -/

structure BookCollectionViewCell (URL UIColor : Type) where
  cellImage : UIImageView URL := .initial
  text : String := "A Beta Before an Alpha"
  textColor : Option UIColor
  opacity : ℚ := 1
  cornerRadius : ℚ := 0

/-- The arguments of `BookCollectionViewCell.configure`. -/
structure BookConfiguration where
  label : String
  image : String
  labelColor : String
  deriving DecidableEq, Repr

def BookCollectionViewCell.configure (urlOf : String → Option URL)
    (named : String → Option UIColor) (args : BookConfiguration)
    (cell : BookCollectionViewCell URL UIColor) : BookCollectionViewCell URL UIColor :=
  let cell := { cell with textColor := named args.labelColor }
  let cell := { cell with text := args.label }
  -- No branch sets the opacity back to 1.
  let cell :=
    if args.labelColor ≠ Constants.colorlblsummary then { cell with opacity := 7 / 10 } else cell
  match urlOf args.image with
  | none => cell
  | some imageURL =>
    { cell with cellImage := cell.cellImage.sd_setImage imageURL, cornerRadius := 16 }

structure BannerCollectionViewCell (URL : Type) where
  cellImage : UIImageView URL := .initial
  cornerRadius : ℚ := 0

def BannerCollectionViewCell.configure (urlOf : String → Option URL) (image : String)
    (cell : BannerCollectionViewCell URL) : BannerCollectionViewCell URL :=
  match urlOf image with
  | none => cell
  | some imageURL =>
    { cell with cellImage := cell.cellImage.sd_setImage imageURL, cornerRadius := 16 }

/-- The corner radius is the one `awakeFromNib` sets. -/
structure CarouselCollectionViewCell (URL : Type) where
  cellImage : UIImageView URL := .initial
  cornerRadius : ℚ := 16

/-- The arguments of `CarouselCollectionViewCell.configure`. -/
structure CarouselConfiguration where
  image : String
  book : String
  author : String
  deriving DecidableEq, Repr

def CarouselCollectionViewCell.configure (urlOf : String → Option URL)
    (args : CarouselConfiguration) (cell : CarouselCollectionViewCell URL) :
    CarouselCollectionViewCell URL :=
  match urlOf args.image with
  | none => cell
  | some imageUrl => { cell with cellImage := cell.cellImage.sd_setImage imageUrl }

/-! ### The cells as reusable objects -/

/-- What one sees of a book cell. -/
structure BookCellVisible (URL UIColor : Type) where
  text : String
  textColor : Option UIColor
  opacity : ℚ
  image : ShownImage URL
  deriving DecidableEq, Repr

def bookCell (urlOf : String → Option URL) (named : String → Option UIColor)
    (nibColor : Option UIColor) :
    Reusable (BookCollectionViewCell URL UIColor) BookConfiguration LoadEvent
      (BookCellVisible URL UIColor) where
  fresh := { textColor := nibColor }
  configure := BookCollectionViewCell.configure urlOf named
  background cell e := (cell.cellImage.load e).map fun view => { cell with cellImage := view }
  visible cell := ⟨cell.text, cell.textColor, cell.opacity, cell.cellImage.shown⟩

def bannerCell (urlOf : String → Option URL) :
    Reusable (BannerCollectionViewCell URL) String LoadEvent (ShownImage URL) where
  fresh := {}
  configure := BannerCollectionViewCell.configure urlOf
  background cell e := (cell.cellImage.load e).map fun view => { cell with cellImage := view }
  visible cell := cell.cellImage.shown

def carouselCell (urlOf : String → Option URL) :
    Reusable (CarouselCollectionViewCell URL) CarouselConfiguration LoadEvent
      (ShownImage URL) where
  fresh := {}
  configure := CarouselCollectionViewCell.configure urlOf
  background cell e := (cell.cellImage.load e).map fun view => { cell with cellImage := view }
  visible cell := cell.cellImage.shown

/-- What the cells share: an image view behind `view` that starts out as in the
nib, that calls change by `setImage`, and whose loads are the cell's own events. -/
structure ShowsImage {C A V : Type} (R : Reusable C A LoadEvent V) (urlOf : String → Option URL)
    (image : A → String) (view : C → UIImageView URL) : Prop where
  fresh : view R.fresh = .initial
  configure : ∀ a c, view (R.configure a c) = (view c).setImage urlOf (image a)
  background : ∀ c e, (R.background c e).map view = (view c).load e

section ShowsImage

variable {C A V : Type} {R : Reusable C A LoadEvent V} {urlOf : String → Option URL}
  {image : A → String} {view : C → UIImageView URL}

/-- The call sets the image, or finds that of the nib. -/
def ImageReset (urlOf : String → Option URL) (image : A → String) (view : C → UIImageView URL)
    (c : C) (a : A) : Prop :=
  (urlOf (image a)).isSome ∨ view c = .initial

/-- Under `ImageReset`, the call leaves the image view it leaves on a fresh cell. -/
theorem ShowsImage.view_configure (h : ShowsImage R urlOf image view) {c : C} {a : A}
    (hreset : ImageReset urlOf image view c a) :
    view (R.configure a c) = view (R.configure a R.fresh) := by
  rw [h.configure, h.configure, h.fresh]
  rcases hreset with hurl | hinitial
  · obtain ⟨url, hurl⟩ := Option.isSome_iff_exists.mp hurl
    simp only [UIImageView.setImage, hurl, UIImageView.sd_setImage]
  · rw [hinitial]

/-- A rejected image string leaves a fresh cell with the image of the nib, for
good: no load is running that could replace it. -/
theorem ShowsImage.initial_of_rejected (h : ShowsImage R urlOf image view) {a : A}
    (hurl : urlOf (image a) = none) {es : List LoadEvent} {c : C}
    (hrun : R.system.Run (R.configure a R.fresh) (es.map .inr) c) : view c = .initial := by
  refine R.run_background_invariant (I := fun c => view c = .initial) ?_ hrun ?_
  · -- The image view of the nib has no load that could end.
    intro c e c' hc hbackground
    have hload := h.background c e
    rw [hbackground, hc] at hload
    exact absurd hload (by simp [UIImageView.load])
  · rw [h.configure, h.fresh]
    simp only [UIImageView.setImage, hurl]

/-- A fresh cell whose image string is rejected never shows anything but the
image of the nib. -/
theorem ShowsImage.not_freshVisible (h : ShowsImage R urlOf image view) {c : C} {a : A} {v : V}
    (shown : V → ShownImage URL) (hshown : ∀ c, shown (R.visible c) = (view c).shown)
    (hv : shown v = (view (R.configure a c)).shown)
    (hreset : ¬ ImageReset urlOf image view c a) : ¬ R.FreshVisible a v := by
  rintro ⟨es, d, hrun, rfl⟩
  rw [ImageReset, not_or, Option.not_isSome_iff_eq_none] at hreset
  obtain ⟨hurl, hinitial⟩ := hreset
  -- The early return has kept the image view of `c`, which is not the nib's.
  have hkept : view (R.configure a c) = view c := by
    rw [h.configure]
    simp only [UIImageView.setImage, hurl]
  rw [hshown, h.initial_of_rejected hurl hrun, hkept] at hv
  exact hinitial (UIImageView.shown_eq_initial_iff.mp hv.symm)

/-- A cell that shows an image and nothing else forgets its past exactly when
each call sets the image or finds that of the nib. -/
theorem ShowsImage.forgets_iff (h : ShowsImage R urlOf image view)
    (shown : V → ShownImage URL) (hshown : ∀ c, shown (R.visible c) = (view c).shown)
    (hinj : ∀ v w, shown v = shown w → v = w) (events : List (A ⊕ LoadEvent)) :
    R.Forgets events ↔ R.CallsMeet (ImageReset urlOf image view) events := by
  refine Reusable.forgets_iff (fun c d => view c = view d) ?_ ?_ ?_ ?_ events
  · intro c d hsame
    exact hinj _ _ (by rw [hshown, hshown, hsame])
  · intro c d c' e hsame hbackground
    have hload : (view d).load e = some (view c') := by
      rw [← hsame, ← h.background, hbackground, Option.map_some]
    rw [← h.background, Option.map_eq_some_iff] at hload
    obtain ⟨d', hd', hview⟩ := hload
    exact ⟨d', hd', hview.symm⟩
  · intro c a hreset
    exact h.view_configure hreset
  · intro c a hreset
    exact h.not_freshVisible shown hshown (hshown _) hreset

end ShowsImage

variable (urlOf : String → Option URL) (named : String → Option UIColor)
  (nibColor : Option UIColor)

theorem bannerCell_showsImage :
    ShowsImage (bannerCell urlOf) urlOf id BannerCollectionViewCell.cellImage where
  fresh := rfl
  configure image cell := by
    show (BannerCollectionViewCell.configure urlOf image cell).cellImage = _
    rw [BannerCollectionViewCell.configure, UIImageView.setImage, id]
    cases urlOf image <;> rfl
  background cell e := by
    show ((cell.cellImage.load e).map _).map _ = _
    cases cell.cellImage.load e <;> rfl

theorem carouselCell_showsImage :
    ShowsImage (carouselCell urlOf) urlOf CarouselConfiguration.image
      CarouselCollectionViewCell.cellImage where
  fresh := rfl
  configure args cell := by
    show (CarouselCollectionViewCell.configure urlOf args cell).cellImage = _
    rw [CarouselCollectionViewCell.configure, UIImageView.setImage]
    cases urlOf args.image <;> rfl
  background cell e := by
    show ((cell.cellImage.load e).map _).map _ = _
    cases cell.cellImage.load e <;> rfl

theorem bookCell_showsImage :
    ShowsImage (bookCell urlOf named nibColor) urlOf BookConfiguration.image
      BookCollectionViewCell.cellImage where
  fresh := rfl
  configure args cell := by
    show (BookCollectionViewCell.configure urlOf named args cell).cellImage = _
    rw [BookCollectionViewCell.configure, UIImageView.setImage]
    cases urlOf args.image <;> dsimp only <;> split <;> rfl
  background cell e := by
    show ((cell.cellImage.load e).map _).map _ = _
    cases cell.cellImage.load e <;> rfl

/-! ### The opacity of the book cell -/

namespace BookCollectionViewCell

/-- The call dims the label, or finds it undimmed. -/
def OpacityReset (cell : BookCollectionViewCell URL UIColor) (args : BookConfiguration) : Prop :=
  args.labelColor ≠ Constants.colorlblsummary ∨ cell.opacity = 1

variable {urlOf named nibColor}

@[simp] theorem configure_text (args : BookConfiguration)
    (cell : BookCollectionViewCell URL UIColor) :
    (cell.configure urlOf named args).text = args.label := by
  rw [configure]
  cases urlOf args.image <;> dsimp only <;> split <;> rfl

@[simp] theorem configure_textColor (args : BookConfiguration)
    (cell : BookCollectionViewCell URL UIColor) :
    (cell.configure urlOf named args).textColor = named args.labelColor := by
  rw [configure]
  cases urlOf args.image <;> dsimp only <;> split <;> rfl

/-- Only the branch that dims the label writes the opacity. -/
theorem configure_opacity (args : BookConfiguration) (cell : BookCollectionViewCell URL UIColor) :
    (cell.configure urlOf named args).opacity =
      if args.labelColor ≠ Constants.colorlblsummary then 7 / 10 else cell.opacity := by
  rw [configure]
  cases urlOf args.image <;> dsimp only <;> split <;> rfl

/-- A fresh cell configured in the summary colour is never dimmed. -/
theorem opacity_of_summary {args : BookConfiguration}
    (hcolor : args.labelColor = Constants.colorlblsummary) {v : BookCellVisible URL UIColor}
    (hv : (bookCell urlOf named nibColor).FreshVisible args v) : v.opacity = 1 := by
  obtain ⟨es, cell, hrun, rfl⟩ := hv
  refine (bookCell urlOf named nibColor).run_background_invariant
    (I := fun cell => cell.opacity = 1) ?_ hrun ?_
  · intro c e c' hc hbackground
    obtain ⟨view, -, rfl⟩ := Option.map_eq_some_iff.mp hbackground
    exact hc
  · show (BookCollectionViewCell.configure urlOf named args _).opacity = 1
    rw [configure_opacity, if_neg (not_not.mpr hcolor)]
    rfl

/-- **A book cell forgets its past exactly when each call resets image and
opacity**: it sets the image or finds that of the nib, and it dims the label or
finds it undimmed. -/
theorem bookCell_forgets_iff (events : List (BookConfiguration ⊕ LoadEvent)) :
    (bookCell urlOf named nibColor).Forgets events ↔
      (bookCell urlOf named nibColor).CallsMeet (fun cell args =>
        ImageReset urlOf BookConfiguration.image cellImage cell args ∧
          OpacityReset cell args) events := by
  have hshows := bookCell_showsImage urlOf named nibColor
  -- The corner radius is no part of what one sees.
  refine Reusable.forgets_iff (fun c d =>
    c.text = d.text ∧ c.textColor = d.textColor ∧ c.opacity = d.opacity ∧
      c.cellImage = d.cellImage) ?_ ?_ ?_ ?_ events
  · intro c d hsame
    obtain ⟨htext, hcolor, hopacity, himage⟩ := hsame
    show BookCellVisible.mk _ _ _ _ = BookCellVisible.mk _ _ _ _
    rw [htext, hcolor, hopacity, himage]
  · intro c d c' e hsame hbackground
    obtain ⟨htext, hcolor, hopacity, himage⟩ := hsame
    obtain ⟨view, hview, rfl⟩ := Option.map_eq_some_iff.mp hbackground
    refine ⟨{ d with cellImage := view }, ?_, htext, hcolor, hopacity, rfl⟩
    show (d.cellImage.load e).map _ = _
    rw [← himage, hview, Option.map_some]
  · intro c a hreset
    obtain ⟨hreset, hdim⟩ := hreset
    refine ⟨?_, ?_, ?_, hshows.view_configure hreset⟩
    · exact (configure_text a _).trans (configure_text a _).symm
    · exact (configure_textColor a _).trans (configure_textColor a _).symm
    · refine (configure_opacity a _).trans (Eq.trans ?_ (configure_opacity a _).symm)
      rcases hdim with hne | hone
      · rw [if_pos hne, if_pos hne]
      · rw [hone]
        rfl
  · intro c a hreset hv
    rcases not_and_or.mp hreset with himage | hdim
    · exact hshows.not_freshVisible BookCellVisible.image (fun _ => rfl) rfl himage hv
    · rw [OpacityReset, not_or, not_not] at hdim
      obtain ⟨hcolor, hopacity⟩ := hdim
      have hone : (BookCollectionViewCell.configure urlOf named a c).opacity = 1 :=
        opacity_of_summary hcolor hv
      rw [configure_opacity, if_neg (not_not.mpr hcolor)] at hone
      exact hopacity hone

end BookCollectionViewCell

/-! ### All three cells -/

/-- **What reuse leaves behind.**  Whatever calls are made and whenever loads
end, the three cells show nothing of their past exactly when each call sets the
image or finds that of the nib and, for the book cell, dims the label or finds
it undimmed. -/
theorem cells_forget_iff :
    (∀ events, (bookCell urlOf named nibColor).Forgets events ↔
      (bookCell urlOf named nibColor).CallsMeet (fun cell args =>
        ImageReset urlOf BookConfiguration.image BookCollectionViewCell.cellImage cell args ∧
          cell.OpacityReset args) events) ∧
    (∀ events, (bannerCell urlOf).Forgets events ↔
      (bannerCell urlOf).CallsMeet
        (ImageReset urlOf id BannerCollectionViewCell.cellImage) events) ∧
    (∀ events, (carouselCell urlOf).Forgets events ↔
      (carouselCell urlOf).CallsMeet
        (ImageReset urlOf CarouselConfiguration.image CarouselCollectionViewCell.cellImage)
        events) := by
  refine ⟨BookCollectionViewCell.bookCell_forgets_iff, ?_, ?_⟩
  · exact (bannerCell_showsImage urlOf).forgets_iff id (fun _ => rfl) (fun _ _ => id)
  · exact (carouselCell_showsImage urlOf).forgets_iff id (fun _ => rfl) (fun _ _ => id)

/-- `URL(string:)` as it is on the strings of the example below. -/
def urlExample (s : String) : Option String :=
  if s = "" then none else some s

/-- A banner whose cover has been loaded keeps showing it after a call with the
empty string, and a book cell stays dimmed in the summary colour. -/
theorem cells_keep_earlier_contents :
    ¬ (bannerCell urlExample).Forgets [.inl "cover", .inr .finished, .inl ""] ∧
      ¬ (bookCell urlExample some none).Forgets
        [.inl ⟨"Moby Dick", "whale", Constants.colorWhite⟩,
          .inl ⟨"Emma", "hartfield", Constants.colorlblsummary⟩] := by
  constructor
  · rw [(bannerCell_showsImage urlExample).forgets_iff id (fun _ => rfl) (fun _ _ => id)]
    intro h
    have hreset := h [.inl "cover", .inr .finished] "" (List.prefix_refl _)
      { cellImage := .loaded "cover", cornerRadius := 16 }
      (.cons ⟨trivial, rfl⟩ (.cons ⟨rfl, rfl⟩ (.nil _)))
    revert hreset
    simp [ImageReset, urlExample]
  · rw [BookCollectionViewCell.bookCell_forgets_iff]
    intro h
    obtain ⟨-, hopacity⟩ := h [.inl ⟨"Moby Dick", "whale", Constants.colorWhite⟩]
      ⟨"Emma", "hartfield", Constants.colorlblsummary⟩ (List.prefix_refl _) _
      (.cons ⟨trivial, rfl⟩ (.nil _))
    rcases hopacity with hcolor | hone
    · exact hcolor rfl
    · have hdimmed : (BookCollectionViewCell.configure urlExample some
          ⟨"Moby Dick", "whale", Constants.colorWhite⟩
          (bookCell urlExample some none).fresh).opacity = 7 / 10 := by
        rw [BookCollectionViewCell.configure_opacity, if_pos (by decide)]
      exact absurd (hdimmed.symm.trans hone) (by norm_num)

end HolyWater
