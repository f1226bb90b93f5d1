/-
How long a load takes.

Every block the queues run for a load uses up some of the work that was left for it, so
that the loader comes to rest when no more URLs are set: a download is started, completes,
decodes once for each token it has by then, and ends.

* `Sound` — what the flags and the tokens of a download have to do with each other;
* `workLeft` — the work that is left, which every block uses up some of (`workLeft_step`);
* `workLeft_run` — along every run, at most nineteen blocks for each URL that is set.
-/
import HolyWater.ImageViews

namespace HolyWater

namespace SDWebImage

variable {URL Image Data View : Type}

/-! ### A download, from its creation to its end -/

/-- What the flags and the tokens of a download have to do with each other. -/
structure Sound (operation : SDWebImageDownloaderOperation URL Data) : Prop where
  unstarted : operation.started = false → operation.dataTask = false ∧ operation.work = .none ∧
    operation.isExecuting = false ∧ operation.isFinished = false
  task : operation.dataTask = true → operation.work = .none ∧ operation.isFinished = false
  going : operation.started = true → operation.isFinished = false →
    operation.isExecuting = true ∧ operation.isCancelled = false ∧
      (operation.work = .none → operation.dataTask = true)
  ended : operation.isFinished = true → operation.isCancelled = false → operation.work = .none
  tokens : operation.isFinished = false → operation.isCancelled = false →
    operation.callbackTokens ≠ []
  copied : ∀ error imageData tokens, operation.work = .completed error imageData tokens →
    tokens ≠ []

section Sound

variable {operation : SDWebImageDownloaderOperation URL Data}

theorem sound_created (url : URL) (token : ℕ) :
    Sound ({ url := url, callbackTokens := [token] } : SDWebImageDownloaderOperation URL Data) where
  unstarted _ := ⟨rfl, rfl, rfl, rfl⟩
  task h := absurd h (by simp)
  going h := absurd h (by simp)
  ended h := absurd h (by simp)
  tokens _ _ := by simp
  copied _ _ _ h := absurd h (by simp)

theorem Sound.started_of_task (h : Sound operation) (htask : operation.dataTask = true) :
    operation.started = true := by
  by_contra hno
  exact absurd ((h.unstarted (by simpa using hno)).1.symm.trans htask) (by simp)

theorem Sound.started_of_work (h : Sound operation) (hwork : operation.work ≠ .none) :
    operation.started = true := by
  by_contra hno
  exact hwork (h.unstarted (by simpa using hno)).2.1

theorem Sound.addHandlers (h : Sound operation) (token : ℕ) :
    Sound (addHandlers token operation) :=
  ⟨h.unstarted, h.task, h.going, h.ended, fun _ _ => by simp [SDWebImage.addHandlers], h.copied⟩

theorem Sound.cancelInternal (h : Sound operation) : Sound (cancelInternal operation) := by
  rw [SDWebImage.cancelInternal]
  split
  · exact h
  · rename_i hfinished
    rw [Bool.not_eq_true] at hfinished
    refine ⟨fun hstarted => ?_, fun hno => absurd hno (by simp [reset]), fun hstarted hno => ?_,
      fun _ hno => absurd hno (by simp [reset]), fun _ hno => absurd hno (by simp [reset]),
      h.copied⟩
    · obtain ⟨-, hwork, hexecuting, -⟩ := h.unstarted hstarted
      exact ⟨rfl, hwork, rfl, hexecuting⟩
    · -- A started download that is not finished is executing.
      exact absurd ((h.going hstarted hfinished).1.symm.trans hno) (by simp)

theorem Sound.cancelToken (h : Sound operation) (token : ℕ) :
    Sound (cancelToken token operation) := by
  rw [SDWebImage.cancelToken]
  split
  · exact h.cancelInternal
  · rename_i hone
    refine ⟨h.unstarted, h.task, h.going, h.ended, fun hfinished hcancelled => ?_, h.copied⟩
    rw [ne_eq, List.erase_eq_nil_iff, not_or]
    exact ⟨h.tokens hfinished hcancelled, hone⟩

theorem Sound.startDownload (h : Sound operation) (hstarted : operation.started = false) :
    Sound (@startDownload URL Image Data operation).1 := by
  obtain ⟨-, hwork, -, hfinished⟩ := h.unstarted hstarted
  rw [SDWebImage.startDownload]
  dsimp only
  split
  · rename_i hcancelled
    refine ⟨fun hno => absurd hno (by simp [reset]), fun hno => absurd hno (by simp [reset]),
      fun _ hno => absurd hno (by simp [reset]), fun _ hno => ?_,
      fun hno => absurd hno (by simp [reset]), h.copied⟩
    exact absurd (hcancelled.symm.trans hno) (by simp)
  · rename_i hcancelled
    exact ⟨fun hno => absurd hno (by simp), fun _ => ⟨hwork, hfinished⟩,
      fun _ _ => ⟨rfl, by simpa using hcancelled, fun _ => rfl⟩,
      h.ended, h.tokens, h.copied⟩

theorem Sound.didCompleteWithError (h : Sound operation) (htask : operation.dataTask = true)
    (error responseError : Option LoadError) (imageData : Option Data) :
    Sound (didCompleteWithError error responseError imageData operation) := by
  have hstarted := h.started_of_task htask
  obtain ⟨hwork, hfinished⟩ := h.task htask
  obtain ⟨hexecuting, hcancelled, -⟩ := h.going hstarted hfinished
  rw [SDWebImage.didCompleteWithError, if_neg (by simp [hfinished])]
  refine ⟨fun hno => absurd (hstarted.symm.trans hno) (by simp), fun hno => absurd hno (by simp),
    fun _ _ => ⟨hexecuting, hcancelled, fun hno => absurd hno (by simp)⟩,
    fun hno => absurd (hfinished.symm.trans hno) (by simp), h.tokens, fun _ _ tokens hcopied => ?_⟩
  obtain ⟨-, -, rfl⟩ := DownloadWork.completed.inj hcopied
  exact h.tokens hfinished hcancelled

theorem Sound.done (h : Sound operation) (hwork : operation.work ≠ .none) :
    Sound (done operation) :=
  ⟨fun hno => absurd ((h.started_of_work hwork).symm.trans hno) (by simp),
    fun hno => absurd hno (by simp [SDWebImage.done, reset]),
    fun _ hno => absurd hno (by simp [SDWebImage.done, reset]), fun _ _ => rfl,
    fun hno => absurd hno (by simp [SDWebImage.done, reset]),
    fun _ _ _ hno => absurd hno (by simp [SDWebImage.done, reset])⟩

/-- A download at work goes on with other work. -/
theorem Sound.goesOn (h : Sound operation) (hwork : operation.work ≠ .none)
    {next : DownloadWork Data} (hnext : next ≠ .none)
    (hcopied : ∀ error imageData tokens, next = .completed error imageData tokens → tokens ≠ []) :
    Sound { operation with work := next } := by
  have hstarted := h.started_of_work hwork
  refine ⟨fun hno => absurd (hstarted.symm.trans hno) (by simp),
    fun htask => absurd (h.task htask).1 hwork, fun _ hfinished => ?_,
    fun hfinished hcancelled => absurd (h.ended hfinished hcancelled) hwork, h.tokens, hcopied⟩
  obtain ⟨hexecuting, hcancelled, -⟩ := h.going hstarted hfinished
  exact ⟨hexecuting, hcancelled, fun hno => absurd hno hnext⟩

theorem Sound.work (h : Sound operation) (hwork : operation.work ≠ .none)
    (C : ImageCoders URL Image Data) : Sound (work C operation).1 := by
  have hgoes : ∀ {next : DownloadWork Data}, next ≠ .none →
      (∀ error imageData tokens, next = .completed error imageData tokens → tokens ≠ []) →
      Sound { operation with work := next } := fun hnext hcopied => h.goesOn hwork hnext hcopied
  rw [SDWebImage.work]
  split
  · exact h
  · exact hgoes (by simp) (by simp)
  · split
    · exact hgoes (by simp) (by simp)
    · split <;> exact hgoes (by simp) (by simp)
  · exact hgoes (by simp) (by simp)
  · dsimp only
    split
    · exact h.done hwork
    · exact hgoes (by simp) (by simp)
  · exact h.done hwork

end Sound

/-! ### The work that is left -/

/-- The blocks that are still to run for a download: its start and its end, and for each
token the decoding, the callback, and what the callback has stored. -/
def downloadWorkLeft (operation : SDWebImageDownloaderOperation URL Data) : ℕ :=
  (if operation.completionBlock then 1 else 0) +
    match operation.work with
    -- A token counts twice until the download completes: it is copied then, and looked at
    -- again once the copies are decoded.
    | .none => (if operation.started then if operation.dataTask then 5 else 0 else 6) +
        10 * operation.callbackTokens.length
    | .completed _ _ tokens => 4 + 5 * tokens.length + 5 * operation.callbackTokens.length
    -- Only a token that was not copied is still to be looked at.
    | .decoding _ pendingTokens finishedTokens => 3 + 4 * pendingTokens.length +
        5 * (operation.callbackTokens.filter (· ∉ pendingTokens ++ finishedTokens)).length
    | .finishing => 1

def blockWorkLeft : MainBlock Image Data → ℕ
  | .queryDone _ _ => 18
  | .loaderCompleted _ _ => 3

def ioWorkLeft : IOBlock Data → ℕ
  | .query _ _ => 19
  | .store _ _ => 1

theorem downloadWorkLeft_created (url : URL) (token : ℕ) :
    downloadWorkLeft ({ url := url, callbackTokens := [token] } :
      SDWebImageDownloaderOperation URL Data) = 17 := rfl

theorem sum_callCompletionBlocksWithError (tokens : List ℕ) (error : LoadError) :
    ((callCompletionBlocksWithError tokens error : List (MainBlock Image Data)).map
      blockWorkLeft).sum = 3 * tokens.length := by
  induction tokens with
  | nil => rfl
  | cons token tokens ih =>
    rw [callCompletionBlocksWithError] at ih ⊢
    rw [List.map_cons, List.map_cons, List.sum_cons, ih, List.length_cons]
    show 3 + 3 * tokens.length = _
    omega

section WorkLeft

variable {operation : SDWebImageDownloaderOperation URL Data}

theorem downloadWorkLeft_addHandlers (operation : SDWebImageDownloaderOperation URL Data)
    (token : ℕ) :
    downloadWorkLeft (addHandlers token operation) ≤ downloadWorkLeft operation + 10 := by
  have hlength : (operation.callbackTokens ++ [token]).length =
      operation.callbackTokens.length + 1 := List.length_append
  rw [downloadWorkLeft, downloadWorkLeft, addHandlers]
  dsimp only
  cases operation.work with
  | none => dsimp only; omega
  | completed error imageData tokens => dsimp only; omega
  | decoding imageData pendingTokens finishedTokens =>
    dsimp only
    rw [List.filter_append, List.length_append]
    have hone :=
      List.length_filter_le (fun x => decide (x ∉ pendingTokens ++ finishedTokens)) [token]
    rw [List.length_singleton] at hone
    omega
  | finishing => dsimp only; omega

/-- Fewer tokens, less work. -/
theorem downloadWorkLeft_sublist {tokens : List ℕ} (h : tokens.Sublist operation.callbackTokens) :
    downloadWorkLeft { operation with callbackTokens := tokens } ≤ downloadWorkLeft operation := by
  have hlength := h.length_le
  rw [downloadWorkLeft, downloadWorkLeft]
  dsimp only
  cases operation.work with
  | none => dsimp only; omega
  | completed error imageData copied => dsimp only; omega
  | decoding imageData pendingTokens finishedTokens =>
    dsimp only
    have hfilter := (h.filter (fun x => decide (x ∉ pendingTokens ++ finishedTokens))).length_le
    omega
  | finishing => dsimp only; omega

theorem downloadWorkLeft_cancelInternal (operation : SDWebImageDownloaderOperation URL Data) :
    downloadWorkLeft (cancelInternal operation) ≤ downloadWorkLeft operation := by
  rw [cancelInternal]
  split
  · exact le_rfl
  · refine le_trans ?_ (downloadWorkLeft_sublist (List.nil_sublist operation.callbackTokens))
    rw [downloadWorkLeft, downloadWorkLeft, reset]
    dsimp only
    cases operation.work with
    | none => dsimp only; split <;> split <;> simp
    | completed error imageData copied => exact le_rfl
    | decoding imageData pendingTokens finishedTokens => exact le_rfl
    | finishing => exact le_rfl

theorem downloadWorkLeft_cancelToken (token : ℕ)
    (operation : SDWebImageDownloaderOperation URL Data) :
    downloadWorkLeft (cancelToken token operation) ≤ downloadWorkLeft operation := by
  rw [cancelToken]
  split
  · exact downloadWorkLeft_cancelInternal operation
  · exact downloadWorkLeft_sublist List.erase_sublist

/-- A download that moves uses up some of its work, its callbacks included. -/
theorem downloadWorkLeft_startDownload (h : Sound operation)
    (hstarted : operation.started = false) :
    downloadWorkLeft (@startDownload URL Image Data operation).1 +
      ((@startDownload URL Image Data operation).2.map blockWorkLeft).sum + 1 ≤
        downloadWorkLeft operation := by
  obtain ⟨-, hwork, -, -⟩ := h.unstarted hstarted
  rw [startDownload]
  dsimp only
  split
  · rw [sum_callCompletionBlocksWithError, downloadWorkLeft, downloadWorkLeft, reset]
    dsimp only
    rw [hwork, hstarted]
    simp only [if_true, Bool.false_eq_true, if_false, List.length_nil]
    omega
  · rw [downloadWorkLeft, downloadWorkLeft]
    dsimp only
    rw [hwork, hstarted]
    simp only [if_true, Bool.false_eq_true, if_false, List.map_nil, List.sum_nil]
    omega

theorem downloadWorkLeft_didCompleteWithError (h : Sound operation)
    (htask : operation.dataTask = true) (error responseError : Option LoadError)
    (imageData : Option Data) :
    downloadWorkLeft (didCompleteWithError error responseError imageData operation) + 1 ≤
      downloadWorkLeft operation := by
  obtain ⟨hwork, hfinished⟩ := h.task htask
  rw [didCompleteWithError, if_neg (by simp [hfinished]), downloadWorkLeft, downloadWorkLeft]
  dsimp only
  rw [hwork, h.started_of_task htask, htask]
  simp only [if_true]
  omega

theorem downloadWorkLeft_done (h : Sound operation) (hwork : operation.work ≠ .none) :
    downloadWorkLeft (done operation) = if operation.completionBlock then 1 else 0 := by
  rw [downloadWorkLeft, done, reset]
  dsimp only
  rw [h.started_of_work hwork]
  rfl

theorem downloadWorkLeft_work (h : Sound operation) (hwork : operation.work ≠ .none)
    (C : ImageCoders URL Image Data) :
    downloadWorkLeft (work C operation).1 + ((work C operation).2.map blockWorkLeft).sum + 1 ≤
      downloadWorkLeft operation := by
  have hdone := downloadWorkLeft_done h hwork
  rw [work]
  split
  · rename_i hnone
    exact absurd hnone hwork
  · -- It completed with an error: every token is called back.
    rename_i error imageData tokens hcompleted
    rw [sum_callCompletionBlocksWithError, downloadWorkLeft, downloadWorkLeft, hcompleted]
    dsimp only
    omega
  · rename_i imageData tokens hcompleted
    have hleft : downloadWorkLeft operation = (if operation.completionBlock then 1 else 0) +
        (4 + 5 * tokens.length + 5 * operation.callbackTokens.length) := by
      rw [downloadWorkLeft, hcompleted]
    split
    · rw [hleft, downloadWorkLeft]
      simp only [List.map_nil, List.sum_nil]
      omega
    · cases imageData with
      | none =>
        dsimp only
        rw [sum_callCompletionBlocksWithError, hleft, downloadWorkLeft]
        dsimp only
        omega
      | some imageData =>
        dsimp only
        have hfilter := List.length_filter_le (fun x => decide (x ∉ tokens ++ []))
          operation.callbackTokens
        rw [hleft, downloadWorkLeft]
        simp only [List.map_nil, List.sum_nil]
        omega
  · -- A token is decoded: it has been looked at before and after.
    rename_i imageData token pendingTokens finishedTokens hdecoding
    have hsame :
        operation.callbackTokens.filter (· ∉ pendingTokens ++ (finishedTokens ++ [token])) =
          operation.callbackTokens.filter (· ∉ token :: pendingTokens ++ finishedTokens) := by
      refine List.filter_congr fun x _ => ?_
      simp only [List.mem_append, List.mem_cons, List.not_mem_nil, or_false, decide_eq_decide]
      tauto
    rw [downloadWorkLeft, downloadWorkLeft, hdecoding]
    dsimp only
    rw [hsame, List.map_singleton, List.sum_singleton, List.length_cons]
    show _ + 3 + 1 ≤ _
    omega
  · -- No copy is left, and the tokens are looked at again: either there is no new one,
    -- or all the new ones are copied.
    rename_i imageData finishedTokens hdecoding
    have hleft : downloadWorkLeft operation = (if operation.completionBlock then 1 else 0) +
        (3 + 4 * 0 + 5 * (operation.callbackTokens.filter (· ∉ finishedTokens)).length) := by
      rw [downloadWorkLeft, hdecoding]
      rfl
    dsimp only
    split
    · rw [hdone, hleft]
      simp only [List.map_nil, List.sum_nil]
      omega
    · rename_i hnew
      have hnone : operation.callbackTokens.filter
          (· ∉ operation.callbackTokens.filter (· ∉ finishedTokens) ++ finishedTokens) = [] := by
        refine List.filter_eq_nil_iff.mpr fun x hx => ?_
        simp only [List.mem_append, List.mem_filter, decide_eq_true_eq]
        tauto
      have hpos := List.length_pos_iff.mpr hnew
      rw [hleft, downloadWorkLeft]
      dsimp only
      rw [hnone]
      simp only [List.map_nil, List.sum_nil, List.length_nil]
      omega
  · rename_i hfinishing
    have hleft : downloadWorkLeft operation =
        (if operation.completionBlock then 1 else 0) + 1 := by
      rw [downloadWorkLeft, hfinishing]
    rw [hdone, hleft]
    simp

end WorkLeft

/-! ### Steps and runs -/

/-- All downloads are sound. -/
def SoundDownloads (s : SDWebImage URL Image Data View) : Prop :=
  ∀ (d : ℕ) operation, s.downloads[d]? = some operation → Sound operation

/-- The blocks that are still to run. -/
def workLeft (s : SDWebImage URL Image Data View) : ℕ :=
  (s.ioQueue.map ioWorkLeft).sum + (s.mainQueue.map blockWorkLeft).sum +
    (match s.joining with
      | none => 0
      | some _ => 11) +
    (s.downloads.map downloadWorkLeft).sum

/-- The blocks that run at the event. -/
def Event.blocks : Event URL Data View → ℕ
  | .setImage _ _ => 0
  | .evictMemory _ => 0
  | .evictDisk _ => 0
  | _ => 1

/-- The URLs that are set at the event. -/
def Event.sets : Event URL Data View → ℕ
  | .setImage _ _ => 1
  | _ => 0

theorem forall_modify {α : Type} {P : α → Prop} {f : α → α} {l : List α} {d : ℕ}
    (h : ∀ (e : ℕ) x, l[e]? = some x → P x) (hf : ∀ x, l[d]? = some x → P (f x)) (e : ℕ) (y : α)
    (hy : (l.modify d f)[e]? = some y) : P y := by
  by_cases hde : d = e
  · subst hde
    rw [List.getElem?_modify_eq] at hy
    obtain ⟨x, hx, rfl⟩ := Option.map_eq_some_iff.mp hy
    exact hf x hx
  · rw [List.getElem?_modify_ne _ _ hde] at hy
    exact h e y hy

theorem forall_concat {α : Type} {P : α → Prop} {l : List α} {x : α}
    (h : ∀ (e : ℕ) x, l[e]? = some x → P x) (hx : P x) (e : ℕ) (y : α)
    (hy : (l ++ [x])[e]? = some y) : P y := by
  rcases List.mem_append.mp (List.mem_of_getElem? hy) with hmem | hmem
  · obtain ⟨i, hi⟩ := List.mem_iff_getElem?.mp hmem
    exact h i y hi
  · rw [List.mem_singleton.mp hmem]
    exact hx

/-- One element is replaced in the sum, without subtraction. -/
theorem sum_map_modify {α : Type} (g : α → ℕ) (f : α → α) {l : List α} {d : ℕ} {x : α}
    (h : l[d]? = some x) :
    ((l.modify d f).map g).sum + g x = (l.map g).sum + g (f x) := by
  induction l generalizing d with
  | nil => exact absurd h (by simp)
  | cons y l ih =>
    cases d with
    | zero =>
      obtain rfl := Option.some.inj h
      simp only [List.modify_zero_cons, List.map_cons, List.sum_cons]
      omega
    | succ d =>
      have hrest := ih (d := d) (by simpa using h)
      simp only [List.modify_succ_cons, List.map_cons, List.sum_cons]
      omega

/-- What no download has more of after a change, all of them have no more of. -/
theorem sum_map_modify_le {α : Type} (g : α → ℕ) {f : α → α} (hf : ∀ x, g (f x) ≤ g x)
    (l : List α) (d : ℕ) : ((l.modify d f).map g).sum ≤ (l.map g).sum := by
  cases h : l[d]? with
  | none =>
    rw [List.modify_eq_self (List.getElem?_eq_none_iff.mp h)]
  | some x =>
    have hsum := sum_map_modify g f h
    have hx := hf x
    omega

section Steps

variable [DecidableEq View] [DecidableEq URL] {C : ImageCoders URL Image Data}
  {s s' : SDWebImage URL Image Data View} {event : Event URL Data View} {view : View}
  {operations : List (SDWebImageCombinedOperation URL View)}
  {downloads : List (SDWebImageDownloaderOperation URL Data)}

omit [DecidableEq View] [DecidableEq URL] in
theorem Cancelled.sound (hcancelled : Cancelled s view operations downloads)
    (h : s.SoundDownloads) (d : ℕ) (operation : SDWebImageDownloaderOperation URL Data)
    (hd : downloads[d]? = some operation) : Sound operation := by
  cases hcancelled with
  | nothing _ => exact h d operation hd
  | load _ _ _ _ _ => exact h d operation hd
  | request n e _ _ _ _ =>
    exact forall_modify h (fun x hx => (h e x hx).cancelToken n) d operation hd

omit [DecidableEq View] [DecidableEq URL] in
theorem Cancelled.workLeft_le (hcancelled : Cancelled s view operations downloads) :
    (downloads.map downloadWorkLeft).sum ≤ (s.downloads.map downloadWorkLeft).sum := by
  cases hcancelled with
  | nothing _ => exact le_rfl
  | load _ _ _ _ _ => exact le_rfl
  | request n e _ _ _ _ =>
    exact sum_map_modify_le _ (downloadWorkLeft_cancelToken n) s.downloads e

omit [DecidableEq View] [DecidableEq URL] in
theorem workLeft_runDownload {d : ℕ} {operation : SDWebImageDownloaderOperation URL Data}
    (hd : s.downloads[d]? = some operation)
    {f : SDWebImageDownloaderOperation URL Data →
      SDWebImageDownloaderOperation URL Data × List (MainBlock Image Data)}
    (hf : downloadWorkLeft (f operation).1 + ((f operation).2.map blockWorkLeft).sum + 1 ≤
      downloadWorkLeft operation) : (s.runDownload d f).workLeft + 1 ≤ s.workLeft := by
  have hsum := sum_map_modify downloadWorkLeft (fun _ => (f operation).1) hd
  rw [runDownload_eq hd, workLeft, workLeft]
  dsimp only
  rw [List.map_append, List.sum_append]
  omega

/-- The downloads stay sound. -/
theorem sound_step (hviews : s.LoaderViews) (hstep : (system View C).Step s event s')
    (h : s.SoundDownloads) : s'.SoundDownloads := by
  obtain ⟨henabled, hnext⟩ := hstep
  obtain rfl := Option.some.inj hnext
  cases event with
  | setImage view url =>
    obtain ⟨operations, downloads, hcancelled, hset⟩ :=
      setImage_cases (C := C) hviews.uncancelled view url
    show (s.sd_internalSetImageWithURL C view url).SoundDownloads
    generalize s.sd_internalSetImageWithURL C view url = s' at hset
    cases hset <;> exact hcancelled.sound h
  | main =>
    obtain ⟨block, blocks, hqueue⟩ := List.exists_cons_of_ne_nil henabled.1
    show (s.runMain C).SoundDownloads
    rcases runMain_cases (C := C) hviews.uncancelled hqueue with ⟨-, heq⟩ | ⟨operation, -, hmove⟩
    · rw [heq]
      exact h
    · generalize s.runMain C = s' at hmove
      generalize block.token = n at hmove
      -- Only a load that is not in any cache and cannot join creates a download.
      cases hmove with
      | created _ => exact forall_concat h (sound_created operation.url n)
      | _ => exact h
  | join =>
    show s.join.SoundDownloads
    obtain ⟨⟨n, d⟩, hjoining⟩ := Option.ne_none_iff_exists'.mp henabled
    rw [join_eq hjoining]
    exact forall_modify h fun x hx => (h d x hx).addHandlers n
  | io =>
    show (s.runIOQueue C).SoundDownloads
    obtain ⟨block, blocks, hqueue⟩ := List.exists_cons_of_ne_nil henabled
    have hmove := runIOQueue_cases (C := C) hqueue
    generalize s.runIOQueue C = s' at hmove
    cases hmove <;> exact h
  | start d =>
    obtain ⟨operation, hd, hstarted⟩ := henabled
    show (s.runDownload d startDownload).SoundDownloads
    rw [runDownload_eq hd]
    exact forall_modify h fun x hx => (h d operation hd).startDownload hstarted
  | didComplete d error responseError imageData =>
    obtain ⟨operation, hd, htask⟩ := henabled
    refine forall_modify h fun x hx => ?_
    obtain rfl := Option.some.inj (hd.symm.trans hx)
    exact (h d operation hd).didCompleteWithError htask error responseError imageData
  | work d =>
    obtain ⟨operation, hd, hwork⟩ := henabled
    show (s.runDownload d (work C)).SoundDownloads
    rw [runDownload_eq hd]
    exact forall_modify h fun x hx => (h d operation hd).work hwork C
  | completionBlock d =>
    show (s.completionBlock d).SoundDownloads
    rw [completionBlock]
    cases s.downloads[d]? with
    | none => exact h
    | some operation =>
      exact forall_modify h fun x hx =>
        ⟨(h d x hx).unstarted, (h d x hx).task, (h d x hx).going, (h d x hx).ended,
          (h d x hx).tokens, (h d x hx).copied⟩
  | evictMemory key => exact h
  | evictDisk key => exact h

/-- Every block uses up some of the work that is left, and only a URL that is set brings
new work. -/
theorem workLeft_step (hviews : s.LoaderViews) (h : s.SoundDownloads)
    (hstep : (system View C).Step s event s') :
    s'.workLeft + event.blocks ≤ s.workLeft + 19 * event.sets := by
  obtain ⟨henabled, hnext⟩ := hstep
  obtain rfl := Option.some.inj hnext
  cases event with
  | setImage view url =>
    obtain ⟨operations, downloads, hcancelled, hset⟩ :=
      setImage_cases (C := C) hviews.uncancelled view url
    show (s.sd_internalSetImageWithURL C view url).workLeft + 0 ≤ s.workLeft + 19 * 1
    have hle := hcancelled.workLeft_le
    generalize s.sd_internalSetImageWithURL C view url = s' at hset
    cases hset with
    | refused _ =>
      rw [workLeft, workLeft]
      dsimp only
      omega
    | found _ _ _ =>
      rw [workLeft, workLeft]
      dsimp only
      omega
    | asked _ _ =>
      rw [workLeft, workLeft]
      dsimp only
      rw [List.map_append, List.sum_append, List.map_singleton, List.sum_singleton]
      show _ + 19 + _ + _ + _ + 0 ≤ _
      omega
  | main =>
    obtain ⟨block, blocks, hqueue⟩ := List.exists_cons_of_ne_nil henabled.1
    show (s.runMain C).workLeft + 1 ≤ s.workLeft + 19 * 0
    have hbefore : s.workLeft = blockWorkLeft block + workLeft { s with mainQueue := blocks } := by
      rw [workLeft, workLeft, hqueue, List.map_cons, List.sum_cons]
      dsimp only
      omega
    have hjoining : ({ s with mainQueue := blocks } : SDWebImage URL Image Data View).joining =
        none := henabled.2
    have hpos : 3 ≤ blockWorkLeft block := by cases block <;> simp [blockWorkLeft]
    rcases runMain_cases (C := C) hviews.uncancelled hqueue with ⟨-, heq⟩ | ⟨operation, -, hmove⟩
    · rw [heq]
      omega
    · generalize s.runMain C = s' at hmove
      generalize block.token = n at hmove
      rw [hbefore]
      generalize ({ s with mainQueue := blocks } : SDWebImage URL Image Data View) = t
        at hmove hjoining ⊢
      cases hmove with
      | found image =>
        show t.workLeft + 1 ≤ _
        omega
      | joined d _ =>
        -- The eleven of a handler that is to be added come out of the eighteen.
        rw [workLeft, workLeft, hjoining]
        dsimp only [blockWorkLeft]
        omega
      | created _ =>
        rw [workLeft, workLeft]
        dsimp only
        rw [List.map_append, List.sum_append, List.map_singleton, List.sum_singleton,
          downloadWorkLeft_created]
        show _ ≤ 18 + _ + _
        omega
      | failed error failedURLs _ =>
        show t.workLeft + 1 ≤ _
        omega
      | loaded image data =>
        -- The data is stored twice.
        rw [workLeft, workLeft]
        dsimp only
        rw [List.map_append, List.sum_append]
        show _ + (1 + (1 + 0)) + _ + _ + _ + 1 ≤ 3 + _ + _
        omega
  | join =>
    show s.join.workLeft + 1 ≤ s.workLeft + 19 * 0
    obtain ⟨⟨n, d⟩, hjoining⟩ := Option.ne_none_iff_exists'.mp henabled
    have hle : ((s.downloads.modify d (addHandlers n)).map downloadWorkLeft).sum ≤
        (s.downloads.map downloadWorkLeft).sum + 10 := by
      cases hd : s.downloads[d]? with
      | none =>
        rw [List.modify_eq_self (List.getElem?_eq_none_iff.mp hd)]
        omega
      | some operation =>
        have hsum := sum_map_modify downloadWorkLeft (addHandlers n) hd
        have hadded := downloadWorkLeft_addHandlers operation n
        omega
    rw [join_eq hjoining, workLeft, workLeft, hjoining]
    dsimp only
    omega
  | io =>
    obtain ⟨block, blocks, hqueue⟩ := List.exists_cons_of_ne_nil henabled
    show (s.runIOQueue C).workLeft + 1 ≤ s.workLeft + 19 * 0
    have hbefore : s.workLeft = ioWorkLeft block + workLeft { s with ioQueue := blocks } := by
      rw [workLeft, workLeft, hqueue, List.map_cons, List.sum_cons]
      dsimp only
      omega
    rw [hbefore]
    have hmove := runIOQueue_cases (C := C) hqueue
    generalize s.runIOQueue C = s' at hmove
    generalize ({ s with ioQueue := blocks } : SDWebImage URL Image Data View) = t at hmove ⊢
    cases hmove with
    | stored data key =>
      show t.workLeft + 1 ≤ 1 + _ + _
      omega
    | dropped n key _ =>
      dsimp only [ioWorkLeft]
      omega
    | answered n key image memoryCache _ _ =>
      rw [workLeft, workLeft]
      dsimp only
      rw [List.map_append, List.sum_append]
      show _ + (_ + (18 + 0)) + _ + _ + 1 ≤ 19 + _ + _
      omega
  | start d =>
    obtain ⟨operation, hd, hstarted⟩ := henabled
    exact workLeft_runDownload hd (downloadWorkLeft_startDownload (h d operation hd) hstarted)
  | didComplete d error responseError imageData =>
    obtain ⟨operation, hd, htask⟩ := henabled
    have hsum := sum_map_modify downloadWorkLeft
      (didCompleteWithError error responseError imageData) hd
    have hless := downloadWorkLeft_didCompleteWithError (h d operation hd) htask error
      responseError imageData
    show workLeft { s with downloads := s.downloads.modify d _ } + 1 ≤ s.workLeft + 19 * 0
    rw [workLeft, workLeft]
    dsimp only
    omega
  | work d =>
    obtain ⟨operation, hd, hwork⟩ := henabled
    exact workLeft_runDownload hd (downloadWorkLeft_work (h d operation hd) hwork C)
  | completionBlock d =>
    obtain ⟨-, operation, hd, -, hblock⟩ := henabled
    have hsum := sum_map_modify downloadWorkLeft
      (fun operation => { operation with completionBlock := false }) hd
    have hless : downloadWorkLeft { operation with completionBlock := false } + 1 =
        downloadWorkLeft operation := by
      rw [downloadWorkLeft, downloadWorkLeft, hblock]
      simp only [if_true, Bool.false_eq_true, if_false]
      omega
    show (s.completionBlock d).workLeft + 1 ≤ s.workLeft + 19 * 0
    rw [completionBlock, hd]
    dsimp only [modifyDownload]
    rw [workLeft, workLeft]
    dsimp only
    omega
  | evictMemory key => exact le_rfl
  | evictDisk key => exact le_rfl

theorem workLeft_run {events : List (Event URL Data View)}
    (hrun : (system View C).Run s events s') (hviews : s.LoaderViews) (h : s.SoundDownloads) :
    s'.workLeft + (events.map Event.blocks).sum ≤
      s.workLeft + 19 * (events.map Event.sets).sum := by
  induction hrun with
  | nil => exact le_rfl
  | cons hstep _ ih =>
    have hfirst := workLeft_step hviews h hstep
    have hrest := ih (imageView_step hviews hstep).1 (sound_step hviews hstep h)
    rw [List.map_cons, List.sum_cons, List.map_cons, List.sum_cons]
    omega

end Steps

end SDWebImage

end HolyWater
