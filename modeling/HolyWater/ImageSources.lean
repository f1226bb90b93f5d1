/-
Where the images come from.

A view shows what some load has brought it, through the caches and through downloads that
other loads may have begun.  As long as the disk cache has been filled from the network,
and the network answers each download with what its URL has, all of it has come from
where it is held for.

* `Moves` — a download goes on with the tokens and the data it has;
* `Genuine` — what the caches, the queues and the downloads hold for a URL has come from
  this URL;
* `imageView_run` — along every run, each view follows the image view the cells are
  built on, and what it shows has come from the URL it was set to last.
-/
import HolyWater.ImageViews

namespace HolyWater

/-! ### What one sees -/

section Shown

variable {URL : Type} {view : UIImageView URL} {url : URL}

/-- The URL a view loads or shows is the one it was set to last. -/
theorem lastConfigured_of_run {loads : List (URL ⊕ LoadEvent)}
    (hrun : (imageViewLoads URL).system.Run .initial loads view)
    (hview : view = .loading url ∨ view = .loaded url) :
    Reusable.lastConfigured loads = some url := by
  induction loads using List.reverseRecOn generalizing view with
  | nil =>
    obtain rfl := EventSystem.run_nil_iff.mp hrun
    rcases hview with hno | hno <;> exact absurd hno nofun
  | append_singleton loads load ih =>
    obtain ⟨before, hloads, hlast⟩ := EventSystem.run_append_iff.mp hrun
    rw [EventSystem.run_singleton_iff] at hlast
    cases load with
    | inl other =>
      obtain rfl := (Reusable.step_inl_iff _).mp hlast
      rw [Reusable.lastConfigured_concat_inl]
      rcases hview with hview | hno
      · rw [UIImageView.loading.inj hview]
      · exact absurd hno nofun
    | inr event =>
      rw [Reusable.lastConfigured_concat_inr]
      obtain ⟨old, rfl, hafter⟩ := load_cases ((Reusable.step_inr_iff _).mp hlast)
      refine ih hloads (.inl ?_)
      rcases hafter with rfl | rfl
      · rcases hview with hno | hview
        · exact absurd hno nofun
        · rw [UIImageView.loaded.inj hview]
      · rcases hview with hno | hno <;> exact absurd hno nofun

end Shown

/-- The picture is the one the cells count on, and an image is one of its URL. -/
def Picture.ShownAs {URL Image : Type} (depicts : URL → Image → Prop) :
    Picture Image → ShownImage URL → Prop
  | initial, .initial => True
  | placeholder, .placeholder => True
  | image found, .loaded url => depicts url found
  | _, _ => False

theorem Picture.ShownAs.imp {URL Image : Type} {depicts depicts' : URL → Image → Prop}
    {picture : Picture Image} {shown : ShownImage URL} (h : picture.ShownAs depicts shown)
    (himp : ∀ url image, shown = .loaded url → depicts url image → depicts' url image) :
    picture.ShownAs depicts' shown := by
  cases picture <;> cases shown <;> first | exact h | exact himp _ _ rfl h

/-! ### Where the images come from -/

/-- What the data decodes to is an image of the key. -/
def ImageCoders.Cached {URL Image Data : Type} (C : ImageCoders URL Image Data)
    (Depicts : String → Image → Prop) (key : String) (data : Data) : Prop :=
  ∀ image, C.decodeCached key data = some image → Depicts key image

/-- What the data decodes to, now or later from the cache, is an image of the URL. -/
def ImageCoders.Loaded {URL Image Data : Type} (C : ImageCoders URL Image Data)
    (Depicts : String → Image → Prop) (url : URL) (data : Data) : Prop :=
  C.Cached Depicts (C.absoluteString url) data ∧
    ∀ image, C.decodeLoaded url data = some image → Depicts (C.absoluteString url) image

namespace DownloadWork

variable {Data : Type}

/-- The tokens a download holds beside the ones it has. -/
def tokens : DownloadWork Data → List ℕ
  | none => []
  | completed _ _ tokens => tokens
  | decoding _ pendingTokens finishedTokens => pendingTokens ++ finishedTokens
  | finishing => []

/-- The data that is going to be decoded. -/
def imageData : DownloadWork Data → Option Data
  | completed Option.none imageData _ => imageData
  | decoding imageData _ _ => some imageData
  | _ => Option.none

end DownloadWork

namespace SDWebImage

variable {URL Image Data View : Type}

/-- Every token a download still holds. -/
def everyToken (operation : SDWebImageDownloaderOperation URL Data) : List ℕ :=
  operation.callbackTokens ++ operation.work.tokens

/-- A download goes on with what it has: its tokens, its data, and the images these decode
to. -/
structure Moves (C : ImageCoders URL Image Data)
    (operation : SDWebImageDownloaderOperation URL Data)
    (moved : SDWebImageDownloaderOperation URL Data × List (MainBlock Image Data)) : Prop where
  url : moved.1.url = operation.url
  tokens : ∀ n ∈ everyToken moved.1, n ∈ everyToken operation
  imageData : ∀ data, moved.1.work.imageData = some data → operation.work.imageData = some data
  blocks : ∀ block ∈ moved.2, ∃ n ∈ everyToken operation, ∃ result,
    block = .loaderCompleted n result ∧ ∀ image data, result = .ok (image, data) →
      operation.work.imageData = some data ∧ C.decodeLoaded operation.url data = some image

section Moves

variable {C : ImageCoders URL Image Data} {operation : SDWebImageDownloaderOperation URL Data}

theorem callCompletionBlocksWithError_blocks (error : LoadError) {block : MainBlock Image Data}
    (h : block ∈ callCompletionBlocksWithError operation.callbackTokens error) :
    ∃ n ∈ everyToken operation, ∃ result, block = .loaderCompleted n result ∧
      ∀ image data, result = .ok (image, data) →
        operation.work.imageData = some data ∧ C.decodeLoaded operation.url data = some image := by
  obtain ⟨n, hn, rfl⟩ := List.mem_map.mp h
  exact ⟨n, List.mem_append_left _ hn, _, rfl, fun image data hno => absurd hno (by simp)⟩

theorem moves_cancelToken (C : ImageCoders URL Image Data) (n : ℕ)
    (operation : SDWebImageDownloaderOperation URL Data) :
    Moves C operation (cancelToken n operation, []) := by
  rw [cancelToken]
  split
  · rw [cancelInternal]
    split
    · exact ⟨rfl, fun m hm => hm, fun data h => h, fun block h => absurd h (by simp)⟩
    · exact ⟨rfl, fun m hm => List.mem_append_right _ hm, fun data h => h,
        fun block h => absurd h (by simp)⟩
  · refine ⟨rfl, fun m hm => ?_, fun data h => h, fun block h => absurd h (by simp)⟩
    rcases List.mem_append.mp hm with hm | hm
    · exact List.mem_append_left _ (List.mem_of_mem_erase hm)
    · exact List.mem_append_right _ hm

theorem moves_startDownload (C : ImageCoders URL Image Data)
    (operation : SDWebImageDownloaderOperation URL Data) :
    Moves C operation (startDownload operation) := by
  rw [startDownload]
  dsimp only
  split
  · exact ⟨rfl, fun m hm => List.mem_append_right _ hm, fun data h => h,
      fun block h => callCompletionBlocksWithError_blocks _ h⟩
  · exact ⟨rfl, fun m hm => hm, fun data h => h, fun block h => absurd h (by simp)⟩

theorem moves_done (C : ImageCoders URL Image Data)
    (operation : SDWebImageDownloaderOperation URL Data) : Moves C operation (done operation, []) :=
  ⟨rfl, fun m hm => absurd hm (by simp [everyToken, done, reset, DownloadWork.tokens]),
    fun data h => absurd h (by simp [done, reset, DownloadWork.imageData]),
    fun block h => absurd h (by simp)⟩

/-- After the callbacks, only `done` is left. -/
theorem moves_finishing (error : Option LoadError) :
    Moves C operation ({ operation with work := .finishing },
      (error.map (callCompletionBlocksWithError operation.callbackTokens)).getD []) := by
  refine ⟨rfl, fun m hm => ?_, fun data h => absurd h (by simp [DownloadWork.imageData]),
    fun block h => ?_⟩
  · rw [everyToken, DownloadWork.tokens, List.append_nil] at hm
    exact List.mem_append_left _ hm
  · cases error with
    | none => exact absurd h (by simp)
    | some error => exact callCompletionBlocksWithError_blocks error h

theorem decode_eq_ok {url : URL} {imageData : Data} {image : Image} {data : Data}
    (h : decode C url imageData = .ok (image, data)) :
    data = imageData ∧ C.decodeLoaded url imageData = some image := by
  rw [decode] at h
  split at h
  · exact absurd h (by simp)
  · rename_i image' himage
    split at h
    · obtain ⟨rfl, rfl⟩ := Prod.mk.inj (Except.ok.inj h)
      exact ⟨rfl, himage⟩
    · exact absurd h (by simp)

theorem moves_work (C : ImageCoders URL Image Data)
    (operation : SDWebImageDownloaderOperation URL Data) :
    Moves C operation (work C operation) := by
  rw [work]
  split
  · exact ⟨rfl, fun m hm => hm, fun data h => h, fun block h => absurd h (by simp)⟩
  · rename_i error _ _ _
    exact moves_finishing (some error)
  · rename_i imageData tokens hwork
    split
    · exact moves_finishing none
    · cases imageData with
      | none => exact moves_finishing (some _)
      | some imageData =>
        -- The pending tokens are the ones that were copied.
        refine ⟨rfl, fun m hm => ?_, fun data h => ?_, fun block h => absurd h (by simp)⟩
        · rw [everyToken, hwork]
          simpa [everyToken, DownloadWork.tokens] using hm
        · rw [hwork]
          exact h
  · rename_i imageData token pendingTokens finishedTokens hwork
    refine ⟨rfl, fun m hm => ?_, fun data h => ?_, fun block h => ?_⟩
    · rw [everyToken, hwork]
      simp only [everyToken, DownloadWork.tokens, List.mem_append, List.mem_cons,
        List.not_mem_nil, or_false] at hm ⊢
      tauto
    · rw [hwork]
      exact h
    · obtain rfl := List.mem_singleton.mp h
      refine ⟨token, ?_, _, rfl, fun image data hok => ?_⟩
      · rw [everyToken, hwork]
        simp [DownloadWork.tokens]
      · obtain ⟨rfl, hdecode⟩ := decode_eq_ok hok
        rw [hwork]
        exact ⟨rfl, hdecode⟩
  · rename_i imageData finishedTokens hwork
    dsimp only
    split
    · exact moves_done C operation
    · refine ⟨rfl, fun m hm => ?_, fun data h => ?_, fun block h => absurd h (by simp)⟩
      · rw [everyToken, hwork]
        simp only [everyToken, DownloadWork.tokens, List.mem_append, List.mem_filter,
          List.nil_append] at hm ⊢
        tauto
      · rw [hwork]
        exact h
  · exact moves_done C operation

end Moves

/-- The load `n` is one of `url`. -/
def Requests (s : SDWebImage URL Image Data View) (n : ℕ) (url : URL) : Prop :=
  ∃ operation, s.operations[n]? = some operation ∧ operation.url = url

/-- What a block of the cache's queue holds has come from its key. -/
def GenuineIOBlock (C : ImageCoders URL Image Data) (Depicts : String → Image → Prop)
    (s : SDWebImage URL Image Data View) : IOBlock Data → Prop
  | .query n key => ∃ url, s.Requests n url ∧ C.absoluteString url = key
  | .store data key => C.Cached Depicts key data

/-- What a block of the main queue brings its load has come from the URL of the load. -/
def GenuineMain (C : ImageCoders URL Image Data) (Depicts : String → Image → Prop)
    (s : SDWebImage URL Image Data View) : MainBlock Image Data → Prop
  | .queryDone n found => ∃ url, s.Requests n url ∧
    ∀ image, found = some image → Depicts (C.absoluteString url) image
  | .loaderCompleted n result => ∃ url, s.Requests n url ∧
    ∀ image data, result = .ok (image, data) → Depicts (C.absoluteString url) image ∧
      C.Cached Depicts (C.absoluteString url) data

/-- A download is for loads of its URL, and its data has come from there. -/
structure GenuineDownload (C : ImageCoders URL Image Data) (Depicts : String → Image → Prop)
    (s : SDWebImage URL Image Data View)
    (operation : SDWebImageDownloaderOperation URL Data) : Prop where
  tokens : ∀ n ∈ everyToken operation, s.Requests n operation.url
  imageData : ∀ data, operation.work.imageData = some data → C.Loaded Depicts operation.url data

/-- The downloads are for the loads of their URLs, and are found under these. -/
structure GenuineDownloads (C : ImageCoders URL Image Data) (Depicts : String → Image → Prop)
    (s : SDWebImage URL Image Data View) : Prop where
  downloads : ∀ (d : ℕ) operation, s.downloads[d]? = some operation →
    s.GenuineDownload C Depicts operation
  URLOperations : ∀ url d, s.URLOperations url = some d →
    ∃ operation, s.downloads[d]? = some operation ∧ operation.url = url
  joining : ∀ n d, s.joining = some (n, d) →
    ∃ operation, s.downloads[d]? = some operation ∧ s.Requests n operation.url

/-- All the loader holds has come from where it is held for. -/
structure Genuine (C : ImageCoders URL Image Data) (Depicts : String → Image → Prop)
    (s : SDWebImage URL Image Data View) : Prop where
  memoryCache : ∀ key image, s.memoryCache key = some image → Depicts key image
  diskCache : ∀ key data, s.diskCache key = some data → C.Cached Depicts key data
  ioQueue : ∀ block ∈ s.ioQueue, s.GenuineIOBlock C Depicts block
  mainQueue : ∀ block ∈ s.mainQueue, s.GenuineMain C Depicts block
  downloads : s.GenuineDownloads C Depicts
  views : ∀ view image, (s.views view).image = .image image →
    ∃ url, s.imageView view = .loaded url ∧ Depicts (C.absoluteString url) image

/-- What the network answers a download with has come from its URL. -/
def Event.Genuine (C : ImageCoders URL Image Data) (Depicts : String → Image → Prop)
    (s : SDWebImage URL Image Data View) : Event URL Data View → Prop
  | .didComplete d _ _ imageData => ∀ operation data, s.downloads[d]? = some operation →
    imageData = some data → C.Loaded Depicts operation.url data
  | _ => True

section Genuine

variable {C : ImageCoders URL Image Data} {Depicts : String → Image → Prop}
  {s s' : SDWebImage URL Image Data View} {n : ℕ} {view : View}
  {operation : SDWebImageCombinedOperation URL View}
  {operations : List (SDWebImageCombinedOperation URL View)}
  {downloads : List (SDWebImageDownloaderOperation URL Data)}

theorem genuine_launched {diskCache : String → Option Data}
    (h : ∀ key data, diskCache key = some data → C.Cached Depicts key data) :
    (launched diskCache : SDWebImage URL Image Data View).Genuine C Depicts where
  memoryCache _ _ h := absurd h (by simp [launched])
  diskCache := h
  ioQueue _ h := absurd h (by simp [launched])
  mainQueue _ h := absurd h (by simp [launched])
  downloads :=
    ⟨fun _ _ h => absurd h (by simp [launched]), fun _ _ h => absurd h (by simp [launched]),
      fun _ _ h => absurd h (by simp [launched])⟩
  views _ _ h := absurd h (by simp [launched])

theorem GenuineIOBlock.mono (hmono : ∀ n url, s.Requests n url → s'.Requests n url)
    {block : IOBlock Data} (h : s.GenuineIOBlock C Depicts block) :
    s'.GenuineIOBlock C Depicts block := by
  cases block with
  | query n key =>
    obtain ⟨url, hn, hkey⟩ := h
    exact ⟨url, hmono n url hn, hkey⟩
  | store data key => exact h

theorem GenuineMain.mono (hmono : ∀ n url, s.Requests n url → s'.Requests n url)
    {block : MainBlock Image Data} (h : s.GenuineMain C Depicts block) :
    s'.GenuineMain C Depicts block := by
  cases block with
  | queryDone n found =>
    obtain ⟨url, hn, hfound⟩ := h
    exact ⟨url, hmono n url hn, hfound⟩
  | loaderCompleted n result =>
    obtain ⟨url, hn, hresult⟩ := h
    exact ⟨url, hmono n url hn, hresult⟩

theorem GenuineDownload.mono (hmono : ∀ n url, s.Requests n url → s'.Requests n url)
    {operation : SDWebImageDownloaderOperation URL Data}
    (h : s.GenuineDownload C Depicts operation) : s'.GenuineDownload C Depicts operation :=
  ⟨fun n hn => hmono n _ (h.tokens n hn), h.imageData⟩

/-- A download that moves stays genuine, and so are its callbacks. -/
theorem GenuineDownload.moves {operation : SDWebImageDownloaderOperation URL Data}
    {moved : SDWebImageDownloaderOperation URL Data × List (MainBlock Image Data)}
    (h : s.GenuineDownload C Depicts operation) (hmoves : Moves C operation moved) :
    s.GenuineDownload C Depicts moved.1 ∧ ∀ block ∈ moved.2, s.GenuineMain C Depicts block := by
  refine ⟨⟨fun n hn => ?_, fun data hdata => ?_⟩, fun block hblock => ?_⟩
  · rw [hmoves.url]
    exact h.tokens n (hmoves.tokens n hn)
  · rw [hmoves.url]
    exact h.imageData data (hmoves.imageData data hdata)
  · obtain ⟨n, hn, result, rfl, hresult⟩ := hmoves.blocks block hblock
    refine ⟨operation.url, h.tokens n hn, fun image data hok => ?_⟩
    obtain ⟨hdata, hdecode⟩ := hresult image data hok
    exact ⟨(h.imageData data hdata).2 image hdecode, (h.imageData data hdata).1⟩

/-- The downloads stay, and what is down for a URL or about to be joined was so before. -/
theorem GenuineDownloads.congr (h : s.GenuineDownloads C Depicts)
    (hmono : ∀ n url, s.Requests n url → s'.Requests n url)
    (hdownloads : s'.downloads = s.downloads) (hURLOperations : s'.URLOperations = s.URLOperations)
    (hjoining : s'.joining = s.joining) : s'.GenuineDownloads C Depicts := by
  refine ⟨fun d operation hd => ?_, fun url d hd => ?_, fun n d hn => ?_⟩
  · rw [hdownloads] at hd
    exact (h.downloads d operation hd).mono hmono
  · rw [hURLOperations] at hd
    rw [hdownloads]
    exact h.URLOperations url d hd
  · rw [hjoining] at hn
    obtain ⟨operation, hd, hrequests⟩ := h.joining n d hn
    exact ⟨operation, by rw [hdownloads, hd], hmono n _ hrequests⟩

/-- A download of the loader moves. -/
theorem GenuineDownloads.modify (h : s.GenuineDownloads C Depicts)
    (hmono : ∀ n url, s.Requests n url → s'.Requests n url) {d : ℕ}
    {f : SDWebImageDownloaderOperation URL Data → SDWebImageDownloaderOperation URL Data}
    (hf : ∀ operation, s.downloads[d]? = some operation →
      s'.GenuineDownload C Depicts (f operation) ∧ (f operation).url = operation.url)
    (hdownloads : s'.downloads = s.downloads.modify d f)
    (hURLOperations : ∀ url e, s'.URLOperations url = some e → s.URLOperations url = some e)
    (hjoining : ∀ request, s'.joining = some request → s.joining = some request) :
    s'.GenuineDownloads C Depicts := by
  -- Every download keeps its URL.
  have hkept : ∀ (e : ℕ) operation, s.downloads[e]? = some operation →
      ∃ operation', s'.downloads[e]? = some operation' ∧ operation'.url = operation.url := by
    intro e operation he
    rw [hdownloads]
    by_cases hde : d = e
    · subst hde
      exact ⟨f operation, by rw [List.getElem?_modify_eq, he]; rfl, (hf operation he).2⟩
    · exact ⟨operation, by rw [List.getElem?_modify_ne _ _ hde, he], rfl⟩
  refine ⟨fun e operation he => ?_, fun url e he => ?_, fun n e hn => ?_⟩
  · rw [hdownloads] at he
    by_cases hde : d = e
    · subst hde
      rw [List.getElem?_modify_eq] at he
      obtain ⟨old, hold, rfl⟩ := Option.map_eq_some_iff.mp he
      exact (hf old hold).1
    · rw [List.getElem?_modify_ne _ _ hde] at he
      exact (h.downloads e operation he).mono hmono
  · obtain ⟨operation, hoperation, rfl⟩ := h.URLOperations url e (hURLOperations url e he)
    exact hkept e operation hoperation
  · obtain ⟨operation, hoperation, hrequests⟩ := h.joining n e (hjoining _ hn)
    obtain ⟨operation', hoperation', hurl⟩ := hkept e operation hoperation
    exact ⟨operation', hoperation', hurl ▸ hmono n _ hrequests⟩

theorem requests_requested (n d m : ℕ) (url : URL) (h : s.Requests m url) :
    (s.requested n d).Requests m url := by
  obtain ⟨operation, hm, rfl⟩ := h
  by_cases hnm : n = m
  · subst hnm
    refine ⟨{ operation with loaderOperation := some d }, ?_, rfl⟩
    rw [requested, modifyOperation, List.getElem?_modify_eq, hm]
    rfl
  · refine ⟨operation, ?_, rfl⟩
    rw [requested, modifyOperation, List.getElem?_modify_ne _ _ hnm, hm]

/-- What a block brings has come from the URL of its load. -/
theorem GenuineMain.brings {block : MainBlock Image Data}
    (hblock : s.GenuineMain C Depicts block) {url : URL} (hn : s.Requests block.token url)
    {image : Image} (hbrings : block.Brings image) : Depicts (C.absoluteString url) image := by
  cases block with
  | queryDone n found =>
    obtain ⟨url', ⟨operation, hn', rfl⟩, hfound⟩ := hblock
    obtain ⟨operation', hn'', rfl⟩ := hn
    rw [← Option.some.inj (hn'.symm.trans hn'')]
    exact hfound image hbrings
  | loaderCompleted n result =>
    obtain ⟨url', ⟨operation, hn', rfl⟩, hresult⟩ := hblock
    obtain ⟨operation', hn'', rfl⟩ := hn
    obtain ⟨data, hok⟩ := hbrings
    rw [← Option.some.inj (hn'.symm.trans hn'')]
    exact (hresult image data hok).1

theorem Cancelled.requests (hcancelled : Cancelled s view operations downloads) (m : ℕ) (url : URL)
    (h : s.Requests m url) :
    ∃ operation, operations[m]? = some operation ∧ operation.url = url := by
  obtain ⟨operation, hm, rfl⟩ := h
  rcases hcancelled.getElem?_cases m with hsame | ⟨-, hretired⟩
  · exact ⟨operation, hsame.trans hm, rfl⟩
  · exact ⟨retire operation, by rw [hretired, hm]; rfl, rfl⟩

/-- Cancelling leaves genuine downloads. -/
theorem Cancelled.genuine (hcancelled : Cancelled s view operations downloads)
    (h : s.GenuineDownloads C Depicts) (hmono : ∀ n url, s.Requests n url → s'.Requests n url)
    (hdownloads : s'.downloads = downloads) (hURLOperations : s'.URLOperations = s.URLOperations)
    (hjoining : s'.joining = s.joining) : s'.GenuineDownloads C Depicts := by
  cases hcancelled with
  | nothing _ => exact h.congr hmono hdownloads hURLOperations hjoining
  | load n operation _ _ _ => exact h.congr hmono hdownloads hURLOperations hjoining
  | request n d operation _ _ _ =>
    refine h.modify hmono (fun operation hd => ?_) hdownloads
      (fun url e he => by rw [← hURLOperations, he]) (fun request hn => by rw [← hjoining, hn])
    have hmoves := moves_cancelToken C n operation
    exact ⟨((h.downloads d operation hd).moves hmoves).1.mono hmono, hmoves.url⟩

/-- The views and the operations do not change. -/
theorem Genuine.congr (h : s.Genuine C Depicts) (hviews : s'.views = s.views)
    (hoperations : s'.operations = s.operations) (hdownloads : s'.GenuineDownloads C Depicts)
    (hmemoryCache : ∀ key image, s'.memoryCache key = some image → Depicts key image)
    (hdiskCache : ∀ key data, s'.diskCache key = some data → C.Cached Depicts key data)
    (hioQueue : ∀ block ∈ s'.ioQueue, s.GenuineIOBlock C Depicts block)
    (hmainQueue : ∀ block ∈ s'.mainQueue, s.GenuineMain C Depicts block) :
    s'.Genuine C Depicts := by
  have hmono : ∀ n url, s.Requests n url → s'.Requests n url := by
    intro n url hn
    rw [Requests, hoperations]
    exact hn
  refine ⟨hmemoryCache, hdiskCache, fun block hblock => (hioQueue block hblock).mono hmono,
    fun block hblock => (hmainQueue block hblock).mono hmono, hdownloads,
    fun view image himage => ?_⟩
  have hsame : s'.imageView view = s.imageView view := by
    rw [imageView, imageView, latest, latest, hviews, hoperations]
  rw [hviews] at himage
  rw [hsame]
  exact h.views view image himage

/-- Neither do the downloads. -/
theorem Genuine.downloads_congr (h : s.Genuine C Depicts)
    (hoperations : s'.operations = s.operations) (hdownloads : s'.downloads = s.downloads)
    (hURLOperations : s'.URLOperations = s.URLOperations)
    (hjoining : s'.joining = s.joining) : s'.GenuineDownloads C Depicts := by
  refine h.downloads.congr (fun n url hn => ?_) hdownloads hURLOperations hjoining
  rw [Requests, hoperations]
  exact hn

theorem update_genuine {α : Type} {P : String → α → Prop} {cache : String → Option α} {key : String}
    {entry : Option α} (h : ∀ key x, cache key = some x → P key x)
    (hentry : ∀ x, entry = some x → P key x) (key' : String) (x : α)
    (hx : Function.update cache key entry key' = some x) : P key' x := by
  by_cases hkey : key' = key
  · subst hkey
    rw [Function.update_self] at hx
    exact hentry x hx
  · rw [Function.update_of_ne hkey] at hx
    exact h key' x hx

/-- The queue of the cache runs a block. -/
theorem IOMove.genuine {block : IOBlock Data} (hmove : IOMove C s block s')
    (hblock : s.GenuineIOBlock C Depicts block) (h : s.Genuine C Depicts) :
    s'.Genuine C Depicts := by
  cases hmove with
  | stored data key =>
    refine h.congr rfl rfl (h.downloads_congr rfl rfl rfl rfl) h.memoryCache ?_ h.ioQueue
      h.mainQueue
    exact update_genuine h.diskCache fun data' hdata' => by
      rw [← Option.some.inj hdata']
      exact hblock
  | dropped n key _ => exact h
  | answered n key image memoryCache hmemory himage =>
    have hgenuine : ∀ key image, memoryCache key = some image → Depicts key image := by
      rcases hmemory with rfl | ⟨data, image', hdisk, hdecode, rfl⟩
      · exact h.memoryCache
      · refine update_genuine h.memoryCache fun image'' himage'' => ?_
        rw [← Option.some.inj himage'']
        exact h.diskCache key data hdisk image' hdecode
    refine h.congr rfl rfl (h.downloads_congr rfl rfl rfl rfl) hgenuine h.diskCache h.ioQueue
      fun block hblock' => ?_
    rcases List.mem_append.mp hblock' with hblock' | hblock'
    · exact h.mainQueue block hblock'
    · obtain rfl := List.mem_singleton.mp hblock'
      obtain ⟨url, hn, rfl⟩ := hblock
      refine ⟨url, hn, fun image' himage' => ?_⟩
      rcases himage with rfl | rfl
      · exact absurd himage' (by simp)
      · exact hgenuine _ image' himage'

/-- What stands at the end of a list is what was put there. -/
theorem getElem?_concat_new {α : Type} {l : List α} {x y : α} {i : ℕ}
    (h : (l ++ [x])[i]? = some y) (hi : ¬ i < l.length) : y = x := by
  have hlt := (List.getElem?_eq_some_iff.mp h).1
  rw [List.length_append, List.length_singleton] at hlt
  obtain rfl : i = l.length := by omega
  rw [List.getElem?_concat_length] at h
  exact (Option.some.inj h).symm

theorem reusable_eq_some [DecidableEq URL] {url : URL} {d : ℕ} (h : s.reusable url = some d) :
    s.URLOperations url = some d ∧ ∃ operation, s.downloads[d]? = some operation ∧
      operation.isFinished = false ∧ operation.isCancelled = false := by
  rw [reusable, Option.filter_eq_some_iff] at h
  obtain ⟨hurl, hlive⟩ := h
  refine ⟨hurl, ?_⟩
  cases hoperation : s.downloads[d]? with
  | none =>
    rw [hoperation] at hlive
    exact absurd hlive (by simp)
  | some operation =>
    rw [hoperation] at hlive
    exact ⟨operation, rfl, by simpa using hlive⟩

/-- A download moves, and its callbacks go to the main queue. -/
theorem Genuine.runDownload (h : s.Genuine C Depicts) (d : ℕ)
    {f : SDWebImageDownloaderOperation URL Data →
      SDWebImageDownloaderOperation URL Data × List (MainBlock Image Data)}
    (hf : ∀ operation, Moves C operation (f operation)) :
    (s.runDownload d f).Genuine C Depicts := by
  rw [SDWebImage.runDownload]
  cases hoperation : s.downloads[d]? with
  | none => exact h
  | some operation =>
    have hmoves := (h.downloads.downloads d operation hoperation).moves (hf operation)
    refine h.congr rfl rfl ?_ h.memoryCache h.diskCache h.ioQueue fun block hblock => ?_
    · refine h.downloads.modify (fun n url hn => hn) (d := d) (f := fun _ => (f operation).1)
        (fun operation' hoperation' => ?_) rfl (fun url e he => he) fun request hn => hn
      rw [← Option.some.inj (hoperation.symm.trans hoperation')]
      exact ⟨.mono (by exact fun n url hn => hn) hmoves.1, (hf operation).url⟩
    · rcases List.mem_append.mp hblock with hblock | hblock
      · exact h.mainQueue block hblock
      · exact hmoves.2 block hblock

theorem Genuine.completionBlock [DecidableEq URL] (h : s.Genuine C Depicts) (d : ℕ) :
    (s.completionBlock d).Genuine C Depicts := by
  rw [SDWebImage.completionBlock]
  cases hoperation : s.downloads[d]? with
  | none => exact h
  | some operation =>
    refine h.congr rfl rfl ?_ h.memoryCache h.diskCache h.ioQueue h.mainQueue
    refine h.downloads.modify (fun n url hn => hn) (d := d)
      (f := fun operation => { operation with completionBlock := false })
      (fun operation' hoperation' => ?_) rfl (fun url e he => ?_) fun request hn => hn
    · have hold := h.downloads.downloads d operation' hoperation'
      exact ⟨⟨hold.tokens, hold.imageData⟩, rfl⟩
    · dsimp only [SDWebImage.modifyDownload] at he
      by_cases hurl : url = operation.url
      · rw [hurl, Function.update_self] at he
        exact absurd he (by simp)
      · rw [Function.update_of_ne hurl] at he
        exact he

/-- The task of a download completes with what the network has for its URL. -/
theorem Genuine.didComplete (h : s.Genuine C Depicts) {d : ℕ}
    (error responseError : Option LoadError) {imageData : Option Data}
    (hdata : ∀ operation data, s.downloads[d]? = some operation → imageData = some data →
      C.Loaded Depicts operation.url data) :
    (s.modifyDownload d (didCompleteWithError error responseError imageData)).Genuine C
      Depicts := by
  refine h.congr rfl rfl ?_ h.memoryCache h.diskCache h.ioQueue h.mainQueue
  refine h.downloads.modify (fun n url hn => hn) (d := d)
    (f := didCompleteWithError error responseError imageData) (fun operation hoperation => ?_) rfl
    (fun url e he => he) fun request hn => hn
  have hold := h.downloads.downloads d operation hoperation
  rw [didCompleteWithError]
  split
  · exact ⟨⟨hold.tokens, hold.imageData⟩, rfl⟩
  · refine ⟨⟨fun n hn => ?_, fun data hdata' => ?_⟩, rfl⟩
    · rw [everyToken, DownloadWork.tokens, List.mem_append, or_self] at hn
      exact hold.tokens n (List.mem_append_left _ hn)
    · refine hdata operation data hoperation ?_
      cases error with
      | none => exact hdata'
      | some error => exact absurd hdata' (by simp [DownloadWork.imageData])

/-- The handler is for a load of the URL of the download. -/
theorem Genuine.join (h : s.Genuine C Depicts) (hviews : s.LoaderViews) :
    s.join.Genuine C Depicts := by
  have hsame := (hviews.join).2
  revert hsame
  rw [SDWebImage.join]
  cases hjoining : s.joining with
  | none => exact fun _ => h
  | some request =>
    intro hsame
    obtain ⟨download, hdownload, hrequests⟩ := h.downloads.joining request.1 request.2 hjoining
    have hmono := requests_requested (s := s.modifyDownload request.2 (addHandlers request.1))
      request.1 request.2
    refine ⟨h.memoryCache, h.diskCache, fun block hblock => ?_, fun block hblock => ?_, ?_,
      fun view image himage => ?_⟩
    · exact (h.ioQueue block hblock).mono hmono
    · exact (h.mainQueue block hblock).mono hmono
    · refine h.downloads.modify hmono (d := request.2) (f := addHandlers request.1)
        (fun download' hdownload' => ?_) rfl (fun url e he => he)
        (fun _ hno => absurd hno (by simp))
      obtain rfl := Option.some.inj (hdownload'.symm.trans hdownload)
      have hold := h.downloads.downloads request.2 download' hdownload
      refine ⟨⟨fun m hm => hmono m _ ?_, hold.imageData⟩, rfl⟩
      simp only [everyToken, addHandlers, List.mem_append, List.mem_singleton] at hm
      rcases hm with (hm | rfl) | hm
      · exact hold.tokens m (List.mem_append_left _ hm)
      · exact hrequests
      · exact hold.tokens m (List.mem_append_right _ hm)
    · rw [hsame view]
      exact h.views view image himage

/-- A view shows its latest load, and an image that has come from its URL. -/
theorem Genuine.shownAs (h : s.Genuine C Depicts) (hviews : s.LoaderViews) (view : View) :
    (s.views view).image.ShownAs (fun url => Depicts (C.absoluteString url))
      (s.imageView view).shown := by
  cases hoperation : (s.views view).operation with
  | none =>
    have hview : s.imageView view = .initial := by rw [imageView, latest, hoperation]; rfl
    rw [hviews.fresh view hoperation, hview]
    exact trivial
  | some n =>
    obtain ⟨hinitial, operation, hn, -⟩ := hviews.known view n hoperation
    have hview : s.imageView view = showing operation (s.views view).image := by
      rw [imageView, latest, hoperation, Option.bind_some, hn]
    cases himage : (s.views view).image with
    | initial => exact absurd himage hinitial
    | placeholder =>
      rw [hview, himage, showing]
      split <;> exact trivial
    | image image =>
      obtain ⟨url, hloaded, hdepicts⟩ := h.views view image himage
      rw [hloaded]
      exact hdepicts

section Steps

variable [DecidableEq View]

/-- The views that change show what has come from their URL. -/
theorem Genuine.views_update (h : s.Genuine C Depicts) {entry : WebImageView Image} {url : URL}
    (hviews : s'.views = Function.update s.views view entry)
    (hothers : ∀ other, other ≠ view → s'.imageView other = s.imageView other)
    (hself : ∀ image, entry.image = .image image →
      s'.imageView view = .loaded url ∧ Depicts (C.absoluteString url) image) :
    ∀ other image, (s'.views other).image = .image image →
      ∃ url, s'.imageView other = .loaded url ∧ Depicts (C.absoluteString url) image := by
  intro other image himage
  by_cases hother : other = view
  · subst hother
    rw [hviews, Function.update_self] at himage
    exact ⟨url, hself image himage⟩
  · rw [hviews, Function.update_of_ne hother] at himage
    rw [hothers other hother]
    exact h.views other image himage

/-- A view is set to a URL. -/
theorem SetImage.genuine {url : URL} (hset : SetImage C s view url operations downloads s')
    (hcancelled : Cancelled s view operations downloads) (hviews : s.LoaderViews)
    (h : s.Genuine C Depicts) : s'.Genuine C Depicts := by
  obtain ⟨operation, picture, hview, hurl, hpicture, hrunning, hviews', hoperations, -, himage⟩ :=
    hset.cases_views
  obtain ⟨-, hothers, hself⟩ := hviews.set hcancelled hview hpicture hrunning hviews' hoperations
  -- A cancelled load still has its URL, and the new one has the next number.
  have hmono : ∀ n url, s.Requests n url → s'.Requests n url := by
    intro n url hn
    obtain ⟨old, hold, hurl⟩ := hcancelled.requests n url hn
    refine ⟨old, ?_, hurl⟩
    rw [hoperations, List.getElem?_append_left (List.getElem?_eq_some_iff.mp hold).1, hold]
  have hnew : s'.Requests s.operations.length url := by
    refine ⟨operation, ?_, hurl⟩
    rw [hoperations, ← hcancelled.length_eq, List.getElem?_concat_length]
  have hdownloads : s'.downloads = downloads → s'.URLOperations = s.URLOperations →
      s'.joining = s.joining → s'.GenuineDownloads C Depicts :=
    hcancelled.genuine h.downloads hmono
  -- The only image a view is set to at once is one of the memory cache.
  have hentry : ∀ image, picture = .image image →
      s'.imageView view = .loaded url ∧ Depicts (C.absoluteString url) image := by
    intro image hpicture
    rw [hself, hpicture, showing, hurl]
    exact ⟨rfl, h.memoryCache _ _ (himage image hpicture)⟩
  have hshown := h.views_update hviews' hothers hentry
  have hio : ∀ block ∈ s.ioQueue, s'.GenuineIOBlock C Depicts block := fun block hblock =>
    (h.ioQueue block hblock).mono hmono
  have hmain : ∀ block ∈ s.mainQueue, s'.GenuineMain C Depicts block := fun block hblock =>
    (h.mainQueue block hblock).mono hmono
  cases hset with
  | refused _ =>
    exact ⟨h.memoryCache, h.diskCache, hio, hmain, hdownloads rfl rfl rfl, hshown⟩
  | found image _ _ =>
    exact ⟨h.memoryCache, h.diskCache, hio, hmain, hdownloads rfl rfl rfl, hshown⟩
  | asked _ _ =>
    refine ⟨h.memoryCache, h.diskCache, fun block hblock => ?_, hmain, hdownloads rfl rfl rfl,
      hshown⟩
    rcases List.mem_append.mp hblock with hblock | hblock
    · exact hio block hblock
    · obtain rfl := List.mem_singleton.mp hblock
      exact ⟨url, hnew, rfl⟩

variable [DecidableEq URL] {event : Event URL Data View}

omit [DecidableEq View] in
/-- A download is created for the load that asks for it. -/
theorem GenuineDownloads.created (h : s.GenuineDownloads C Depicts)
    (hmono : ∀ n url, s.Requests n url → s'.Requests n url) {url : URL} (hn : s'.Requests n url)
    (hdownloads : s'.downloads = s.downloads ++ [{ url := url, callbackTokens := [n] }])
    (hURLOperations : s'.URLOperations =
      Function.update s.URLOperations url (some s.downloads.length))
    (hjoining : s'.joining = s.joining) : s'.GenuineDownloads C Depicts := by
  have hkept : ∀ (d : ℕ) download, s.downloads[d]? = some download →
      s'.downloads[d]? = some download := by
    intro d download hd
    rw [hdownloads, List.getElem?_append_left (List.getElem?_eq_some_iff.mp hd).1, hd]
  refine ⟨fun d download hd => ?_, fun url' d hd => ?_, fun m d hm => ?_⟩
  · rw [hdownloads] at hd
    by_cases hlt : d < s.downloads.length
    · exact (h.downloads d download ((List.getElem?_append_left hlt).symm.trans hd)).mono hmono
    · -- The new download has one token, and no data yet.
      obtain rfl := getElem?_concat_new hd hlt
      refine ⟨fun m hm => ?_, fun data hdata => ?_⟩
      · obtain rfl : m = n := by simpa [everyToken, DownloadWork.tokens] using hm
        exact hn
      · exact absurd hdata (by simp [DownloadWork.imageData])
  · rw [hURLOperations] at hd
    by_cases hurl : url' = url
    · subst hurl
      rw [Function.update_self] at hd
      obtain rfl := Option.some.inj hd
      exact ⟨_, by rw [hdownloads, List.getElem?_concat_length], rfl⟩
    · rw [Function.update_of_ne hurl] at hd
      obtain ⟨download, hdownload, hsame⟩ := h.URLOperations url' d hd
      exact ⟨download, hkept d download hdownload, hsame⟩
  · rw [hjoining] at hm
    obtain ⟨download, hdownload, hrequests⟩ := h.joining m d hm
    exact ⟨download, hkept d download hdownload, hmono m _ hrequests⟩

/-- A running load moves. -/
theorem LoadMove.genuine {block : MainBlock Image Data} (hmove : LoadMove C s n operation block s')
    (htoken : block.token = n) (hblock : s.GenuineMain C Depicts block) (hviews : s.LoaderViews)
    (hn : s.Running n operation) (h : s.Genuine C Depicts) : s'.Genuine C Depicts := by
  obtain ⟨operation', picture, hview, hurl, hpicture, hrunning, hviews', hoperations, -, himage⟩ :=
    hmove.cases_views hviews hn
  obtain ⟨-, hothers, hself⟩ := hviews.moved hn hview hpicture hrunning hviews' hoperations
  have hrequests : s.Requests n operation.url := ⟨operation, hn.1, rfl⟩
  have hmono : ∀ n url, s.Requests n url → s'.Requests n url := by
    intro m url hm
    obtain ⟨old, hold, rfl⟩ := hm
    by_cases hnm : n = m
    · subst hnm
      refine ⟨operation', ?_, ?_⟩
      · rw [hoperations, List.getElem?_modify_eq, hold]
        rfl
      · rw [hurl, Option.some.inj (hold.symm.trans hn.1)]
    · exact ⟨old, by rw [hoperations, List.getElem?_modify_ne _ _ hnm, hold], rfl⟩
  have hbrought : ∀ image, block.Brings image →
      Depicts (C.absoluteString operation.url) image := fun image hbrings =>
    hblock.brings (htoken ▸ hrequests) hbrings
  have hentry : ∀ image, picture = .image image →
      s'.imageView operation.view = .loaded operation.url ∧
        Depicts (C.absoluteString operation.url) image := by
    intro image hpicture
    rw [hself, hpicture, showing, hurl]
    exact ⟨rfl, hbrought image (himage image hpicture)⟩
  have hshown := h.views_update hviews' hothers hentry
  have hio : ∀ block ∈ s.ioQueue, s'.GenuineIOBlock C Depicts block := fun block hblock =>
    (h.ioQueue block hblock).mono hmono
  have hmain : ∀ block ∈ s.mainQueue, s'.GenuineMain C Depicts block := fun block hblock =>
    (h.mainQueue block hblock).mono hmono
  have hdownloads : s'.downloads = s.downloads → s'.URLOperations = s.URLOperations →
      s'.joining = s.joining → s'.GenuineDownloads C Depicts := h.downloads.congr hmono
  have hdownload : ∀ (d : ℕ) download, s.downloads[d]? = some download →
      s'.GenuineDownload C Depicts download := fun d download hd =>
    (h.downloads.downloads d download hd).mono hmono
  cases hmove with
  | found image =>
    exact ⟨h.memoryCache, h.diskCache, hio, hmain, hdownloads rfl rfl rfl, hshown⟩
  | joined d hreusable =>
    obtain ⟨hd, -⟩ := reusable_eq_some hreusable
    refine ⟨h.memoryCache, h.diskCache, hio, hmain,
      ⟨hdownload, h.downloads.URLOperations, fun m e hm => ?_⟩, hshown⟩
    -- The load is going to join the download of its own URL.
    obtain ⟨rfl, rfl⟩ := Prod.mk.inj (Option.some.inj hm)
    obtain ⟨download, hdownload', hsame⟩ := h.downloads.URLOperations operation.url d hd
    exact ⟨download, hdownload', hsame ▸ hmono n _ hrequests⟩
  | created _ =>
    exact ⟨h.memoryCache, h.diskCache, hio, hmain,
      h.downloads.created hmono (hmono n _ hrequests) rfl rfl rfl, hshown⟩
  | failed error failedURLs _ =>
    exact ⟨h.memoryCache, h.diskCache, hio, hmain, hdownloads rfl rfl rfl, hshown⟩
  | loaded image data =>
    have hcached : C.Cached Depicts (C.absoluteString operation.url) data := by
      obtain ⟨url, ⟨old, hold, hsame⟩, hresult⟩ := hblock
      obtain rfl := Option.some.inj (hold.symm.trans hn.1)
      rw [hsame]
      exact (hresult image data rfl).2
    refine ⟨fun key image' himage' => ?_, h.diskCache, fun block hblock => ?_, hmain,
      hdownloads rfl rfl rfl, hshown⟩
    · by_cases hkey : key = C.absoluteString operation.url
      · subst hkey
        dsimp only at himage'
        rw [Function.update_self] at himage'
        rw [← Option.some.inj himage']
        exact hbrought image ⟨data, rfl⟩
      · dsimp only at himage'
        rw [Function.update_of_ne hkey] at himage'
        exact h.memoryCache key image' himage'
    · simp only [List.mem_append, List.mem_cons, List.not_mem_nil, or_false, or_self] at hblock
      rcases hblock with hblock | rfl
      · exact hio block hblock
      · exact hcached

/-- Whatever happens next, all the loader holds has come from where it is held for. -/
theorem genuine_step (hviews : s.LoaderViews) (hstep : (system View C).Step s event s')
    (hevent : event.Genuine C Depicts s) (h : s.Genuine C Depicts) : s'.Genuine C Depicts := by
  obtain ⟨henabled, hnext⟩ := hstep
  obtain rfl := Option.some.inj hnext
  cases event with
  | setImage view url =>
    obtain ⟨operations, downloads, hcancelled, hset⟩ :=
      setImage_cases (C := C) hviews.uncancelled view url
    exact hset.genuine hcancelled hviews h
  | main =>
    obtain ⟨block, blocks, hqueue⟩ := List.exists_cons_of_ne_nil henabled.1
    -- The block in front is genuine, and so is what is left.
    have hgenuine : Genuine C Depicts { s with mainQueue := blocks } :=
      h.congr rfl rfl (h.downloads_congr rfl rfl rfl rfl) h.memoryCache h.diskCache h.ioQueue
        fun block' hblock' =>
        h.mainQueue block' (hqueue ▸ List.mem_cons_of_mem _ hblock')
    have hblock : s.GenuineMain C Depicts block :=
      h.mainQueue block (hqueue ▸ List.mem_cons_self)
    rcases runMain_cases (C := C) hviews.uncancelled hqueue with ⟨-, heq⟩ | ⟨operation, hn, hmove⟩
    · show (s.runMain C).Genuine C Depicts
      rw [heq]
      exact hgenuine
    · exact hmove.genuine (s := { s with mainQueue := blocks }) rfl
        (hblock.mono fun n url hn => hn) (hviews.congr rfl rfl) hn hgenuine
  | io =>
    obtain ⟨block, blocks, hqueue⟩ := List.exists_cons_of_ne_nil henabled
    have hgenuine : Genuine C Depicts { s with ioQueue := blocks } :=
      h.congr rfl rfl (h.downloads_congr rfl rfl rfl rfl) h.memoryCache h.diskCache
        (fun block' hblock' =>
        h.ioQueue block' (hqueue ▸ List.mem_cons_of_mem _ hblock')) h.mainQueue
    have hblock : s.GenuineIOBlock C Depicts block := h.ioQueue block (hqueue ▸ List.mem_cons_self)
    exact (runIOQueue_cases (C := C) hqueue).genuine (hblock.mono fun n url hn => hn) hgenuine
  | join => exact h.join hviews
  | start d => exact h.runDownload d (moves_startDownload C)
  | didComplete d error responseError imageData => exact h.didComplete error responseError hevent
  | work d => exact h.runDownload d (moves_work C)
  | completionBlock d => exact h.completionBlock d
  | evictMemory key =>
    exact h.congr rfl rfl (h.downloads_congr rfl rfl rfl rfl)
      (update_genuine h.memoryCache fun _ hno => absurd hno (by simp))
      h.diskCache h.ioQueue h.mainQueue
  | evictDisk key =>
    exact h.congr rfl rfl (h.downloads_congr rfl rfl rfl rfl) h.memoryCache
      (update_genuine h.diskCache fun _ hno => absurd hno (by simp)) h.ioQueue h.mainQueue

variable (C Depicts) in
/-- The loader with a network that answers each download with what its URL has. -/
def GenuineNetwork (View : Type) [DecidableEq View] :
    EventSystem (SDWebImage URL Image Data View) (Event URL Data View) :=
  (system View C).restrict fun s event => event.Genuine C Depicts s

theorem genuine_run {events : List (Event URL Data View)}
    (hrun : (GenuineNetwork C Depicts View).Run s events s') (hviews : s.LoaderViews)
    (h : s.Genuine C Depicts) : s'.LoaderViews ∧ s'.Genuine C Depicts := by
  refine hrun.invariant (I := fun s => s.LoaderViews ∧ s.Genuine C Depicts) ?_ ⟨hviews, h⟩
  intro s event s' ⟨hviews, h⟩ hstep
  obtain ⟨hstep, hevent⟩ := EventSystem.step_restrict_iff.mp hstep
  exact ⟨(imageView_step hviews hstep).1, genuine_step hviews hstep hevent h⟩

/-- **The image views are independent.**  In whatever order the queues and the downloads
go on and the caches are emptied, each view goes the way of an image view of its own that
is set to the same URLs, as the cells count on; and the image it shows has come from the
URL it was set to last. -/
theorem imageView_run {diskCache : String → Option Data}
    (hdisk : ∀ key data, diskCache key = some data → C.Cached Depicts key data)
    {events : List (Event URL Data View)}
    (hrun : (GenuineNetwork C Depicts View).Run (launched diskCache) events s) (view : View) :
    ∃ loads imageView, (imageViewLoads URL).system.Run .initial loads imageView ∧
      loads.filterMap Sum.getLeft? = events.flatMap (Event.urls view) ∧
      (s.views view).image.ShownAs (fun url image => Depicts (C.absoluteString url) image ∧
        Reusable.lastConfigured loads = some url) imageView.shown := by
  obtain ⟨hviews, hgenuine⟩ :=
    genuine_run hrun (loaderViews_launched diskCache) (genuine_launched hdisk)
  obtain ⟨-, hfollows⟩ := imageView_follows hrun.of_restrict (loaderViews_launched diskCache)
  obtain ⟨loads, hloads, hurls⟩ := hfollows view
  refine ⟨loads, s.imageView view, hloads, hurls, ?_⟩
  refine (hgenuine.shownAs hviews view).imp fun url image hshown hdepicts => ⟨hdepicts, ?_⟩
  cases hview : s.imageView view with
  | loaded url' =>
    rw [hview] at hshown hloads
    rw [← ShownImage.loaded.inj hshown]
    exact lastConfigured_of_run hloads (.inr rfl)
  | initial => exact absurd (hview ▸ hshown) nofun
  | loading _ => exact absurd (hview ▸ hshown) nofun
  | failed => exact absurd (hview ▸ hshown) nofun

end Steps

end Genuine

/-- A view is set to a second URL while it loads the first one. -/
def reusedView : List (Event String String Unit) :=
  [.setImage () "first", .io, .main, .start 0, .setImage () "second", .io, .main, .start 1,
    .didComplete 1 none none (some "second"), .work 1, .work 1, .main]

theorem reusedView_run : ∃ s : SDWebImage String String String Unit,
    (GenuineNetwork textCoders (· = ·) Unit).Run (launched fun _ => none) reusedView s ∧
      (s.views ()).image = .image "second" := by
  have hstep : ∀ {s s' : SDWebImage String String String Unit} {event},
      s.enabled event → some (s.next textCoders event) = some s' →
      event.Genuine textCoders (· = ·) s →
      (GenuineNetwork textCoders (· = ·) Unit).Step s event s' :=
    fun henabled hnext hgenuine => ⟨⟨henabled, hgenuine⟩, hnext⟩
  refine ⟨_, .cons (hstep rfl rfl trivial) <|
    .cons (hstep nofun rfl trivial) <| .cons (hstep ⟨nofun, rfl⟩ rfl trivial) <|
    .cons (hstep ⟨_, rfl, rfl⟩ rfl trivial) <| .cons (hstep rfl rfl trivial) <|
    .cons (hstep nofun rfl trivial) <| .cons (hstep ⟨nofun, rfl⟩ rfl trivial) <|
    .cons (hstep ⟨_, rfl, rfl⟩ rfl trivial) <| .cons (hstep ⟨_, rfl, rfl⟩ rfl ?_) <|
    .cons (hstep ⟨_, rfl, nofun⟩ rfl trivial) <| .cons (hstep ⟨_, rfl, nofun⟩ rfl trivial) <|
    .cons (hstep ⟨nofun, rfl⟩ rfl trivial) <| .nil _, rfl⟩
  intro operation data hd hdata
  obtain rfl := Option.some.inj hd
  obtain rfl := Option.some.inj hdata
  exact ⟨fun image h => Option.some.inj h, fun image h => Option.some.inj h⟩

theorem imageView_run_first : ∃ s : SDWebImage String String String Unit,
    (s.views ()).image = .image "second" ∧
    ∃ loads imageView, (imageViewLoads String).system.Run .initial loads imageView ∧
      loads.filterMap Sum.getLeft? = reusedView.flatMap (Event.urls ()) ∧
      (s.views ()).image.ShownAs (fun url image => url = image ∧
        Reusable.lastConfigured loads = some url) imageView.shown := by
  obtain ⟨s, hrun, hshown⟩ := reusedView_run
  exact ⟨s, hshown, imageView_run (fun _ _ hno => absurd hno (by simp)) hrun ()⟩

end SDWebImage

end HolyWater
