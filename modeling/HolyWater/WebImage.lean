/-
The image loader.

An image view hands its URL to the manager, which asks the memory cache at once, the
disk cache on the queue of the cache, and the network at last.  Requests for one URL
share a download; its callbacks come back on the main queue, some of them to loads
that have been cancelled in the meantime.

* `SDWebImageCombinedOperation`, `SDWebImageDownloaderOperation` — a load and a
  download, with what the queues still have to do for them;
* `SDWebImage` — the image views, the manager, the cache and the downloader;
* `sd_internalSetImageWithURL`, `loaderCompleted`, `work` — the blocks of the main
  queue, and those a download runs on its own queues;
* `system` — the loader, driven by its queues, the network and its users.
-/
import HolyWater.Cells
import Mathlib.Logic.Function.Basic

namespace HolyWater

/-! ### Errors -/

/-- The codes of the library's own error domain. -/
inductive SDWebImageError where
  | invalidURL
  | badImageData
  | cacheNotModified
  | blackListed
  | invalidDownloadOperation
  | invalidDownloadStatusCode
  | cancelled
  | invalidDownloadResponse
  | invalidDownloadContentType
  deriving DecidableEq, Repr

/-- The codes of `NSURLErrorDomain` that the downloader tells apart. -/
inductive NSURLError where
  | notConnectedToInternet
  | cancelled
  | timedOut
  | internationalRoamingOff
  | dataNotAllowed
  | cannotFindHost
  | cannotConnectToHost
  | networkConnectionLost
  | other
  deriving DecidableEq, Repr

/-- An error, by its domain. -/
inductive LoadError where
  | sdWebImage (code : SDWebImageError)
  | url (code : NSURLError)
  | other
  deriving DecidableEq, Repr

/-- `shouldBlockFailedURLWithURL:` of the downloader. -/
def LoadError.shouldBlockFailedURL : LoadError → Bool
  | sdWebImage code => code = .invalidURL ∨ code = .badImageData
  | url code =>
    code ≠ .notConnectedToInternet ∧ code ≠ .cancelled ∧ code ≠ .timedOut ∧
      code ≠ .internationalRoamingOff ∧ code ≠ .dataNotAllowed ∧ code ≠ .cannotFindHost ∧
      code ≠ .cannotConnectToHost ∧ code ≠ .networkConnectionLost
  | other => false

/-! ### Loads and downloads -/

/-- What the loader asks of URLs and of the image coders. -/
structure ImageCoders (URL Image Data : Type) where
  absoluteString : URL → String
  /-- `SDImageCacheDecodeImageData`. -/
  decodeCached : String → Data → Option Image
  /-- `SDImageLoaderDecodeImageData`. -/
  decodeLoaded : URL → Data → Option Image
  /-- Neither side of the image is of length 0. -/
  hasPixels : Image → Bool

/-- What an image view shows. -/
inductive Picture (Image : Type) where
  | initial
  | placeholder
  | image (image : Image)

/-- An image view, with the entry of its table of operations; the reference is weak. -/
structure WebImageView (Image : Type) where
  image : Picture Image := .initial
  operation : Option ℕ := none

/-- A load: the operation of the manager, the token of its cache query, and the view of
its completion block. -/
structure SDWebImageCombinedOperation (URL View : Type) where
  url : URL
  view : View
  /-- The manager has it among its running operations, and so retains it. -/
  running : Bool := false
  cancelled : Bool := false
  cacheOperation : Bool := false
  /-- The token of the cache query is cancelled. -/
  queryCancelled : Bool := false
  loaderOperation : Option ℕ := none

/-- The block that the queues of a download run next. -/
inductive DownloadWork (Data : Type) where
  | none
  /-- The task has completed, and the tokens have been copied. -/
  | completed (error : Option LoadError) (imageData : Option Data) (tokens : List ℕ)
  /-- The coder queue decodes for the pending tokens, and then checks for new ones. -/
  | decoding (imageData : Data) (pendingTokens finishedTokens : List ℕ)
  /-- The callbacks have been called; `done` comes next. -/
  | finishing

/-- A download.  A token stands for the load whose request has added it. -/
structure SDWebImageDownloaderOperation (URL Data : Type) where
  url : URL
  callbackTokens : List ℕ
  started : Bool := false
  isCancelled : Bool := false
  isExecuting : Bool := false
  isFinished : Bool := false
  dataTask : Bool := false
  work : DownloadWork Data := .none
  /-- The completion block has still to run. -/
  completionBlock : Bool := true

/-- A block on the main queue: a cache query is answered, or a download. -/
inductive MainBlock (Image Data : Type) where
  | queryDone (token : ℕ) (image : Option Image)
  | loaderCompleted (token : ℕ) (result : Except LoadError (Image × Data))

/-- The load a block of the main queue is for. -/
def MainBlock.token {Image Data : Type} : MainBlock Image Data → ℕ
  | queryDone n _ => n
  | loaderCompleted n _ => n

/-- The image a block of the main queue brings. -/
def MainBlock.Brings {Image Data : Type} (image : Image) : MainBlock Image Data → Prop
  | queryDone _ found => found = some image
  | loaderCompleted _ result => ∃ data, result = .ok (image, data)

/-- A block on the queue of the cache. -/
inductive IOBlock (Data : Type) where
  | query (token : ℕ) (key : String)
  | store (data : Data) (key : String)

/-- The loader, between two blocks of its queues. -/
structure SDWebImage (URL Image Data View : Type) where
  views : View → WebImageView Image := fun _ => {}
  /-- All operations there have been; running ones are retained by the manager. -/
  operations : List (SDWebImageCombinedOperation URL View) := []
  failedURLs : List URL := []
  memoryCache : String → Option Image := fun _ => none
  diskCache : String → Option Data
  URLOperations : URL → Option ℕ := fun _ => none
  downloads : List (SDWebImageDownloaderOperation URL Data) := []
  ioQueue : List (IOBlock Data) := []
  mainQueue : List (MainBlock Image Data) := []
  /-- The main queue has found a download for a load to join, and stands between the check
  and the handler, where it holds no lock of the download. -/
  joining : Option (ℕ × ℕ) := none

namespace SDWebImage

variable {URL Image Data View : Type}

def modifyOperation (n : ℕ)
    (f : SDWebImageCombinedOperation URL View → SDWebImageCombinedOperation URL View)
    (s : SDWebImage URL Image Data View) : SDWebImage URL Image Data View :=
  { s with operations := s.operations.modify n f }

def modifyDownload (d : ℕ)
    (f : SDWebImageDownloaderOperation URL Data → SDWebImageDownloaderOperation URL Data)
    (s : SDWebImage URL Image Data View) : SDWebImage URL Image Data View :=
  { s with downloads := s.downloads.modify d f }

def dispatchIOQueue (blocks : List (IOBlock Data)) (s : SDWebImage URL Image Data View) :
    SDWebImage URL Image Data View :=
  { s with ioQueue := s.ioQueue ++ blocks }

def dispatchMain (blocks : List (MainBlock Image Data)) (s : SDWebImage URL Image Data View) :
    SDWebImage URL Image Data View :=
  { s with mainQueue := s.mainQueue ++ blocks }

/-! ### Cancelling -/

/-- The operation behind a weak reference. -/
def operation? (s : SDWebImage URL Image Data View) (n : ℕ) :
    Option (SDWebImageCombinedOperation URL View) :=
  s.operations[n]?.filter (·.running)

def safelyRemoveOperationFromRunning (n : ℕ) (s : SDWebImage URL Image Data View) :
    SDWebImage URL Image Data View :=
  s.modifyOperation n fun operation => { operation with running := false }

def reset (operation : SDWebImageDownloaderOperation URL Data) :
    SDWebImageDownloaderOperation URL Data :=
  { operation with callbackTokens := [], dataTask := false }

def cancelInternal (operation : SDWebImageDownloaderOperation URL Data) :
    SDWebImageDownloaderOperation URL Data :=
  if operation.isFinished then operation
  else reset { operation with
    isCancelled := true
    dataTask := false
    isExecuting := false
    -- Not before the operation has been started.
    isFinished := operation.isExecuting }

/-- `cancel:` of the download.  The last token cancels all of it.  The callback goes to
the load of the token, which is cancelled itself. -/
def cancelToken (token : ℕ) (operation : SDWebImageDownloaderOperation URL Data) :
    SDWebImageDownloaderOperation URL Data :=
  if operation.callbackTokens = [token] then cancelInternal operation
  else { operation with callbackTokens := operation.callbackTokens.erase token }

/-- `cancel` of the operation.  The blocks of the query and of the download that it calls
find it cancelled. -/
def cancel (n : ℕ) (s : SDWebImage URL Image Data View) : SDWebImage URL Image Data View :=
  match s.operations[n]? with
  | none => s
  | some operation =>
    if operation.cancelled then s
    else
      let s := match operation.loaderOperation with
        | none => s
        | some d => s.modifyDownload d (cancelToken n)
      (s.modifyOperation n fun operation => { operation with
        cancelled := true
        queryCancelled := operation.cacheOperation || operation.queryCancelled
        cacheOperation := false
        loaderOperation := none }).safelyRemoveOperationFromRunning n

/-- The load `n` is among the running operations. -/
def Running (s : SDWebImage URL Image Data View) (n : ℕ)
    (operation : SDWebImageCombinedOperation URL View) : Prop :=
  s.operations[n]? = some operation ∧ operation.running = true

/-- No running load has been cancelled. -/
def RunningUncancelled (s : SDWebImage URL Image Data View) : Prop :=
  ∀ n operation, s.Running n operation →
    operation.cancelled = false ∧ operation.queryCancelled = false

/-- The operation after it has been cancelled. -/
def retire (operation : SDWebImageCombinedOperation URL View) :
    SDWebImageCombinedOperation URL View :=
  { operation with
    cancelled := true
    queryCancelled := operation.cacheOperation || operation.queryCancelled
    cacheOperation := false
    loaderOperation := none
    running := false }

/-- What is left of the operations and the downloads when the load of a view is
cancelled. -/
inductive Cancelled (s : SDWebImage URL Image Data View) (view : View) :
    List (SDWebImageCombinedOperation URL View) → List (SDWebImageDownloaderOperation URL Data) →
      Prop
  | nothing (hnone : ∀ n operation, (s.views view).operation = some n → ¬ s.Running n operation) :
      Cancelled s view s.operations s.downloads
  | load (n : ℕ) (operation : SDWebImageCombinedOperation URL View)
      (hview : (s.views view).operation = some n) (hrunning : s.Running n operation)
      (hloader : operation.loaderOperation = none) :
      Cancelled s view (s.operations.modify n retire) s.downloads
  | request (n d : ℕ) (operation : SDWebImageCombinedOperation URL View)
      (hview : (s.views view).operation = some n) (hrunning : s.Running n operation)
      (hloader : operation.loaderOperation = some d) :
      Cancelled s view (s.operations.modify n retire) (s.downloads.modify d (cancelToken n))

variable {s s' : SDWebImage URL Image Data View} {n : ℕ} {view : View} {url : URL}
  {operation : SDWebImageCombinedOperation URL View}
  {operations : List (SDWebImageCombinedOperation URL View)}
  {downloads : List (SDWebImageDownloaderOperation URL Data)}

theorem operation?_eq_some_iff : s.operation? n = some operation ↔ s.Running n operation := by
  rw [operation?, Option.filter_eq_some_iff]
  rfl

theorem operation?_eq_none_iff :
    s.operation? n = none ↔ ∀ operation, ¬ s.Running n operation := by
  rw [Option.eq_none_iff_forall_ne_some]
  refine forall_congr' fun operation => ?_
  rw [ne_eq, operation?_eq_some_iff]

theorem cancel_eq (h : s.Running n operation) (hcancelled : operation.cancelled = false) :
    s.cancel n = { s with
      operations := s.operations.modify n retire
      downloads := match operation.loaderOperation with
        | none => s.downloads
        | some d => s.downloads.modify d (cancelToken n) } := by
  rw [cancel, h.1]
  dsimp only
  rw [if_neg (by simp [hcancelled])]
  cases operation.loaderOperation <;>
    simp only [safelyRemoveOperationFromRunning, modifyOperation, modifyDownload,
      List.modify_modify_eq] <;> rfl

theorem Cancelled.length_eq (h : Cancelled s view operations downloads) :
    operations.length = s.operations.length := by
  cases h with
  | nothing _ => rfl
  | load n _ _ _ _ => exact List.length_modify _ _ _
  | request n d _ _ _ _ => exact List.length_modify _ _ _

theorem modify_concat {α : Type} (f : α → α) (x : α) {l : List α} {i : ℕ} (h : l.length = i) :
    (l ++ [x]).modify i f = l ++ [f x] := by
  subst h
  induction l with
  | nil => rfl
  | cons y l ih =>
    rw [List.cons_append, List.length_cons, List.modify_succ_cons, ih, List.cons_append]

theorem modify_eq_const {α : Type} {l : List α} {d : ℕ} {x : α} (h : l[d]? = some x) (f : α → α) :
    l.modify d f = l.modify d fun _ => f x := by
  refine List.ext_getElem? fun e => ?_
  by_cases hde : d = e
  · subst hde
    rw [List.getElem?_modify_eq, List.getElem?_modify_eq, h]
    rfl
  · rw [List.getElem?_modify_ne _ _ hde, List.getElem?_modify_ne _ _ hde]

/-! ### The downloader -/

section Downloader

variable [DecidableEq URL]

/-- The download that a request for `url` may join. -/
def reusable (s : SDWebImage URL Image Data View) (url : URL) : Option ℕ :=
  (s.URLOperations url).filter fun d =>
    (s.downloads[d]?.map fun operation => !operation.isFinished && !operation.isCancelled).getD
      false

def addHandlers (token : ℕ) (operation : SDWebImageDownloaderOperation URL Data) :
    SDWebImageDownloaderOperation URL Data :=
  { operation with callbackTokens := operation.callbackTokens ++ [token] }

/-- The downloader's token goes to the load. -/
def requested (n d : ℕ) (s : SDWebImage URL Image Data View) : SDWebImage URL Image Data View :=
  s.modifyOperation n fun operation => { operation with loaderOperation := some d }

/-- The downloader has found a download to join, or creates one. -/
def downloadImageWithURL (url : URL) (token : ℕ) (s : SDWebImage URL Image Data View) :
    SDWebImage URL Image Data View :=
  match s.reusable url with
  | some d => { s with joining := some (token, d) }
  | none =>
    let operation : SDWebImageDownloaderOperation URL Data :=
      { url := url, callbackTokens := [token] }
    requested token s.downloads.length { s with
      URLOperations := Function.update s.URLOperations url (some s.downloads.length)
      downloads := s.downloads ++ [operation] }

/-- The handler is added to the download that has been found. -/
def join (s : SDWebImage URL Image Data View) : SDWebImage URL Image Data View :=
  match s.joining with
  | none => s
  | some (token, d) =>
    { (s.modifyDownload d (addHandlers token)).requested token d with joining := none }

theorem downloadImageWithURL_joined {d : ℕ} (token : ℕ) (h : s.reusable url = some d) :
    s.downloadImageWithURL url token = { s with joining := some (token, d) } := by
  rw [downloadImageWithURL, h]

theorem downloadImageWithURL_created (token : ℕ) (h : s.reusable url = none) :
    s.downloadImageWithURL url token = requested token s.downloads.length { s with
      URLOperations := Function.update s.URLOperations url (some s.downloads.length)
      downloads := s.downloads ++ [{ url := url, callbackTokens := [token] }] } := by
  rw [downloadImageWithURL, h]

end Downloader

/-! ### The manager -/

variable [DecidableEq View]

/-- The view's part of a completion: without an image, nothing. -/
def completed (view : View) (image : Option Image) (s : SDWebImage URL Image Data View) :
    SDWebImage URL Image Data View :=
  match image with
  | none => s
  | some image =>
    { s with views := Function.update s.views view { s.views view with image := .image image } }

/-- The load in the view's table, if it is still there, is cancelled and taken out. -/
def sd_cancelImageLoadOperation (view : View) (s : SDWebImage URL Image Data View) :
    SDWebImage URL Image Data View :=
  match (s.views view).operation with
  | none => s
  | some n =>
    if (s.operation? n).isSome then
      let s := s.cancel n
      { s with views := Function.update s.views view { s.views view with operation := none } }
    else s

/-- The view forgets its load, and nothing else but the load and its download changes. -/
theorem sd_cancelImageLoadOperation_cases (hrunning : s.RunningUncancelled) (view : View) :
    ∃ operations downloads views, Cancelled s view operations downloads ∧
      (∀ other, other ≠ view → views other = s.views other) ∧
      s.sd_cancelImageLoadOperation view = { s with
        operations := operations
        downloads := downloads
        views := views } := by
  rw [sd_cancelImageLoadOperation]
  cases hoperation : (s.views view).operation with
  | none =>
    refine ⟨_, _, s.views, .nothing fun n operation hview => ?_, fun _ _ => rfl, rfl⟩
    exact absurd (hoperation.symm.trans hview) (by simp)
  | some n =>
    dsimp only
    cases hrun : s.operation? n with
    | none =>
      refine ⟨_, _, s.views, .nothing fun m operation hview => ?_, fun _ _ => rfl, rfl⟩
      obtain rfl : n = m := Option.some.inj (hoperation.symm.trans hview)
      exact operation?_eq_none_iff.mp hrun operation
    | some operation =>
      have hn := operation?_eq_some_iff.mp hrun
      rw [Option.isSome_some, if_pos rfl, cancel_eq hn (hrunning n operation hn).1]
      cases hloader : operation.loaderOperation with
      | none =>
        exact ⟨_, _, _, .load n operation hoperation hn hloader, fun other hne =>
          Function.update_of_ne hne _ _, rfl⟩
      | some d =>
        exact ⟨_, _, _, .request n d operation hoperation hn hloader, fun other hne =>
          Function.update_of_ne hne _ _, rfl⟩

variable [DecidableEq URL]

/-- The image a load has found goes to the view; without one, the downloader is asked. -/
def callDownloadProcess (n : ℕ) (view : View) (url : URL) (image : Option Image)
    (s : SDWebImage URL Image Data View) : SDWebImage URL Image Data View :=
  let s := s.modifyOperation n fun operation => { operation with cacheOperation := false }
  match image with
  | some image => (s.completed view (some image)).safelyRemoveOperationFromRunning n
  | none => s.downloadImageWithURL url n

/-- A new operation; the answer of the memory cache comes at once. -/
def loadImageWithURL (C : ImageCoders URL Image Data) (view : View) (url : URL)
    (s : SDWebImage URL Image Data View) : SDWebImage URL Image Data View :=
  let n := s.operations.length
  let operation : SDWebImageCombinedOperation URL View := { url := url, view := view }
  -- A failed URL is not even looked up in the cache.
  if C.absoluteString url = "" ∨ url ∈ s.failedURLs then
    { s with operations := s.operations ++ [operation] }
  else
    let s := { s with operations := s.operations ++ [{ operation with running := true }] }
    match s.memoryCache (C.absoluteString url) with
    | some image => s.callDownloadProcess n view url (some image)
    | none =>
      (s.dispatchIOQueue [.query n (C.absoluteString url)]).modifyOperation n fun operation =>
        { operation with cacheOperation := true }

/-- `sd_setImage(with:placeholderImage:)`. -/
def sd_internalSetImageWithURL (C : ImageCoders URL Image Data) (view : View) (url : URL)
    (s : SDWebImage URL Image Data View) : SDWebImage URL Image Data View :=
  let s := s.sd_cancelImageLoadOperation view
  let s := { s with
    views := Function.update s.views view { s.views view with image := .placeholder } }
  let n := s.operations.length
  let s := s.loadImageWithURL C view url
  { s with views := Function.update s.views view { s.views view with operation := some n } }

/-- The cache query of the load `n` is answered, on the main queue. -/
def queryDone (n : ℕ) (image : Option Image) (s : SDWebImage URL Image Data View) :
    SDWebImage URL Image Data View :=
  match s.operations[n]? with
  | none => s
  | some token =>
    if token.queryCancelled then s
    else
      match s.operation? n with
      | none => s
      | some operation =>
        if operation.cancelled then s.safelyRemoveOperationFromRunning n
        else s.callDownloadProcess n operation.view operation.url image

/-- A callback of the downloader to the load `n`, on the main queue. -/
def loaderCompleted (C : ImageCoders URL Image Data) (n : ℕ)
    (result : Except LoadError (Image × Data)) (s : SDWebImage URL Image Data View) :
    SDWebImage URL Image Data View :=
  match s.operation? n with
  | none => s
  | some operation =>
    if operation.cancelled then s.safelyRemoveOperationFromRunning n
    else
      match result with
      | .error error =>
        let s :=
          if error ≠ .sdWebImage .cancelled ∧ error.shouldBlockFailedURL then
            { s with failedURLs := s.failedURLs.insert operation.url }
          else s
        s.safelyRemoveOperationFromRunning n
      | .ok (image, data) =>
        let key := C.absoluteString operation.url
        -- The data is stored as the original, and once more with the image.
        let s := s.dispatchIOQueue [.store data key]
        let s := { s with memoryCache := Function.update s.memoryCache key (some image) }
        let s := s.dispatchIOQueue [.store data key]
        (s.completed operation.view (some image)).safelyRemoveOperationFromRunning n

def runMain (C : ImageCoders URL Image Data) (s : SDWebImage URL Image Data View) :
    SDWebImage URL Image Data View :=
  match s.mainQueue with
  | [] => s
  | .queryDone n image :: blocks => queryDone n image { s with mainQueue := blocks }
  | .loaderCompleted n result :: blocks => loaderCompleted C n result { s with mainQueue := blocks }

/-! ### The queue of the cache -/

/-- A cancelled query is dropped; another one looks for the data on the disk, and for the
image in memory once more before it decodes. -/
def runIOQueue (C : ImageCoders URL Image Data) (s : SDWebImage URL Image Data View) :
    SDWebImage URL Image Data View :=
  match s.ioQueue with
  | [] => s
  | .store data key :: blocks =>
    { s with ioQueue := blocks, diskCache := Function.update s.diskCache key (some data) }
  | .query n key :: blocks =>
    let s := { s with ioQueue := blocks }
    match s.operations[n]? with
    | none => s
    | some token =>
      if token.queryCancelled then s
      else
        match s.diskCache key with
        | none => s.dispatchMain [.queryDone n none]
        | some data =>
          match s.memoryCache key with
          | some image => s.dispatchMain [.queryDone n (some image)]
          | none =>
            match C.decodeCached key data with
            | none => s.dispatchMain [.queryDone n none]
            | some image =>
              let s := { s with memoryCache := Function.update s.memoryCache key (some image) }
              s.dispatchMain [.queryDone n (some image)]

/-! ### The queues of a download -/

/-- The callbacks of the tokens, all with the same error. -/
def callCompletionBlocksWithError (tokens : List ℕ) (error : LoadError) :
    List (MainBlock Image Data) :=
  tokens.map fun token => .loaderCompleted token (.error error)

/-- The image that the data of a download decodes to. -/
def decode (C : ImageCoders URL Image Data) (url : URL) (imageData : Data) :
    Except LoadError (Image × Data) :=
  match C.decodeLoaded url imageData with
  | none => .error (.sdWebImage .badImageData)
  | some image =>
    if C.hasPixels image then .ok (image, imageData) else .error (.sdWebImage .badImageData)

/-- `start`, and the callbacks it calls. -/
def startDownload (operation : SDWebImageDownloaderOperation URL Data) :
    SDWebImageDownloaderOperation URL Data × List (MainBlock Image Data) :=
  let operation := { operation with started := true }
  if operation.isCancelled then
    (reset { operation with isFinished := true },
      callCompletionBlocksWithError operation.callbackTokens (.sdWebImage .cancelled))
  else ({ operation with dataTask := true, isExecuting := true }, [])

/-- `URLSession:task:didCompleteWithError:`, up to the copy of the tokens. -/
def didCompleteWithError (error responseError : Option LoadError) (imageData : Option Data)
    (operation : SDWebImageDownloaderOperation URL Data) :
    SDWebImageDownloaderOperation URL Data :=
  if operation.isFinished then operation
  else { operation with
    dataTask := false
    work := .completed (error.map responseError.getD) imageData operation.callbackTokens }

def done (operation : SDWebImageDownloaderOperation URL Data) :
    SDWebImageDownloaderOperation URL Data :=
  reset { operation with isFinished := true, isExecuting := false, work := .none }

/-- The next block of the download's queues, and the callbacks it calls. -/
def work (C : ImageCoders URL Image Data) (operation : SDWebImageDownloaderOperation URL Data) :
    SDWebImageDownloaderOperation URL Data × List (MainBlock Image Data) :=
  match operation.work with
  | .none => (operation, [])
  | .completed (some error) _ _ =>
    ({ operation with work := .finishing },
      callCompletionBlocksWithError operation.callbackTokens error)
  | .completed none imageData tokens =>
    if tokens = [] then ({ operation with work := .finishing }, [])
    else
      match imageData with
      | none =>
        ({ operation with work := .finishing },
          callCompletionBlocksWithError operation.callbackTokens (.sdWebImage .badImageData))
      | some imageData => ({ operation with work := .decoding imageData tokens [] }, [])
  | .decoding imageData (token :: pendingTokens) finishedTokens =>
    ({ operation with work := .decoding imageData pendingTokens (finishedTokens ++ [token]) },
      [.loaderCompleted token (decode C operation.url imageData)])
  | .decoding imageData [] finishedTokens =>
    -- `checkDoneWithImageData`: tokens may have been added since.
    let tokens := operation.callbackTokens.filter (· ∉ finishedTokens)
    if tokens = [] then (done operation, [])
    else ({ operation with work := .decoding imageData tokens finishedTokens }, [])
  | .finishing => (done operation, [])

/-- A download moves, and its callbacks are dispatched to the main queue. -/
def runDownload (d : ℕ)
    (f : SDWebImageDownloaderOperation URL Data →
      SDWebImageDownloaderOperation URL Data × List (MainBlock Image Data))
    (s : SDWebImage URL Image Data View) : SDWebImage URL Image Data View :=
  match s.downloads[d]? with
  | none => s
  | some operation =>
    (s.modifyDownload d fun _ => (f operation).1).dispatchMain (f operation).2

/-- The completion block takes out what is down for the URL, its own download or not. -/
def completionBlock (d : ℕ) (s : SDWebImage URL Image Data View) :
    SDWebImage URL Image Data View :=
  match s.downloads[d]? with
  | none => s
  | some operation =>
    let s := { s with URLOperations := Function.update s.URLOperations operation.url none }
    s.modifyDownload d fun operation => { operation with completionBlock := false }

/-! ### The loader, driven by its queues -/

/-- What may happen next. -/
inductive Event (URL Data View : Type) where
  | setImage (view : View) (url : URL)
  | main
  | join
  | io
  | start (d : ℕ)
  | didComplete (d : ℕ) (error responseError : Option LoadError) (imageData : Option Data)
  | work (d : ℕ)
  | completionBlock (d : ℕ)
  | evictMemory (key : String)
  | evictDisk (key : String)

/-- The download `d` is there, and meets the condition. -/
def Download (s : SDWebImage URL Image Data View) (d : ℕ)
    (P : SDWebImageDownloaderOperation URL Data → Prop) : Prop :=
  ∃ operation, s.downloads[d]? = some operation ∧ P operation

def enabled (s : SDWebImage URL Image Data View) : Event URL Data View → Prop
  | .setImage _ _ => s.joining = none
  | .main => s.mainQueue ≠ [] ∧ s.joining = none
  | .join => s.joining ≠ none
  | .io => s.ioQueue ≠ []
  | .start d => s.Download d fun operation => operation.started = false
  | .didComplete d _ _ _ => s.Download d fun operation => operation.dataTask = true
  | .work d => s.Download d fun operation => operation.work ≠ .none
  -- The lock of the downloader is held until the handler is added.
  | .completionBlock d => s.joining = none ∧ s.Download d fun operation =>
    operation.isFinished = true ∧ operation.completionBlock = true
  | .evictMemory _ => True
  | .evictDisk _ => True

def next (C : ImageCoders URL Image Data) (s : SDWebImage URL Image Data View) :
    Event URL Data View → SDWebImage URL Image Data View
  | .setImage view url => s.sd_internalSetImageWithURL C view url
  | .main => s.runMain C
  | .join => s.join
  | .io => s.runIOQueue C
  | .start d => s.runDownload d startDownload
  | .didComplete d error responseError imageData =>
    s.modifyDownload d (didCompleteWithError error responseError imageData)
  | .work d => s.runDownload d (work C)
  | .completionBlock d => s.completionBlock d
  | .evictMemory key => { s with memoryCache := Function.update s.memoryCache key none }
  | .evictDisk key => { s with diskCache := Function.update s.diskCache key none }

def system (View : Type) [DecidableEq View] (C : ImageCoders URL Image Data) :
    EventSystem (SDWebImage URL Image Data View) (Event URL Data View) where
  enabled := enabled
  next s event := some (s.next C event)

/-- The loader when the app is launched. -/
def launched (diskCache : String → Option Data) : SDWebImage URL Image Data View :=
  { diskCache := diskCache }

/-! ### What the blocks of the main queue do -/

variable {C : ImageCoders URL Image Data}

/-- What a view becomes that is set to a URL: refused, found in memory, or asked for. -/
inductive SetImage (C : ImageCoders URL Image Data) (s : SDWebImage URL Image Data View)
    (view : View) (url : URL) (operations : List (SDWebImageCombinedOperation URL View))
    (downloads : List (SDWebImageDownloaderOperation URL Data)) :
    SDWebImage URL Image Data View → Prop
  | refused (hrefused : C.absoluteString url = "" ∨ url ∈ s.failedURLs) :
      SetImage C s view url operations downloads { s with
        views := Function.update s.views view ⟨.placeholder, some s.operations.length⟩
        operations := operations ++ [{ url := url, view := view }]
        downloads := downloads }
  | found (image : Image) (hmemory : s.memoryCache (C.absoluteString url) = some image)
      (haccepted : ¬ (C.absoluteString url = "" ∨ url ∈ s.failedURLs)) :
      SetImage C s view url operations downloads { s with
        views := Function.update s.views view ⟨.image image, some s.operations.length⟩
        operations := operations ++ [{ url := url, view := view }]
        downloads := downloads }
  | asked (hmemory : s.memoryCache (C.absoluteString url) = none)
      (haccepted : ¬ (C.absoluteString url = "" ∨ url ∈ s.failedURLs)) :
      SetImage C s view url operations downloads { s with
        views := Function.update s.views view ⟨.placeholder, some s.operations.length⟩
        operations := operations ++
          [{ url := url, view := view, running := true, cacheOperation := true }]
        downloads := downloads
        ioQueue := s.ioQueue ++ [.query s.operations.length (C.absoluteString url)] }

theorem setImage_cases (hrunning : s.RunningUncancelled) (view : View) (url : URL) :
    ∃ operations downloads, Cancelled s view operations downloads ∧
      SetImage C s view url operations downloads (s.sd_internalSetImageWithURL C view url) := by
  obtain ⟨operations, downloads, views, hcancelled, hviews, heq⟩ :=
    sd_cancelImageLoadOperation_cases hrunning view
  refine ⟨operations, downloads, hcancelled, ?_⟩
  have hlength := hcancelled.length_eq
  have hupdate : ∀ entry : WebImageView Image,
      Function.update views view entry = Function.update s.views view entry := by
    intro entry
    funext other
    by_cases hother : other = view
    · rw [hother, Function.update_self, Function.update_self]
    · rw [Function.update_of_ne hother, Function.update_of_ne hother, hviews other hother]
  rw [sd_internalSetImageWithURL, heq]
  dsimp only
  rw [loadImageWithURL]
  dsimp only
  by_cases hrefused : C.absoluteString url = "" ∨ url ∈ s.failedURLs
  · rw [if_pos hrefused]
    simp only [Function.update_self, Function.update_idem, hupdate, hlength]
    exact .refused hrefused
  · rw [if_neg hrefused]
    cases hmemory : s.memoryCache (C.absoluteString url) with
    | some image =>
      simp only [callDownloadProcess, completed, safelyRemoveOperationFromRunning,
        modifyOperation, modify_concat _ _ hlength, Function.update_self, Function.update_idem,
        hupdate, hlength]
      exact .found image hmemory hrefused
    | none =>
      simp only [dispatchIOQueue, modifyOperation, modify_concat _ _ hlength, Function.update_self,
        Function.update_idem, hupdate, hlength]
      exact .asked hmemory hrefused

theorem callDownloadProcess_joined {d : ℕ} (n : ℕ) (view : View) (h : s.reusable url = some d) :
    s.callDownloadProcess n view url none = { s with
      operations := s.operations.modify n fun operation =>
        { operation with cacheOperation := false }
      joining := some (n, d) } := by
  have hmodified : (s.modifyOperation n fun operation =>
      { operation with cacheOperation := false }).reusable url = some d := h
  simp only [callDownloadProcess, downloadImageWithURL_joined n hmodified]
  rfl

theorem callDownloadProcess_created (n : ℕ) (view : View) (h : s.reusable url = none) :
    s.callDownloadProcess n view url none = { s with
      operations := s.operations.modify n fun operation =>
        { operation with cacheOperation := false, loaderOperation := some s.downloads.length }
      URLOperations := Function.update s.URLOperations url (some s.downloads.length)
      downloads := s.downloads ++ [{ url := url, callbackTokens := [n] }] } := by
  have hmodified : (s.modifyOperation n fun operation =>
      { operation with cacheOperation := false }).reusable url = none := h
  simp only [callDownloadProcess, downloadImageWithURL_created n hmodified]
  simp only [requested, modifyOperation, List.modify_modify_eq]
  rfl

/-- What a block of the main queue does for the running load it is for. -/
inductive LoadMove (C : ImageCoders URL Image Data) (s : SDWebImage URL Image Data View) (n : ℕ)
    (operation : SDWebImageCombinedOperation URL View) :
    MainBlock Image Data → SDWebImage URL Image Data View → Prop
  | found (image : Image) :
      LoadMove C s n operation (.queryDone n (some image)) { s with
        views := Function.update s.views operation.view
          { s.views operation.view with image := .image image }
        operations := s.operations.modify n fun operation =>
          { operation with cacheOperation := false, running := false } }
  | joined (d : ℕ) (hreusable : s.reusable operation.url = some d) :
      LoadMove C s n operation (.queryDone n none) { s with
        operations := s.operations.modify n fun operation =>
          { operation with cacheOperation := false }
        joining := some (n, d) }
  | created (hreusable : s.reusable operation.url = none) :
      LoadMove C s n operation (.queryDone n none) { s with
        operations := s.operations.modify n fun operation =>
          { operation with cacheOperation := false, loaderOperation := some s.downloads.length }
        URLOperations := Function.update s.URLOperations operation.url (some s.downloads.length)
        downloads := s.downloads ++ [{ url := operation.url, callbackTokens := [n] }] }
  | failed (error : LoadError) (failedURLs : List URL)
      (hfailedURLs : ∀ url ∈ s.failedURLs, url ∈ failedURLs) :
      LoadMove C s n operation (.loaderCompleted n (.error error)) { s with
        failedURLs := failedURLs
        operations := s.operations.modify n fun operation => { operation with running := false } }
  | loaded (image : Image) (data : Data) :
      LoadMove C s n operation (.loaderCompleted n (.ok (image, data))) { s with
        ioQueue := s.ioQueue ++ [.store data (C.absoluteString operation.url),
          .store data (C.absoluteString operation.url)]
        memoryCache := Function.update s.memoryCache (C.absoluteString operation.url) (some image)
        views := Function.update s.views operation.view
          { s.views operation.view with image := .image image }
        operations := s.operations.modify n fun operation => { operation with running := false } }

/-- A block for a load that is gone is dropped; another one moves its load. -/
theorem runMain_cases (hrunning : s.RunningUncancelled) {block : MainBlock Image Data}
    {blocks : List (MainBlock Image Data)} (hqueue : s.mainQueue = block :: blocks) :
    ((∀ operation, ¬ s.Running block.token operation) ∧
        s.runMain C = { s with mainQueue := blocks }) ∨
      ∃ operation, s.Running block.token operation ∧
        LoadMove C { s with mainQueue := blocks } block.token operation block (s.runMain C) := by
  cases hoperation : s.operation? block.token with
  | none =>
    -- The load was cancelled or is over: its block is dropped.
    refine .inl ⟨operation?_eq_none_iff.mp hoperation, ?_⟩
    have hnone : operation? { s with mainQueue := blocks } block.token = none := hoperation
    cases block with
    | queryDone n image =>
      simp only [runMain, hqueue, queryDone]
      rw [show operation? { s with mainQueue := blocks } n = none from hnone]
      cases s.operations[n]? with
      | none => rfl
      | some token =>
        dsimp only
        rw [ite_self]
    | loaderCompleted n result =>
      simp only [runMain, hqueue, loaderCompleted]
      rw [show operation? { s with mainQueue := blocks } n = none from hnone]
  | some operation =>
    have hn := operation?_eq_some_iff.mp hoperation
    -- It is under way, and none of the checks for a cancellation stops it.
    obtain ⟨hcancelled, hquery⟩ := hrunning _ operation hn
    refine .inr ⟨operation, hn, ?_⟩
    have hsome : operation? { s with mainQueue := blocks } block.token = some operation :=
      hoperation
    cases block with
    | queryDone n image =>
      simp only [runMain, hqueue, queryDone]
      rw [show operation? { s with mainQueue := blocks } n = some operation from hsome,
        show s.operations[n]? = some operation from hn.1]
      simp only [hcancelled, hquery, Bool.false_eq_true, if_false]
      cases image with
      | some image =>
        simp only [callDownloadProcess, completed, safelyRemoveOperationFromRunning,
          modifyOperation, List.modify_modify_eq]
        exact .found image
      | none =>
        -- Not in the cache: an operation for the URL is joined if there is one, or created.
        cases hreusable : s.reusable operation.url with
        | some d =>
          rw [callDownloadProcess_joined n operation.view (s := { s with mainQueue := blocks })
            hreusable]
          exact .joined d hreusable
        | none =>
          rw [callDownloadProcess_created n operation.view (s := { s with mainQueue := blocks })
            hreusable]
          exact .created hreusable
    | loaderCompleted n result =>
      simp only [runMain, hqueue, loaderCompleted]
      rw [show operation? { s with mainQueue := blocks } n = some operation from hsome]
      simp only [hcancelled, Bool.false_eq_true, if_false]
      cases result with
      | error error =>
        by_cases hblock : error ≠ .sdWebImage .cancelled ∧ error.shouldBlockFailedURL = true
        · simp only [if_pos hblock]
          exact .failed error _ fun url hurl => List.mem_insert_of_mem hurl
        · simp only [if_neg hblock]
          exact .failed error _ fun url hurl => hurl
      | ok found =>
        simp only [dispatchIOQueue, completed, safelyRemoveOperationFromRunning, modifyOperation,
          List.append_assoc, List.cons_append, List.nil_append]
        exact .loaded found.1 found.2

omit [DecidableEq View] [DecidableEq URL] in
/-- The handler is added, and the load knows its download. -/
theorem join_eq {n d : ℕ} (h : s.joining = some (n, d)) :
    s.join = { s with
      operations := s.operations.modify n fun operation =>
        { operation with loaderOperation := some d }
      downloads := s.downloads.modify d (addHandlers n)
      joining := none } := by
  rw [join, h]
  rfl

omit [DecidableEq View] [DecidableEq URL] in
/-- A download moves, and its callbacks go to the main queue. -/
theorem runDownload_eq {d : ℕ} {operation : SDWebImageDownloaderOperation URL Data}
    (hd : s.downloads[d]? = some operation)
    (f : SDWebImageDownloaderOperation URL Data →
      SDWebImageDownloaderOperation URL Data × List (MainBlock Image Data)) :
    s.runDownload d f = { s with
      downloads := s.downloads.modify d fun _ => (f operation).1
      mainQueue := s.mainQueue ++ (f operation).2 } := by
  rw [runDownload, hd]
  rfl

/-- What the queue of the cache does with a block: it stores data, drops a cancelled query,
or answers one with what it leaves in memory. -/
inductive IOMove (C : ImageCoders URL Image Data) (s : SDWebImage URL Image Data View) :
    IOBlock Data → SDWebImage URL Image Data View → Prop
  | stored (data : Data) (key : String) :
      IOMove C s (.store data key) { s with
        diskCache := Function.update s.diskCache key (some data) }
  | dropped (n : ℕ) (key : String)
      (hgone : ∀ operation, s.operations[n]? = some operation → operation.queryCancelled = true) :
      IOMove C s (.query n key) s
  | answered (n : ℕ) (key : String) (image : Option Image) (memoryCache : String → Option Image)
      (hmemory : memoryCache = s.memoryCache ∨ ∃ data image, s.diskCache key = some data ∧
        C.decodeCached key data = some image ∧
          memoryCache = Function.update s.memoryCache key (some image))
      (himage : image = none ∨ image = memoryCache key) :
      IOMove C s (.query n key) { s with
        memoryCache := memoryCache
        mainQueue := s.mainQueue ++ [.queryDone n image] }

omit [DecidableEq View] [DecidableEq URL] in
theorem runIOQueue_cases {block : IOBlock Data} {blocks : List (IOBlock Data)}
    (hqueue : s.ioQueue = block :: blocks) :
    IOMove C { s with ioQueue := blocks } block (s.runIOQueue C) := by
  cases block with
  | store data key =>
    rw [runIOQueue, hqueue]
    exact .stored data key
  | query n key =>
    rw [runIOQueue, hqueue]
    dsimp only
    cases hoperation : s.operations[n]? with
    | none =>
      refine .dropped n key fun operation h => ?_
      exact absurd (hoperation.symm.trans h) (by simp)
    | some token =>
      dsimp only
      by_cases hcancelled : token.queryCancelled = true
      · rw [if_pos hcancelled]
        refine .dropped n key fun operation h => ?_
        rw [← Option.some.inj (hoperation.symm.trans h)]
        exact hcancelled
      · rw [if_neg hcancelled]
        -- The query goes to the disk, and its image back to the memory cache unless one is there.
        cases hdisk : s.diskCache key with
        | none => exact .answered n key none s.memoryCache (.inl rfl) (.inl rfl)
        | some data =>
          dsimp only
          cases hmemory : s.memoryCache key with
          | some image =>
            exact .answered n key (some image) s.memoryCache (.inl rfl) (.inr hmemory.symm)
          | none =>
            dsimp only
            cases hdecode : C.decodeCached key data with
            | none => exact .answered n key none s.memoryCache (.inl rfl) (.inl rfl)
            | some image =>
              exact .answered n key (some image) _ (.inr ⟨data, image, hdisk, hdecode, rfl⟩)
                (.inr (Function.update_self key (some image) s.memoryCache).symm)

end SDWebImage

end HolyWater
