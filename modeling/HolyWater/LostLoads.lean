/-
Loads that end, and loads that are lost.

A load that runs is on its way: to the cache, to a download, or back.  It stays so as long
as no handler is added to a download that has already looked at its tokens for the last
time, which happens without a lock in common with the check before it.

* `Tokens` — a load asks once, and has no token anywhere before it has been answered;
* `Awaited` — where a running load is;
* `loads_finish` — with handlers added in time, the blocks that run are bounded by the
  URLs that are set, and when none is left every load has ended;
* `lost_load` — a handler added too late is never called, and its view keeps the
  placeholder until it is set again.
-/
import HolyWater.ImageLoads
import HolyWater.ImageSources

namespace HolyWater

namespace SDWebImage

variable {URL Image Data View : Type}

/-! ### Where a load has asked -/

def asksCache (n : ℕ) : IOBlock Data → Bool
  | .query m _ => m = n
  | .store _ _ => false

def asksMain (n : ℕ) : MainBlock Image Data → Bool
  | .queryDone m _ => m = n
  | .loaderCompleted _ _ => false

/-- How often the load `n` waits for the cache, or stands before a download. -/
def asks (s : SDWebImage URL Image Data View) (n : ℕ) : ℕ :=
  s.ioQueue.countP (asksCache n) + s.mainQueue.countP (asksMain n) +
    s.joining.toList.countP fun request => request.1 = n

/-- A load asks once, and until then no download and no callback has its token; one that
is about to be joined to a download runs, and the download is not cancelled. -/
structure Tokens (s : SDWebImage URL Image Data View) : Prop where
  once : ∀ n, s.asks n ≤ 1
  known : ∀ n, 0 < s.asks n → n < s.operations.length
  held : ∀ (d : ℕ) operation, s.downloads[d]? = some operation →
    ∀ n ∈ everyToken operation, n < s.operations.length ∧ s.asks n = 0
  called : ∀ n result, .loaderCompleted n result ∈ s.mainQueue →
    n < s.operations.length ∧ s.asks n = 0
  joining : ∀ n d, s.joining = some (n, d) → (∃ operation, s.Running n operation) ∧
    ∃ operation, s.downloads[d]? = some operation ∧ operation.isCancelled = false

section Tokens

variable {s s' : SDWebImage URL Image Data View} {view : View} {n : ℕ}
  {operations : List (SDWebImageCombinedOperation URL View)}
  {downloads : List (SDWebImageDownloaderOperation URL Data)}

theorem tokens_launched (diskCache : String → Option Data) :
    (launched diskCache : SDWebImage URL Image Data View).Tokens where
  once _ := by simp [asks, launched]
  known _ h := absurd h (by simp [asks, launched])
  held _ _ h := absurd h (by simp [launched])
  called _ _ h := absurd h (by simp [launched])
  joining _ _ h := absurd h (by simp [launched])

theorem countP_callbacks {blocks : List (MainBlock Image Data)} {tokens : List ℕ}
    (h : ∀ block ∈ blocks, ∃ n ∈ tokens, ∃ result, block = .loaderCompleted n result) (n : ℕ) :
    blocks.countP (asksMain n) = 0 := by
  refine List.countP_eq_zero.mpr fun block hblock => ?_
  obtain ⟨m, -, result, rfl⟩ := h block hblock
  simp [asksMain]

/-- Nothing asks that did not ask before. -/
theorem Tokens.of_le (h : s.Tokens) (hasks : ∀ n, s'.asks n ≤ s.asks n)
    (hlength : s.operations.length ≤ s'.operations.length)
    (hheld : ∀ (d : ℕ) operation, s'.downloads[d]? = some operation →
      ∀ n ∈ everyToken operation, n < s.operations.length ∧ s'.asks n = 0)
    (hcalled : ∀ n result, .loaderCompleted n result ∈ s'.mainQueue →
      n < s.operations.length ∧ s'.asks n = 0)
    (hjoining : ∀ n d, s'.joining = some (n, d) → (∃ operation, s'.Running n operation) ∧
      ∃ operation, s'.downloads[d]? = some operation ∧ operation.isCancelled = false) :
    s'.Tokens := by
  refine ⟨fun n => (hasks n).trans (h.once n), fun n hn => ?_, fun d operation hd n hn => ?_,
    fun n result hn => ?_, hjoining⟩
  · have hbefore := h.known n (lt_of_lt_of_le hn (hasks n))
    omega
  · obtain ⟨hlt, hzero⟩ := hheld d operation hd n hn
    exact ⟨by omega, hzero⟩
  · obtain ⟨hlt, hzero⟩ := hcalled n result hn
    exact ⟨by omega, hzero⟩

/-- What a download holds, it held before. -/
theorem Tokens.held_of_le (h : s.Tokens) (hasks : ∀ n, s'.asks n ≤ s.asks n) (d : ℕ)
    (operation : SDWebImageDownloaderOperation URL Data) (hd : s.downloads[d]? = some operation)
    (n : ℕ) (hn : n ∈ everyToken operation) : n < s.operations.length ∧ s'.asks n = 0 := by
  obtain ⟨hlt, hzero⟩ := h.held d operation hd n hn
  have hle := hasks n
  exact ⟨hlt, by omega⟩

theorem Tokens.called_of_le (h : s.Tokens) (hasks : ∀ n, s'.asks n ≤ s.asks n) (n : ℕ)
    (result : Except LoadError (Image × Data)) (hn : .loaderCompleted n result ∈ s.mainQueue) :
    n < s.operations.length ∧ s'.asks n = 0 := by
  obtain ⟨hlt, hzero⟩ := h.called n result hn
  have hle := hasks n
  exact ⟨hlt, by omega⟩

theorem Cancelled.held (C : ImageCoders URL Image Data) {P : ℕ → Prop}
    (hcancelled : Cancelled s view operations downloads)
    (h : ∀ (d : ℕ) operation, s.downloads[d]? = some operation → ∀ n ∈ everyToken operation, P n)
    (d : ℕ) (operation : SDWebImageDownloaderOperation URL Data)
    (hd : downloads[d]? = some operation) : ∀ n ∈ everyToken operation, P n := by
  cases hcancelled with
  | nothing _ => exact h d operation hd
  | load _ _ _ _ _ => exact h d operation hd
  | request m e _ _ _ _ =>
    refine forall_modify (P := fun operation => ∀ n ∈ everyToken operation, P n) h
      (fun x hx n hn => h e x hx n ?_) d operation hd
    exact (moves_cancelToken C m x).tokens n hn

theorem isCancelled_work (C : ImageCoders URL Image Data)
    (operation : SDWebImageDownloaderOperation URL Data) :
    (work C operation).1.isCancelled = operation.isCancelled := by
  rw [work]
  split
  · rfl
  · rfl
  · split
    · rfl
    · split <;> rfl
  · rfl
  · dsimp only
    split <;> rfl
  · rfl

/-- A download moves with the tokens it has, and calls back to some of them. -/
theorem Tokens.moved (h : s.Tokens) {d : ℕ}
    {operation operation' : SDWebImageDownloaderOperation URL Data}
    (hd : s.downloads[d]? = some operation)
    (htokens : ∀ n ∈ everyToken operation', n ∈ everyToken operation)
    (hcancelled : operation'.isCancelled = operation.isCancelled)
    {blocks : List (MainBlock Image Data)}
    (hblocks : ∀ block ∈ blocks, ∃ n ∈ everyToken operation, ∃ result,
      block = .loaderCompleted n result)
    (hio : s'.ioQueue = s.ioQueue) (hmain : s'.mainQueue = s.mainQueue ++ blocks)
    (hjoining : s'.joining = s.joining) (hoperations : s'.operations = s.operations)
    (hdownloads : s'.downloads = s.downloads.modify d fun _ => operation') : s'.Tokens := by
  -- Callbacks ask for nothing, so nobody asks for more.
  have hasks : ∀ n, s'.asks n = s.asks n := by
    intro n
    rw [asks, asks, hio, hmain, hjoining, List.countP_append, countP_callbacks hblocks]
    omega
  have hle : ∀ n, s'.asks n ≤ s.asks n := fun n => (hasks n).le
  refine h.of_le hle (by rw [hoperations]) (fun e x he n hn => ?_) (fun n result hn => ?_)
    fun n e hn => ?_
  · rw [hdownloads] at he
    refine forall_modify (P := fun x => ∀ n ∈ everyToken x, n < s.operations.length ∧
      s'.asks n = 0) (h.held_of_le hle) (fun x _ n hn => ?_) e x he n hn
    exact h.held_of_le hle d operation hd n (htokens n hn)
  · rw [hmain] at hn
    rcases List.mem_append.mp hn with hn | hn
    · exact h.called_of_le hle n result hn
    · obtain ⟨m, hm, result', heq⟩ := hblocks _ hn
      obtain ⟨rfl, -⟩ := MainBlock.loaderCompleted.inj heq
      exact h.held_of_le hle d operation hd n hm
  · rw [hjoining] at hn
    obtain ⟨⟨load, hload⟩, x, hx, hxcancelled⟩ := h.joining n e hn
    refine ⟨⟨load, by rw [Running, hoperations]; exact hload⟩, ?_⟩
    rw [hdownloads]
    by_cases hde : d = e
    · subst hde
      refine ⟨operation', by rw [List.getElem?_modify_eq, hx]; rfl, ?_⟩
      rw [hcancelled, Option.some.inj (hd.symm.trans hx)]
      exact hxcancelled
    · exact ⟨x, by rw [List.getElem?_modify_ne _ _ hde, hx], hxcancelled⟩

/-! ### Asking once -/

variable [DecidableEq View] [DecidableEq URL] {C : ImageCoders URL Image Data}
  {event : Event URL Data View}

omit [DecidableEq URL] in
/-- A view is set to a URL: at most its new load asks. -/
theorem SetImage.tokens {url : URL} (hset : SetImage C s view url operations downloads s')
    (hcancelled : Cancelled s view operations downloads) (hjoining : s.joining = none)
    (h : s.Tokens) : s'.Tokens := by
  have hlength := hcancelled.length_eq
  have hnone : ∀ {P : Prop} n d, s.joining = some (n, d) → P := fun n d hno =>
    absurd (hjoining.symm.trans hno) (by simp)
  cases hset with
  | refused _ =>
    refine h.of_le (fun _ => le_rfl) (by simp [hlength]) ?_ h.called fun n d hno => hnone n d hno
    exact hcancelled.held C h.held
  | found image _ _ =>
    refine h.of_le (fun _ => le_rfl) (by simp [hlength]) ?_ h.called fun n d hno => hnone n d hno
    exact hcancelled.held C h.held
  | asked _ _ =>
    -- Only the new load asks once more.
    have hasks : ∀ n, asks { s with
        views := Function.update s.views view ⟨.placeholder, some s.operations.length⟩
        operations := operations ++
          [{ url := url, view := view, running := true, cacheOperation := true }]
        downloads := downloads
        ioQueue := s.ioQueue ++ [.query s.operations.length (C.absoluteString url)] } n =
          s.asks n + if s.operations.length = n then 1 else 0 := by
      intro n
      simp only [asks, List.countP_append, List.countP_singleton, asksCache, decide_eq_true_eq]
      omega
    have hold : ∀ n, n < s.operations.length ∧ s.asks n = 0 → n < operations.length + 1 ∧
        s.asks n + (if s.operations.length = n then 1 else 0) = 0 := by
      intro n hn
      rw [if_neg (by omega)]
      omega
    refine ⟨fun n => ?_, fun n hn => ?_, fun d operation hd n hn => ?_, fun n result hn => ?_,
      fun n d hno => hnone n d hno⟩
    · rw [hasks]
      have hone := h.once n
      have hknown := h.known n
      split <;> omega
    · rw [hasks] at hn
      rw [List.length_append, List.length_singleton, hlength]
      have hknown := h.known n
      split at hn <;> omega
    · rw [hasks, List.length_append, List.length_singleton]
      exact hold n (hcancelled.held C h.held d operation hd n hn)
    · rw [hasks, List.length_append, List.length_singleton]
      exact hold n (h.called n result hn)

/-- A block of the main queue moves the load that it is for. -/
theorem LoadMove.tokens {block : MainBlock Image Data}
    {operation : SDWebImageCombinedOperation URL View} (hmove : LoadMove C s n operation block s')
    (hn : s.Running n operation) (hjoining : s.joining = none) (h : s.Tokens)
    (hfree : asksMain n block = true → s.asks n = 0 ∧
      (∀ (d : ℕ) operation, s.downloads[d]? = some operation → n ∉ everyToken operation) ∧
      ∀ result, .loaderCompleted n result ∉ s.mainQueue) : s'.Tokens := by
  have hlength : ∀ f, (s.operations.modify n f).length = s.operations.length := fun _ =>
    List.length_modify _ _ _
  have hlt : n < s.operations.length := (List.getElem?_eq_some_iff.mp hn.1).1
  have hnone : ∀ {P : Prop} n d, s.joining = some (n, d) → P := fun n d hno =>
    absurd (hjoining.symm.trans hno) (by simp)
  cases hmove with
  | found image =>
    exact h.of_le (fun _ => le_rfl) (hlength _).ge h.held h.called fun n d hno => hnone n d hno
  | failed error failedURLs _ =>
    exact h.of_le (fun _ => le_rfl) (hlength _).ge h.held h.called fun n d hno => hnone n d hno
  | loaded image data =>
    -- Stores ask for nothing.
    have hasks : ∀ m, asks { s with
        ioQueue := s.ioQueue ++ [.store data (C.absoluteString operation.url),
          .store data (C.absoluteString operation.url)]
        memoryCache := Function.update s.memoryCache (C.absoluteString operation.url) (some image)
        views := Function.update s.views operation.view
          { s.views operation.view with image := .image image }
        operations := s.operations.modify n fun operation =>
          { operation with running := false } } m = s.asks m := by
      intro m
      simp only [asks, List.countP_append, List.countP_cons, List.countP_nil, asksCache]
      simp
    refine h.of_le (fun m => (hasks m).le) (hlength _).ge ?_ ?_ fun n d hno => hnone n d hno
    · exact h.held_of_le fun m => (hasks m).le
    · exact h.called_of_le fun m => (hasks m).le
  | joined d hreusable =>
    -- The load asks once more than before, and before it asked for nothing.
    obtain ⟨hzero, hheld, hcalled⟩ := hfree (by simp [asksMain])
    have hasks : ∀ m, asks { s with
        operations := s.operations.modify n fun operation =>
          { operation with cacheOperation := false }
        joining := some (n, d) } m = s.asks m + if n = m then 1 else 0 := by
      intro m
      simp only [asks, hjoining, Option.toList_some, Option.toList_none, List.countP_nil,
        List.countP_singleton, decide_eq_true_eq]
      omega
    refine ⟨fun m => ?_, fun m hm => ?_, fun e x he m hm => ?_, fun m result hm => ?_,
      fun m e hm => ?_⟩
    · rw [hasks]
      have hone := h.once m
      split
      · rename_i heq
        rw [← heq, hzero]
      · omega
    · rw [hasks] at hm
      rw [hlength]
      split at hm
      · rename_i heq
        exact heq ▸ hlt
      · exact h.known m (by omega)
    · rw [hasks, hlength, if_neg]
      · exact h.held e x he m hm
      · rintro rfl
        exact hheld e x he hm
    · rw [hasks, hlength, if_neg]
      · exact h.called m result hm
      · rintro rfl
        exact hcalled result hm
    · obtain ⟨rfl, rfl⟩ := Prod.mk.inj (Option.some.inj hm)
      obtain ⟨-, download, hdownload, -, hcancelled⟩ := reusable_eq_some hreusable
      refine ⟨⟨{ operation with cacheOperation := false }, ?_, hn.2⟩, download, hdownload,
        hcancelled⟩
      rw [List.getElem?_modify_eq, hn.1]
      rfl
  | created _ =>
    -- The new download has the only handler of the load.
    obtain ⟨hzero, -, -⟩ := hfree (by simp [asksMain])
    refine h.of_le (fun _ => le_rfl) (hlength _).ge ?_ h.called fun n d hno => hnone n d hno
    refine forall_concat (P := fun x => ∀ m ∈ everyToken x, m < s.operations.length ∧
      s.asks m = 0) h.held fun m hm => ?_
    obtain rfl : m = n := by simpa [everyToken, DownloadWork.tokens] using hm
    exact ⟨hlt, hzero⟩

theorem tokens_step (hviews : s.LoaderViews) (hstep : (system View C).Step s event s')
    (h : s.Tokens) : s'.Tokens := by
  obtain ⟨henabled, hnext⟩ := hstep
  obtain rfl := Option.some.inj hnext
  cases event with
  | setImage view url =>
    obtain ⟨operations, downloads, hcancelled, hset⟩ :=
      setImage_cases (C := C) hviews.uncancelled view url
    exact hset.tokens hcancelled henabled h
  | main =>
    obtain ⟨block, blocks, hqueue⟩ := List.exists_cons_of_ne_nil henabled.1
    have hasks : ∀ n, s.asks n = asks { s with mainQueue := blocks } n +
        if asksMain n block then 1 else 0 := by
      intro n
      simp only [asks, hqueue, List.countP_cons]
      omega
    have hle : ∀ n, asks { s with mainQueue := blocks } n ≤ s.asks n := fun n => by
      rw [hasks n]
      omega
    have hpopped : Tokens { s with mainQueue := blocks } :=
      h.of_le hle le_rfl (h.held_of_le hle)
        (fun n result hn => h.called_of_le hle n result (hqueue ▸ List.mem_cons_of_mem _ hn))
        h.joining
    show (s.runMain C).Tokens
    rcases runMain_cases (C := C) hviews.uncancelled hqueue with ⟨-, heq⟩ | ⟨operation, hn, hmove⟩
    · rw [heq]
      exact hpopped
    · refine hmove.tokens hn henabled.2 hpopped fun hasked => ?_
      -- The token has asked once, and nothing else has it.
      have hone := h.once block.token
      rw [hasks, if_pos hasked] at hone
      refine ⟨by omega, fun d x hd hmem => ?_, fun result hmem => ?_⟩
      · have hzero := (h.held d x hd _ hmem).2
        rw [hasks, if_pos hasked] at hzero
        omega
      · have hzero := (h.called _ result (hqueue ▸ List.mem_cons_of_mem _ hmem)).2
        rw [hasks, if_pos hasked] at hzero
        omega
  | join =>
    obtain ⟨⟨n, d⟩, hjoining⟩ := Option.ne_none_iff_exists'.mp henabled
    show s.join.Tokens
    have hjoin := join_eq hjoining
    have hasks : ∀ m, s.asks m = s.join.asks m + if n = m then 1 else 0 := by
      intro m
      simp only [hjoin, asks, hjoining, Option.toList_some, Option.toList_none, List.countP_nil,
        List.countP_singleton, decide_eq_true_eq]
      omega
    have hle : ∀ m, s.join.asks m ≤ s.asks m := fun m => by
      rw [hasks m]
      omega
    have hone := h.once n
    have hown := hasks n
    rw [if_pos rfl] at hown
    refine h.of_le hle (by simp [hjoin]) (fun e y he => ?_) (fun m result hm => ?_)
      fun m e hno => ?_
    · rw [hjoin] at he
      -- The download gets the token of the load that has just asked.
      refine forall_modify (P := fun x => ∀ m ∈ everyToken x, m < s.operations.length ∧
        s.join.asks m = 0) (h.held_of_le hle) (fun x hx m hm => ?_) e y he
      simp only [everyToken, addHandlers, List.mem_append, List.mem_singleton] at hm
      rcases hm with (hm | rfl) | hm
      · exact h.held_of_le hle d x hx m (List.mem_append_left _ hm)
      · exact ⟨h.known m (by omega), by omega⟩
      · exact h.held_of_le hle d x hx m (List.mem_append_right _ hm)
    · rw [hjoin] at hm
      exact h.called_of_le hle m result hm
    · exact absurd hno (by simp [hjoin])
  | io =>
    obtain ⟨block, blocks, hqueue⟩ := List.exists_cons_of_ne_nil henabled
    have hasks : ∀ n, s.asks n = asks { s with ioQueue := blocks } n +
        if asksCache n block then 1 else 0 := by
      intro n
      simp only [asks, hqueue, List.countP_cons]
      omega
    show (s.runIOQueue C).Tokens
    have hmove := runIOQueue_cases (C := C) hqueue
    generalize s.runIOQueue C = s' at hmove
    have hframe : ∀ {t : SDWebImage URL Image Data View}, (∀ n, t.asks n ≤ s.asks n) →
        t.operations = s.operations → t.downloads = s.downloads → t.joining = s.joining →
        (∀ n result, .loaderCompleted n result ∈ t.mainQueue →
          .loaderCompleted n result ∈ s.mainQueue) → t.Tokens := by
      intro t hle hoperations hdownloads hjoining hmain
      refine h.of_le hle (by rw [hoperations]) (fun d x hd => ?_)
        (fun n result hn => h.called_of_le hle n result (hmain n result hn)) fun n d hn => ?_
      · rw [hdownloads] at hd
        exact h.held_of_le hle d x hd
      · rw [hjoining] at hn
        obtain ⟨⟨operation, hn'⟩, hd⟩ := h.joining n d hn
        rw [hdownloads]
        exact ⟨⟨operation, by rw [Running, hoperations]; exact hn'⟩, hd⟩
    have hle : ∀ n, asks { s with ioQueue := blocks } n ≤ s.asks n := fun n => by
      rw [hasks n]
      omega
    cases hmove with
    | stored data key => exact hframe hle rfl rfl rfl fun _ _ hn => hn
    | dropped n key _ => exact hframe hle rfl rfl rfl fun _ _ hn => hn
    | answered n key image memoryCache _ _ =>
      refine hframe (fun m => ?_) rfl rfl rfl fun m result hm => ?_
      · rw [hasks m]
        by_cases hnm : n = m <;>
          simp only [asks, asksCache, asksMain, List.countP_append, List.countP_singleton, hnm,
            decide_true, decide_false, Bool.false_eq_true, if_true, if_false] <;> omega
      · rcases List.mem_append.mp hm with hm | hm
        · exact hm
        · exact absurd (List.mem_singleton.mp hm) (by simp)
  | start d =>
    obtain ⟨operation, hd, hstarted⟩ := henabled
    have hmoves := moves_startDownload C operation
    show (s.runDownload d startDownload).Tokens
    rw [runDownload_eq hd]
    refine h.moved hd hmoves.tokens ?_ (fun block hblock => ?_) rfl rfl rfl rfl rfl
    · rw [startDownload]
      dsimp only
      split <;> rfl
    · obtain ⟨n, hn, result, heq, -⟩ := hmoves.blocks block hblock
      exact ⟨n, hn, result, heq⟩
  | didComplete d error responseError imageData =>
    obtain ⟨operation, hd, htask⟩ := henabled
    have hnone : ∀ block ∈ ([] : List (MainBlock Image Data)), ∃ n ∈ everyToken operation,
        ∃ result, block = .loaderCompleted n result := fun _ hno => absurd hno (by simp)
    refine h.moved hd (fun n hn => ?_) ?_ hnone rfl (List.append_nil _).symm rfl rfl
      (modify_eq_const hd (didCompleteWithError error responseError imageData))
    · rw [didCompleteWithError] at hn
      split at hn
      · exact hn
      · rw [everyToken, DownloadWork.tokens, List.mem_append, or_self] at hn
        exact List.mem_append_left _ hn
    · rw [didCompleteWithError]
      split <;> rfl
  | work d =>
    obtain ⟨operation, hd, hwork⟩ := henabled
    have hmoves := moves_work C operation
    show (s.runDownload d (work C)).Tokens
    rw [runDownload_eq hd]
    refine h.moved hd hmoves.tokens (isCancelled_work C operation) (fun block hblock => ?_) rfl rfl
      rfl rfl rfl
    · obtain ⟨n, hn, result, heq, -⟩ := hmoves.blocks block hblock
      exact ⟨n, hn, result, heq⟩
  | completionBlock d =>
    obtain ⟨-, operation, hd, -⟩ := henabled
    have hnone : ∀ block ∈ ([] : List (MainBlock Image Data)), ∃ n ∈ everyToken operation,
        ∃ result, block = .loaderCompleted n result := fun _ hno => absurd hno (by simp)
    have htokens : ∀ n ∈ everyToken { operation with completionBlock := false },
        n ∈ everyToken operation := fun n hn => hn
    show (s.completionBlock d).Tokens
    rw [completionBlock, hd]
    exact h.moved hd htokens rfl hnone rfl (List.append_nil _).symm rfl rfl
      (modify_eq_const hd fun operation => { operation with completionBlock := false })
  | evictMemory key => exact ⟨h.once, h.known, h.held, h.called, h.joining⟩
  | evictDisk key => exact ⟨h.once, h.known, h.held, h.called, h.joining⟩

end Tokens

/-! ### Where a running load is -/

/-- The download is going to call the load `n`. -/
structure Serves (n : ℕ) (operation : SDWebImageDownloaderOperation URL Data) : Prop where
  token : n ∈ operation.callbackTokens
  live : operation.isFinished = false
  uncancelled : operation.isCancelled = false
  working : operation.work ≠ .finishing
  undecoded : ∀ imageData pendingTokens finishedTokens,
    operation.work = .decoding imageData pendingTokens finishedTokens → n ∉ finishedTokens

/-- The load `n` waits for the cache or a callback, or a download is going to call it. -/
def Awaited (s : SDWebImage URL Image Data View) (n : ℕ) : Prop :=
  0 < s.asks n ∨ (∃ block ∈ s.mainQueue, block.token = n) ∨
    ∃ (d : ℕ) (operation : _), s.downloads[d]? = some operation ∧ Serves n operation

/-- The download has looked at its tokens for the last time. -/
def Late (operation : SDWebImageDownloaderOperation URL Data) : Prop :=
  operation.isFinished = true ∨ operation.work = .finishing

/-- A handler is not added to a download that is late. -/
def Event.Timely (s : SDWebImage URL Image Data View) : Event URL Data View → Prop
  | .join => ∀ n d operation, s.joining = some (n, d) → s.downloads[d]? = some operation →
    ¬ Late operation
  | _ => True

section Serves

variable {n : ℕ} {operation : SDWebImageDownloaderOperation URL Data}

theorem Serves.addHandlers (h : Serves n operation) (token : ℕ) :
    Serves n (addHandlers token operation) :=
  ⟨List.mem_append_left _ h.token, h.live, h.uncancelled, h.working, h.undecoded⟩

/-- Another load is cancelled: the last token is not its own. -/
theorem Serves.cancelToken (h : Serves n operation) {token : ℕ} (hne : token ≠ n) :
    Serves n (cancelToken token operation) := by
  have htoken := h.token
  rw [SDWebImage.cancelToken, if_neg]
  · exact ⟨(List.mem_erase_of_ne (Ne.symm hne)).mpr h.token, h.live, h.uncancelled, h.working,
      h.undecoded⟩
  · intro hone
    rw [hone, List.mem_singleton] at htoken
    exact hne htoken.symm

theorem Serves.startDownload (h : Serves n operation) :
    Serves n (@startDownload URL Image Data operation).1 := by
  rw [SDWebImage.startDownload]
  dsimp only
  rw [if_neg (by simp [h.uncancelled])]
  exact ⟨h.token, h.live, h.uncancelled, h.working, h.undecoded⟩

theorem Serves.didCompleteWithError (h : Serves n operation)
    (error responseError : Option LoadError) (imageData : Option Data) :
    Serves n (didCompleteWithError error responseError imageData operation) := by
  rw [SDWebImage.didCompleteWithError, if_neg (by simp [h.live])]
  exact ⟨h.token, h.live, h.uncancelled, by simp, by simp⟩

theorem mem_callCompletionBlocksWithError {tokens : List ℕ} (hn : n ∈ tokens) (error : LoadError) :
    ∃ block ∈ (callCompletionBlocksWithError tokens error : List (MainBlock Image Data)),
      block.token = n :=
  ⟨.loaderCompleted n (.error error), List.mem_map.mpr ⟨n, hn, rfl⟩, rfl⟩

/-- The download works on for the load, or calls it. -/
theorem Serves.work (h : Serves n operation) (hsound : Sound operation)
    (C : ImageCoders URL Image Data) :
    Serves n (work C operation).1 ∨ ∃ block ∈ (work C operation).2, block.token = n := by
  have hserves : ∀ {next : DownloadWork Data}, next ≠ .finishing →
      (∀ imageData pendingTokens finishedTokens,
        next = .decoding imageData pendingTokens finishedTokens → n ∉ finishedTokens) →
      Serves n { operation with work := next } := fun hworking hundecoded =>
    ⟨h.token, h.live, h.uncancelled, hworking, hundecoded⟩
  rw [SDWebImage.work]
  split
  · exact .inl h
  · exact .inr (mem_callCompletionBlocksWithError h.token _)
  · -- The tokens that were copied are not empty, so that it does not end here.
    rename_i imageData tokens hcompleted
    rw [if_neg (hsound.copied _ _ _ hcompleted)]
    cases imageData with
    | none => exact .inr (mem_callCompletionBlocksWithError h.token _)
    | some imageData =>
      refine .inl (hserves (by simp) fun _ _ _ heq => ?_)
      obtain ⟨-, -, rfl⟩ := DownloadWork.decoding.inj heq
      simp
  · rename_i imageData token pendingTokens finishedTokens hdecoding
    by_cases hself : token = n
    · exact .inr ⟨_, List.mem_singleton_self _, hself⟩
    · refine .inl (hserves (by simp) fun _ _ _ heq => ?_)
      obtain ⟨-, -, rfl⟩ := DownloadWork.decoding.inj heq
      have hundecoded := h.undecoded _ _ _ hdecoding
      simp only [List.mem_append, List.mem_singleton]
      exact fun hmem => hmem.elim hundecoded fun heq => hself heq.symm
  · -- The load came after the copies, and is one of the new tokens.
    rename_i imageData finishedTokens hdecoding
    have hundecoded := h.undecoded _ _ _ hdecoding
    have hmem : n ∈ operation.callbackTokens.filter (· ∉ finishedTokens) :=
      List.mem_filter.mpr ⟨h.token, by simpa using hundecoded⟩
    dsimp only
    rw [if_neg (List.ne_nil_of_mem hmem)]
    refine .inl (hserves (by simp) fun _ _ _ heq => ?_)
    obtain ⟨-, -, rfl⟩ := DownloadWork.decoding.inj heq
    exact hundecoded
  · rename_i hfinishing
    exact absurd hfinishing h.working

end Serves

section Awaited

variable {s s' : SDWebImage URL Image Data View} {view : View} {n m : ℕ}
  {operation : SDWebImageCombinedOperation URL View}
  {operations : List (SDWebImageCombinedOperation URL View)}
  {downloads : List (SDWebImageDownloaderOperation URL Data)}

/-- What the load waits for is still there. -/
theorem Awaited.mono (h : s.Awaited n) (hasks : s.asks n ≤ s'.asks n)
    (hmain : ∀ block ∈ s.mainQueue, block.token = n → block ∈ s'.mainQueue)
    (hserves : ∀ (d : ℕ) operation, s.downloads[d]? = some operation → Serves n operation →
      s'.Awaited n) : s'.Awaited n := by
  rcases h with hasked | ⟨block, hblock, htoken⟩ | ⟨d, download, hd, hserved⟩
  · exact .inl (lt_of_lt_of_le hasked hasks)
  · exact .inr (.inl ⟨block, hmain block hblock htoken, htoken⟩)
  · exact hserves d download hd hserved

theorem Awaited.congr (h : s.Awaited n) (hasks : s'.asks n = s.asks n)
    (hmain : s'.mainQueue = s.mainQueue) (hdownloads : s'.downloads = s.downloads) :
    s'.Awaited n := by
  refine h.mono hasks.ge (fun block hblock _ => by rw [hmain]; exact hblock)
    fun d download hd hserved => .inr (.inr ⟨d, download, by rw [hdownloads, hd], hserved⟩)

/-- A download that serves the load goes on serving it, or has called it. -/
theorem awaited_modify {d : ℕ}
    {f : SDWebImageDownloaderOperation URL Data → SDWebImageDownloaderOperation URL Data}
    (hdownloads : s'.downloads = s.downloads.modify d f)
    (hf : ∀ x, s.downloads[d]? = some x → Serves n x →
      Serves n (f x) ∨ ∃ block ∈ s'.mainQueue, block.token = n) (e : ℕ)
    (x : SDWebImageDownloaderOperation URL Data) (he : s.downloads[e]? = some x)
    (hserved : Serves n x) : s'.Awaited n := by
  by_cases hde : d = e
  · subst hde
    rcases hf x he hserved with hserved' | hcalled
    · refine .inr (.inr ⟨d, f x, ?_, hserved'⟩)
      rw [hdownloads, List.getElem?_modify_eq, he]
      rfl
    · exact .inr (.inl hcalled)
  · refine .inr (.inr ⟨e, x, ?_, hserved⟩)
    rw [hdownloads, List.getElem?_modify_ne _ _ hde, he]

/-- A load of another view stays with its download. -/
theorem Cancelled.awaited (hcancelled : Cancelled s view operations downloads)
    (hviews : s.LoaderViews) (hm : s.Running m operation) (hne : operation.view ≠ view)
    (hdownloads : s'.downloads = downloads) (e : ℕ)
    (x : SDWebImageDownloaderOperation URL Data) (he : s.downloads[e]? = some x)
    (hserved : Serves m x) : s'.Awaited m := by
  cases hcancelled with
  | nothing _ => exact .inr (.inr ⟨e, x, by rw [hdownloads, he], hserved⟩)
  | load _ _ _ _ _ => exact .inr (.inr ⟨e, x, by rw [hdownloads, he], hserved⟩)
  | request k d _ hview _ _ =>
    -- The token that is cancelled belongs to the view that is set.
    have hkm : k ≠ m := by
      rintro rfl
      obtain ⟨-, other, hk, hother⟩ := hviews.known view k hview
      rw [Option.some.inj (hk.symm.trans hm.1)] at hother
      exact hne hother
    exact awaited_modify hdownloads (fun y _ hy => .inl (hy.cancelToken hkm)) e x he hserved

theorem asksMain_eq_false {block : MainBlock Image Data} (h : block.token ≠ n) :
    asksMain n block = false := by
  cases block with
  | queryDone k _ => exact decide_eq_false h
  | loaderCompleted _ _ => rfl

variable [DecidableEq View] [DecidableEq URL] {C : ImageCoders URL Image Data}
  {event : Event URL Data View}

omit [DecidableEq URL] in
/-- A view is set to a URL: a new load that runs has asked, and the others wait on. -/
theorem SetImage.awaited {url : URL} (hset : SetImage C s view url operations downloads s')
    (hcancelled : Cancelled s view operations downloads) (hviews : s.LoaderViews)
    (h : ∀ m operation, s.Running m operation → s.Awaited m) :
    ∀ m operation, s'.Running m operation → s'.Awaited m := by
  have hold : ∀ {m : ℕ} {operation}, operations[m]? = some operation → operation.running = true →
      s.asks m ≤ s'.asks m → s'.mainQueue = s.mainQueue → s'.downloads = downloads →
      s'.Awaited m := by
    intro m operation hm hrunning hasks hmain hdownloads
    obtain ⟨hbefore, hne⟩ := hcancelled.running hviews hm hrunning
    exact (h m operation hbefore).mono hasks (fun block hblock _ => by rw [hmain]; exact hblock)
      (hcancelled.awaited hviews hbefore hne hdownloads)
  have hlength := hcancelled.length_eq
  intro m operation hm
  cases hset with
  | refused _ =>
    by_cases hlt : m < operations.length
    · exact hold ((List.getElem?_append_left hlt).symm.trans hm.1) hm.2 le_rfl rfl rfl
    · obtain rfl := getElem?_concat_new hm.1 hlt
      exact absurd hm.2 (by simp)
  | found _ _ _ =>
    by_cases hlt : m < operations.length
    · exact hold ((List.getElem?_append_left hlt).symm.trans hm.1) hm.2 le_rfl rfl rfl
    · obtain rfl := getElem?_concat_new hm.1 hlt
      exact absurd hm.2 (by simp)
  | asked _ _ =>
    by_cases hlt : m < operations.length
    · refine hold ((List.getElem?_append_left hlt).symm.trans hm.1) hm.2 ?_ rfl rfl
      simp only [asks, List.countP_append]
      omega
    · refine .inl ?_
      have hle := (List.getElem?_eq_some_iff.mp hm.1).1
      rw [List.length_append, List.length_singleton] at hle
      obtain rfl : m = s.operations.length := by omega
      simp [asks, asksCache]

/-- A block of the main queue moves the load that it is for: it has ended, or waits again. -/
theorem LoadMove.awaited {block : MainBlock Image Data} (hmove : LoadMove C s n operation block s')
    (hjoining : s.joining = none) (hn : s.Running n operation)
    (h : ∀ m operation, s.Running m operation → m ≠ n → s.Awaited m) :
    ∀ m operation, s'.Running m operation → s'.Awaited m := by
  have hother : ∀ {m : ℕ} {f}, m ≠ n → (s.operations.modify n f)[m]? = s.operations[m]? :=
    fun hne => List.getElem?_modify_ne _ _ (Ne.symm hne)
  -- A load that ends need not be awaited any more.
  have hended : ∀ {f : SDWebImageCombinedOperation URL View → SDWebImageCombinedOperation URL View}
      {load}, (∀ x, (f x).running = false) → (s.operations.modify n f)[n]? = some load →
      load.running = true → False := by
    intro f load hf hload hrunning
    rw [List.getElem?_modify_eq, hn.1] at hload
    rw [← Option.some.inj hload] at hrunning
    exact absurd ((hf operation).symm.trans hrunning) (by simp)
  intro m load hm
  by_cases hmn : m = n
  · subst hmn
    cases hmove with
    | found image => exact (hended (fun _ => rfl) hm.1 hm.2).elim
    | failed error failedURLs _ => exact (hended (fun _ => rfl) hm.1 hm.2).elim
    | loaded image data => exact (hended (fun _ => rfl) hm.1 hm.2).elim
    | joined d _ =>
      refine .inl ?_
      simp [asks]
    | created _ =>
      exact .inr (.inr ⟨s.downloads.length, _, List.getElem?_concat_length,
        ⟨List.mem_singleton_self _, rfl, rfl, by simp, by simp⟩⟩)
  · cases hmove with
    | found image =>
      exact (h m load ⟨(hother hmn).symm.trans hm.1, hm.2⟩ hmn).congr rfl rfl rfl
    | failed error failedURLs _ =>
      exact (h m load ⟨(hother hmn).symm.trans hm.1, hm.2⟩ hmn).congr rfl rfl rfl
    | loaded image data =>
      refine (h m load ⟨(hother hmn).symm.trans hm.1, hm.2⟩ hmn).congr ?_ rfl rfl
      simp [asks, List.countP_append, asksCache]
    | joined d _ =>
      refine (h m load ⟨(hother hmn).symm.trans hm.1, hm.2⟩ hmn).congr ?_ rfl rfl
      simp [asks, hjoining, Ne.symm hmn]
    | created _ =>
      refine (h m load ⟨(hother hmn).symm.trans hm.1, hm.2⟩ hmn).mono le_rfl
        (fun _ hblock _ => hblock) fun d x hd hserved => .inr (.inr ⟨d, x, ?_, hserved⟩)
      dsimp only
      rw [List.getElem?_append_left (List.getElem?_eq_some_iff.mp hd).1, hd]

/-- As long as handlers are added in time, every running load is awaited. -/
theorem awaited_step (hviews : s.LoaderViews) (hsound : s.SoundDownloads) (htokens : s.Tokens)
    (hstep : (system View C).Step s event s') (htimely : event.Timely s)
    (h : ∀ m operation, s.Running m operation → s.Awaited m) :
    ∀ m operation, s'.Running m operation → s'.Awaited m := by
  obtain ⟨henabled, hnext⟩ := hstep
  obtain rfl := Option.some.inj hnext
  cases event with
  | setImage view url =>
    obtain ⟨operations, downloads, hcancelled, hset⟩ :=
      setImage_cases (C := C) hviews.uncancelled view url
    exact hset.awaited hcancelled hviews h
  | main =>
    obtain ⟨block, blocks, hqueue⟩ := List.exists_cons_of_ne_nil henabled.1
    have hpopped : ∀ m operation, s.Running m operation → m ≠ block.token →
        Awaited { s with mainQueue := blocks } m := by
      intro m operation hm hne
      refine (h m operation hm).mono ?_ (fun block' hblock' htoken => ?_)
        fun d x hd hserved => .inr (.inr ⟨d, x, hd, hserved⟩)
      · simp [asks, hqueue, asksMain_eq_false (Ne.symm hne)]
      · rw [hqueue] at hblock'
        rcases List.mem_cons.mp hblock' with rfl | hblock'
        · exact absurd htoken.symm hne
        · exact hblock'
    show ∀ m operation, (s.runMain C).Running m operation → (s.runMain C).Awaited m
    rcases runMain_cases (C := C) hviews.uncancelled hqueue with
      ⟨hgone, heq⟩ | ⟨operation, hn, hmove⟩
    · rw [heq]
      intro m operation hm
      refine hpopped m operation hm ?_
      rintro rfl
      exact hgone operation hm
    · exact hmove.awaited henabled.2 hn hpopped
  | join =>
    obtain ⟨⟨n, d⟩, hjoining⟩ := Option.ne_none_iff_exists'.mp henabled
    obtain ⟨-, x, hd, hcancelled⟩ := htokens.joining n d hjoining
    show ∀ m operation, s.join.Running m operation → s.join.Awaited m
    rw [join_eq hjoining]
    intro m operation hm
    by_cases hnm : n = m
    · -- The download is not late, and serves the load from now on.
      subst hnm
      have hlate := htimely n d x hjoining hd
      rw [Late, not_or, Bool.not_eq_true] at hlate
      refine .inr (.inr ⟨d, addHandlers n x, by dsimp only; rw [List.getElem?_modify_eq, hd]; rfl,
        ⟨List.mem_append_right _ (List.mem_singleton_self n), hlate.1, hcancelled, hlate.2,
          fun imageData pendingTokens finishedTokens hdecoding hmem => ?_⟩⟩)
      -- A token that has been called cannot be about to ask.
      have hheld : n ∈ everyToken x := by
        have hwork : x.work = .decoding imageData pendingTokens finishedTokens := hdecoding
        rw [everyToken, hwork]
        simp [DownloadWork.tokens, hmem]
      have hzero := (htokens.held d x hd n hheld).2
      simp [asks, hjoining] at hzero
    · obtain ⟨hm, hrunning⟩ := hm
      dsimp only at hm
      rw [List.getElem?_modify_ne _ _ hnm] at hm
      refine (h m operation ⟨hm, hrunning⟩).mono ?_ (fun _ hblock _ => hblock)
        (awaited_modify rfl fun y _ hy => .inl (hy.addHandlers n))
      simp [asks, hjoining, hnm]
  | io =>
    obtain ⟨block, blocks, hqueue⟩ := List.exists_cons_of_ne_nil henabled
    have hrunning : ∀ m operation, (s.runIOQueue C).Running m operation →
        s.Running m operation := by
      intro m operation hm
      rw [Running, (runIOQueue_frame C).2] at hm
      exact hm
    intro m operation hm
    have hm := hrunning m operation hm
    have hawaited := h m operation hm
    show (s.runIOQueue C).Awaited m
    have hmove := runIOQueue_cases (C := C) hqueue
    generalize s.runIOQueue C = s' at hmove
    cases hmove with
    | stored data key =>
      refine hawaited.congr ?_ rfl rfl
      simp [asks, hqueue, asksCache]
    | dropped n key hgone =>
      -- Only the request of a load that was cancelled is dropped.
      refine hawaited.congr ?_ rfl rfl
      have hne : n ≠ m := by
        rintro rfl
        have hcancelled := hgone operation hm.1
        exact absurd (hcancelled.symm.trans (hviews.uncancelled n operation hm).2) (by simp)
      simp [asks, hqueue, asksCache, hne]
    | answered n key image memoryCache _ _ =>
      refine hawaited.mono ?_ (fun _ hblock _ => List.mem_append_left _ hblock)
        fun d x hd hserved => .inr (.inr ⟨d, x, hd, hserved⟩)
      by_cases hnm : n = m <;>
        simp only [asks, hqueue, List.countP_append, List.countP_cons, List.countP_nil, asksCache,
          asksMain, hnm, decide_true, decide_false, Bool.false_eq_true, if_true, if_false] <;>
        omega
  | start d =>
    obtain ⟨download, hd, hstarted⟩ := henabled
    show ∀ m operation, (s.runDownload d startDownload).Running m operation →
      (s.runDownload d startDownload).Awaited m
    rw [runDownload_eq hd]
    intro m operation hm
    refine (h m operation hm).mono ?_ (fun _ hblock _ => List.mem_append_left _ hblock)
      (awaited_modify rfl fun x hx hserved => .inl ?_)
    · simp only [asks, List.countP_append]
      omega
    · rw [Option.some.inj (hd.symm.trans hx)]
      exact hserved.startDownload
  | didComplete d error responseError imageData =>
    intro m operation hm
    exact (h m operation hm).mono le_rfl (fun _ hblock _ => hblock)
      (awaited_modify rfl fun x _ hserved =>
        .inl (hserved.didCompleteWithError error responseError imageData))
  | work d =>
    obtain ⟨download, hd, hwork⟩ := henabled
    show ∀ m operation, (s.runDownload d (work C)).Running m operation →
      (s.runDownload d (work C)).Awaited m
    rw [runDownload_eq hd]
    intro m operation hm
    refine (h m operation hm).mono ?_ (fun _ hblock _ => List.mem_append_left _ hblock)
      (awaited_modify rfl fun x hx hserved => ?_)
    · simp only [asks, List.countP_append]
      omega
    · rw [Option.some.inj (hd.symm.trans hx)]
      refine (hserved.work (hsound d x hx) C).imp_right ?_
      rintro ⟨block, hblock, htoken⟩
      exact ⟨block, List.mem_append_right _ hblock, htoken⟩
  | completionBlock d =>
    obtain ⟨-, download, hd, -⟩ := henabled
    show ∀ m operation, (s.completionBlock d).Running m operation →
      (s.completionBlock d).Awaited m
    rw [completionBlock, hd]
    intro m operation hm
    exact (h m operation hm).mono le_rfl (fun _ hblock _ => hblock)
      (awaited_modify rfl fun x _ hserved => .inl ⟨hserved.token, hserved.live,
        hserved.uncancelled, hserved.working, hserved.undecoded⟩)
  | evictMemory key =>
    intro m operation hm
    exact (h m operation hm).congr rfl rfl rfl
  | evictDisk key =>
    intro m operation hm
    exact (h m operation hm).congr rfl rfl rfl

end Awaited

/-! ### Loads that end -/

section Finish

variable [DecidableEq View] [DecidableEq URL] {C : ImageCoders URL Image Data}
  {s s' : SDWebImage URL Image Data View} {event : Event URL Data View} {view : View} {url : URL}

variable (C View) in
/-- The loader with handlers that are added in time. -/
def TimelyLoads : EventSystem (SDWebImage URL Image Data View) (Event URL Data View) :=
  (system View C).restrict fun s event => event.Timely s

omit [DecidableEq View] [DecidableEq URL] in
theorem running_of_loading (h : s.imageView view = .loading url) :
    ∃ n operation, s.Running n operation := by
  rw [imageView] at h
  cases hlatest : s.latest view with
  | none =>
    rw [hlatest] at h
    exact absurd h (by simp)
  | some operation =>
    obtain ⟨n, -, hn⟩ := Option.bind_eq_some_iff.mp hlatest
    rw [hlatest] at h
    cases hrunning : operation.running with
    | true => exact ⟨n, operation, hn, hrunning⟩
    | false =>
      have hshowing : showing operation (s.views view).image = .loading url := h
      cases hpicture : (s.views view).image <;>
        exact absurd (hpicture ▸ hshowing) (by simp [showing, hrunning])

omit [DecidableEq View] [DecidableEq URL] in
/-- What a load waits for can run. -/
theorem Awaited.enabled {n : ℕ} (h : s.Awaited n) (hsound : s.SoundDownloads) :
    ∃ event : Event URL Data View, event.blocks = 1 ∧ s.enabled event := by
  by_cases hjoining : s.joining = none
  · by_cases hmain : s.mainQueue = []
    · rcases h with hasked | ⟨block, hblock, -⟩ | ⟨d, x, hd, hserved⟩
      · refine ⟨.io, rfl, fun hio => ?_⟩
        simp [asks, hio, hmain, hjoining] at hasked
      · exact absurd hblock (by simp [hmain])
      · -- A download that serves a load is to be started, is on the network, or at work.
        by_cases hstarted : x.started = true
        · by_cases hwork : x.work = .none
          · have htask := ((hsound d x hd).going hstarted hserved.live).2.2 hwork
            exact ⟨.didComplete d none none none, rfl, x, hd, htask⟩
          · exact ⟨.work d, rfl, x, hd, hwork⟩
        · exact ⟨.start d, rfl, x, hd, by simpa using hstarted⟩
    · exact ⟨.main, rfl, hmain, hjoining⟩
  · exact ⟨.join, rfl, hjoining⟩

theorem awaited_run {events : List (Event URL Data View)}
    (hrun : (TimelyLoads View C).Run s events s') (hviews : s.LoaderViews)
    (hsound : s.SoundDownloads) (htokens : s.Tokens)
    (h : ∀ m operation, s.Running m operation → s.Awaited m) :
    s'.LoaderViews ∧ s'.SoundDownloads ∧ ∀ m operation, s'.Running m operation → s'.Awaited m := by
  induction hrun with
  | nil => exact ⟨hviews, hsound, h⟩
  | cons hstep _ ih =>
    obtain ⟨hstep, htimely⟩ := EventSystem.step_restrict_iff.mp hstep
    exact ih (imageView_step hviews hstep).1 (sound_step hviews hstep hsound)
      (tokens_step hviews hstep htokens)
      (awaited_step hviews hsound htokens hstep htimely h)

/-- **Every load ends.**  In every run whose handlers are added in time, at most nineteen
blocks run for each URL that is set, in whatever order and however the downloads end; and
when no block is left, no view is loading. -/
theorem loads_finish {diskCache : String → Option Data} {events : List (Event URL Data View)}
    (hrun : (TimelyLoads View C).Run (launched diskCache) events s) :
    (events.map Event.blocks).sum ≤ 19 * (events.map Event.sets).sum ∧
      ((∀ event : Event URL Data View, event.blocks = 1 → ¬ s.enabled event) →
        ∀ view url, s.imageView view ≠ .loading url) := by
  have hviews : (launched diskCache : SDWebImage URL Image Data View).LoaderViews :=
    loaderViews_launched diskCache
  have hsound : (launched diskCache : SDWebImage URL Image Data View).SoundDownloads :=
    fun _ _ hno => absurd hno (by simp [launched])
  have hrunning : ∀ m operation, (launched diskCache : SDWebImage URL Image Data View).Running m
      operation → Awaited (launched diskCache : SDWebImage URL Image Data View) m :=
    fun _ _ hno => absurd hno.1 (by simp [launched])
  constructor
  · have hwork := workLeft_run hrun.of_restrict hviews hsound
    have hnone : (launched diskCache : SDWebImage URL Image Data View).workLeft = 0 := rfl
    omega
  · intro hrest view url hview
    obtain ⟨-, hsound', hawaited⟩ :=
      awaited_run hrun hviews hsound (tokens_launched diskCache) hrunning
    obtain ⟨n, operation, hn⟩ := running_of_loading hview
    obtain ⟨event, hblock, henabled⟩ := (hawaited n operation hn).enabled hsound'
    exact hrest event hblock henabled

end Finish

/-- Two views are set to one URL, and share its download. -/
def sharedDownload : List (Event String String Bool) :=
  [.setImage false "cover", .io, .main, .start 0, .setImage true "cover", .io, .main, .join,
    .didComplete 0 none none (some "cover"), .work 0, .work 0, .work 0, .work 0, .main, .main,
    .io, .io, .io, .io, .completionBlock 0]

theorem sharedDownload_run : ∃ s : SDWebImage String String String Bool,
    (TimelyLoads Bool textCoders).Run (launched fun _ => none) sharedDownload s ∧
      ∀ event : Event String String Bool, event.blocks = 1 → ¬ s.enabled event := by
  have hstep : ∀ {s s' : SDWebImage String String String Bool} {event},
      s.enabled event → some (s.next textCoders event) = some s' → event.Timely s →
      (TimelyLoads Bool textCoders).Step s event s' :=
    fun henabled hnext htimely => ⟨⟨henabled, htimely⟩, hnext⟩
  -- Event by event; joining is the only one with a condition.
  refine ⟨_, .cons (hstep rfl rfl trivial) <| .cons (hstep nofun rfl trivial) <|
    .cons (hstep ⟨nofun, rfl⟩ rfl trivial) <| .cons (hstep ⟨_, rfl, rfl⟩ rfl trivial) <|
    .cons (hstep rfl rfl trivial) <| .cons (hstep nofun rfl trivial) <|
    .cons (hstep ⟨nofun, rfl⟩ rfl trivial) <| .cons (hstep nofun rfl ?_) <|
    .cons (hstep ⟨_, rfl, rfl⟩ rfl trivial) <| .cons (hstep ⟨_, rfl, nofun⟩ rfl trivial) <|
    .cons (hstep ⟨_, rfl, nofun⟩ rfl trivial) <| .cons (hstep ⟨_, rfl, nofun⟩ rfl trivial) <|
    .cons (hstep ⟨_, rfl, nofun⟩ rfl trivial) <| .cons (hstep ⟨nofun, rfl⟩ rfl trivial) <|
    .cons (hstep ⟨nofun, rfl⟩ rfl trivial) <| .cons (hstep nofun rfl trivial) <|
    .cons (hstep nofun rfl trivial) <| .cons (hstep nofun rfl trivial) <|
    .cons (hstep nofun rfl trivial) <| .cons (hstep ⟨rfl, _, rfl, rfl, rfl⟩ rfl trivial) <|
    .nil _, ?_⟩
  · intro n d operation hjoining hd
    obtain ⟨rfl, rfl⟩ := Prod.mk.inj (Option.some.inj hjoining)
    obtain rfl := Option.some.inj hd
    rintro (hno | hno) <;> exact absurd hno nofun
  · -- At the end the queues are empty, and the one download is over.
    have hdownload : ∀ {P : SDWebImageDownloaderOperation String String → Prop} {d : ℕ}
        {x y : SDWebImageDownloaderOperation String String}, [x][d]? = some y → (P x → False) →
        P y → False := by
      intro P d x y hd hP hy
      rw [List.mem_singleton.mp (List.mem_of_getElem? hd)] at hy
      exact hP hy
    intro event hblock henabled
    cases event with
    | setImage _ _ => exact absurd hblock (by simp [Event.blocks])
    | evictMemory _ => exact absurd hblock (by simp [Event.blocks])
    | evictDisk _ => exact absurd hblock (by simp [Event.blocks])
    | main => exact henabled.1 rfl
    | join => exact henabled rfl
    | io => exact henabled rfl
    | start d =>
      obtain ⟨y, hd, hy⟩ := henabled
      exact hdownload hd (P := fun x => x.started = false) nofun hy
    | didComplete d _ _ _ =>
      obtain ⟨y, hd, hy⟩ := henabled
      exact hdownload hd (P := fun x => x.dataTask = true) nofun hy
    | work d =>
      obtain ⟨y, hd, hy⟩ := henabled
      exact hdownload hd (P := fun x => x.work ≠ .none) (fun hno => hno rfl) hy
    | completionBlock d =>
      obtain ⟨-, y, hd, -, hy⟩ := henabled
      exact hdownload hd (P := fun x => x.completionBlock = true) nofun hy

theorem loads_finish_first : ∃ s : SDWebImage String String String Bool,
    (sharedDownload.map Event.blocks).sum ≤ 19 * (sharedDownload.map Event.sets).sum ∧
      ∀ view url, s.imageView view ≠ .loading url := by
  obtain ⟨s, hrun, hrest⟩ := sharedDownload_run
  obtain ⟨hle, hended⟩ := loads_finish hrun
  exact ⟨s, hle, hended hrest⟩

/-! ### Loads that are lost -/

/-- The download is never going to call the load `n`. -/
def Mute (n : ℕ) (operation : SDWebImageDownloaderOperation URL Data) : Prop :=
  n ∉ everyToken operation ∨ operation.work = .none ∧ operation.isFinished = true ∨
    operation.work = .finishing

section Mute

variable {n : ℕ} {operation : SDWebImageDownloaderOperation URL Data}

theorem Mute.addHandlers (h : Mute n operation) {token : ℕ} (hne : token ≠ n) :
    Mute n (addHandlers token operation) := by
  refine h.imp_left fun hnot hmem => hnot ?_
  simp only [everyToken, SDWebImage.addHandlers, List.mem_append, List.mem_singleton] at hmem ⊢
  rcases hmem with (hmem | rfl) | hmem
  · exact .inl hmem
  · exact absurd rfl hne
  · exact .inr hmem

theorem cancelToken_work (token : ℕ) (operation : SDWebImageDownloaderOperation URL Data) :
    (cancelToken token operation).work = operation.work ∧
      (operation.isFinished = true → (cancelToken token operation).isFinished = true) := by
  rw [cancelToken]
  split
  · rw [cancelInternal]
    split
    · exact ⟨rfl, id⟩
    · rename_i hfinished
      exact ⟨rfl, fun hno => absurd hno hfinished⟩
  · exact ⟨rfl, id⟩

theorem Mute.cancelToken (h : Mute n operation) (C : ImageCoders URL Image Data) (token : ℕ) :
    Mute n (cancelToken token operation) := by
  obtain ⟨hwork, hfinished⟩ := cancelToken_work token operation
  rcases h with hnot | ⟨hnone, hended⟩ | hfinishing
  · exact .inl fun hmem => hnot ((moves_cancelToken C token operation).tokens n hmem)
  · exact .inr (.inl ⟨hwork.trans hnone, hfinished hended⟩)
  · exact .inr (.inr (hwork.trans hfinishing))

/-- A download that has not been started has not ended. -/
theorem Mute.not_mem_of_unstarted (h : Mute n operation) (hsound : Sound operation)
    (hstarted : operation.started = false) : n ∉ everyToken operation := by
  obtain ⟨-, hwork, -, hfinished⟩ := hsound.unstarted hstarted
  rcases h with hnot | ⟨-, hended⟩ | hfinishing
  · exact hnot
  · exact absurd (hended.symm.trans hfinished) (by simp)
  · exact absurd (hfinishing.symm.trans hwork) (by simp)

theorem Mute.didCompleteWithError (h : Mute n operation) (hsound : Sound operation)
    (htask : operation.dataTask = true) (error responseError : Option LoadError)
    (imageData : Option Data) :
    Mute n (didCompleteWithError error responseError imageData operation) := by
  obtain ⟨hwork, hfinished⟩ := hsound.task htask
  rcases h with hnot | ⟨-, hended⟩ | hfinishing
  · refine .inl fun hmem => hnot ?_
    rw [SDWebImage.didCompleteWithError, if_neg (by simp [hfinished]), everyToken,
      DownloadWork.tokens, List.mem_append, or_self] at hmem
    exact List.mem_append_left _ hmem
  · exact absurd (hended.symm.trans hfinished) (by simp)
  · exact absurd (hfinishing.symm.trans hwork) (by simp)

/-- The download works on, and does not call the load. -/
theorem Mute.work (h : Mute n operation) (hwork : operation.work ≠ .none)
    (C : ImageCoders URL Image Data) :
    Mute n (work C operation).1 ∧ ∀ block ∈ (work C operation).2, block.token ≠ n := by
  have hmoves := moves_work C operation
  rcases h with hnot | ⟨hnone, -⟩ | hfinishing
  · refine ⟨.inl fun hmem => hnot (hmoves.tokens n hmem), fun block hblock htoken => hnot ?_⟩
    obtain ⟨m, hm, result, rfl, -⟩ := hmoves.blocks block hblock
    rw [← htoken]
    exact hm
  · exact absurd hnone hwork
  · rw [SDWebImage.work, hfinishing]
    exact ⟨.inr (.inl ⟨rfl, rfl⟩), fun _ hno => absurd hno (by simp)⟩

end Mute

/-- The load runs, and nothing is ever going to call it. -/
structure Lost (s : SDWebImage URL Image Data View) (n : ℕ)
    (operation : SDWebImageCombinedOperation URL View) : Prop where
  running : s.Running n operation
  asked : s.asks n = 0
  uncalled : ∀ block ∈ s.mainQueue, block.token ≠ n
  mute : ∀ (d : ℕ) x, s.downloads[d]? = some x → Mute n x

section Lost

variable {s s' : SDWebImage URL Image Data View} {view : View} {n d : ℕ}
  {operation : SDWebImageCombinedOperation URL View}
  {operations : List (SDWebImageCombinedOperation URL View)}
  {downloads : List (SDWebImageDownloaderOperation URL Data)}

/-- The handler of the load has come too late. -/
theorem lost_join (htokens : s.Tokens) (hsound : s.SoundDownloads)
    (hjoining : s.joining = some (n, d)) (hlate : s.Download d Late)
    (hn : s.operations[n]? = some operation) :
    s.join.Lost n { operation with loaderOperation := some d } := by
  obtain ⟨⟨running, hrunning⟩, x, hd, hcancelled⟩ := htokens.joining n d hjoining
  obtain ⟨y, hy, hlate⟩ := hlate
  obtain rfl : x = y := Option.some.inj (hd.symm.trans hy)
  obtain rfl : running = operation := Option.some.inj (hrunning.1.symm.trans hn)
  have hone := htokens.once n
  have hasks : s.asks n = s.ioQueue.countP (asksCache n) + s.mainQueue.countP (asksMain n) + 1 := by
    simp [asks, hjoining]
  rw [join_eq hjoining]
  refine ⟨⟨by dsimp only; rw [List.getElem?_modify_eq, hn]; rfl, hrunning.2⟩, ?_,
    fun block hblock htoken => ?_, ?_⟩
  · simp only [asks, Option.toList_none, List.countP_nil]
    omega
  · -- Its one request is the one that joins the download, so that no block is for it.
    cases block with
    | queryDone m image =>
      obtain rfl : m = n := htoken
      have hpos : 0 < s.mainQueue.countP (asksMain m) :=
        List.countP_pos_iff.mpr ⟨_, hblock, by simp [asksMain]⟩
      omega
    | loaderCompleted m result =>
      obtain rfl : m = n := htoken
      have hzero := (htokens.called m result hblock).2
      omega
  · refine forall_modify (fun e y he => .inl fun hmem => ?_) fun y hy => ?_
    · have hzero := (htokens.held e y he n hmem).2
      omega
    · obtain rfl : x = y := Option.some.inj (hd.symm.trans hy)
      rcases hlate with hfinished | hfinishing
      · exact .inr (.inl ⟨(hsound d x hd).ended hfinished hcancelled, hfinished⟩)
      · exact .inr (.inr hfinishing)

theorem countP_uncalled {blocks : List (MainBlock Image Data)}
    (h : ∀ block ∈ blocks, block.token ≠ n) : blocks.countP (asksMain n) = 0 := by
  refine List.countP_eq_zero.mpr fun block hblock => ?_
  rw [asksMain_eq_false (h block hblock)]
  simp

/-- The queues and the downloads do without the load. -/
theorem Lost.of_le (h : s.Lost n operation) (hoperations : s'.operations[n]? = s.operations[n]?)
    (hasks : s'.asks n ≤ s.asks n)
    (hmain : ∀ block ∈ s'.mainQueue, block ∈ s.mainQueue ∨ block.token ≠ n)
    (hmute : ∀ (d : ℕ) x, s'.downloads[d]? = some x → Mute n x) : s'.Lost n operation := by
  have hzero := h.asked
  refine ⟨⟨hoperations.trans h.running.1, h.running.2⟩, by omega, fun block hblock => ?_, hmute⟩
  rcases hmain block hblock with hblock | hne
  · exact h.uncalled block hblock
  · exact hne

variable [DecidableEq View] [DecidableEq URL] {C : ImageCoders URL Image Data}
  {event : Event URL Data View}

omit [DecidableEq URL] in
/-- Another view is set to a URL. -/
theorem SetImage.lost {url : URL} (hset : SetImage C s view url operations downloads s')
    (hcancelled : Cancelled s view operations downloads) (hviews : s.LoaderViews)
    (hne : view ≠ operation.view) (h : s.Lost n operation) : s'.Lost n operation := by
  have hlt : n < s.operations.length := (List.getElem?_eq_some_iff.mp h.running.1).1
  have hlength := hcancelled.length_eq
  have hkept : operations[n]? = s.operations[n]? := by
    rcases hcancelled.getElem?_cases n with hsame | ⟨hview, -⟩
    · exact hsame
    · obtain ⟨-, other, hn, hother⟩ := hviews.known view n hview
      rw [Option.some.inj (hn.symm.trans h.running.1)] at hother
      exact absurd hother.symm hne
  have happended : ∀ new, (operations ++ [new])[n]? = s.operations[n]? := by
    intro new
    rw [List.getElem?_append_left (by omega), hkept]
  have hmute : ∀ (d : ℕ) x, downloads[d]? = some x → Mute n x := by
    cases hcancelled with
    | nothing _ => exact h.mute
    | load _ _ _ _ _ => exact h.mute
    | request m e _ _ _ _ => exact forall_modify h.mute fun x hx => (h.mute e x hx).cancelToken C m
  cases hset with
  | refused _ => exact h.of_le (happended _) le_rfl (fun _ hblock => .inl hblock) hmute
  | found _ _ _ => exact h.of_le (happended _) le_rfl (fun _ hblock => .inl hblock) hmute
  | asked _ _ =>
    refine h.of_le (happended _) ?_ (fun _ hblock => .inl hblock) hmute
    have hnew : s.operations.length ≠ n := by omega
    simp [asks, asksCache, hnew]

/-- Another load moves. -/
theorem LoadMove.lost {block : MainBlock Image Data} {m : ℕ}
    {load : SDWebImageCombinedOperation URL View} (hmove : LoadMove C s m load block s')
    (hjoining : s.joining = none) (hne : m ≠ n) (h : s.Lost n operation) :
    s'.Lost n operation := by
  have hother : ∀ f, (s.operations.modify m f)[n]? = s.operations[n]? := fun f =>
    List.getElem?_modify_ne _ _ hne
  cases hmove with
  | found image => exact h.of_le (hother _) le_rfl (fun _ hblock => .inl hblock) h.mute
  | failed error failedURLs _ =>
    exact h.of_le (hother _) le_rfl (fun _ hblock => .inl hblock) h.mute
  | loaded image data =>
    refine h.of_le (hother _) ?_ (fun _ hblock => .inl hblock) h.mute
    simp [asks, asksCache]
  | joined d _ =>
    refine h.of_le (hother _) ?_ (fun _ hblock => .inl hblock) h.mute
    simp [asks, hjoining, hne]
  | created _ =>
    refine h.of_le (hother _) le_rfl (fun _ hblock => .inl hblock)
      (forall_concat h.mute (.inl fun hmem => ?_))
    exact hne.symm (by simpa [everyToken, DownloadWork.tokens] using hmem)

/-- A lost load stays lost, until its view is set again. -/
theorem lost_step (hviews : s.LoaderViews) (hsound : s.SoundDownloads)
    (hstep : (system View C).Step s event s') (hset : event.urls operation.view = [])
    (h : s.Lost n operation) : s'.Lost n operation := by
  obtain ⟨henabled, hnext⟩ := hstep
  obtain rfl := Option.some.inj hnext
  have hzero := h.asked
  cases event with
  | setImage view url =>
    obtain ⟨operations, downloads, hcancelled, hset'⟩ :=
      setImage_cases (C := C) hviews.uncancelled view url
    refine hset'.lost hcancelled hviews ?_ h
    rintro rfl
    exact absurd hset (by simp [Event.urls])
  | main =>
    obtain ⟨block, blocks, hqueue⟩ := List.exists_cons_of_ne_nil henabled.1
    have hpopped : Lost { s with mainQueue := blocks } n operation := by
      refine h.of_le rfl ?_ (fun _ hblock => .inl (hqueue ▸ List.mem_cons_of_mem _ hblock)) h.mute
      simp only [asks, hqueue, List.countP_cons]
      omega
    -- The call of the lost handler is not in the queue, so the block in front is another one.
    have hne := h.uncalled block (hqueue ▸ List.mem_cons_self)
    show (s.runMain C).Lost n operation
    rcases runMain_cases (C := C) hviews.uncancelled hqueue with ⟨-, heq⟩ | ⟨load, -, hmove⟩
    · rw [heq]
      exact hpopped
    · exact hmove.lost henabled.2 hne hpopped
  | join =>
    obtain ⟨⟨m, d⟩, hjoining⟩ := Option.ne_none_iff_exists'.mp henabled
    -- Who joins has asked for it; the lost load asks for nothing.
    have hne : m ≠ n := by
      rintro rfl
      simp [asks, hjoining] at hzero
    show s.join.Lost n operation
    rw [join_eq hjoining]
    refine h.of_le (List.getElem?_modify_ne _ _ hne) ?_ (fun _ hblock => .inl hblock)
      (forall_modify h.mute fun x hx => (h.mute d x hx).addHandlers hne)
    simp only [asks, Option.toList_none, List.countP_nil]
    omega
  | io =>
    obtain ⟨block, blocks, hqueue⟩ := List.exists_cons_of_ne_nil henabled
    have hle : asks { s with ioQueue := blocks } n ≤ s.asks n := by
      simp only [asks, hqueue, List.countP_cons]
      omega
    show (s.runIOQueue C).Lost n operation
    have hmove := runIOQueue_cases (C := C) hqueue
    generalize s.runIOQueue C = s' at hmove
    cases hmove with
    | stored data key => exact h.of_le rfl hle (fun _ hblock => .inl hblock) h.mute
    | dropped m key _ => exact h.of_le rfl hle (fun _ hblock => .inl hblock) h.mute
    | answered m key image memoryCache _ _ =>
      have hne : m ≠ n := by
        rintro rfl
        simp [asks, hqueue, asksCache] at hzero
      refine h.of_le rfl ?_ (fun block hblock => ?_) h.mute
      · refine le_trans (le_of_eq ?_) hle
        simp [asks, asksMain, hne]
      · rcases List.mem_append.mp hblock with hblock | hblock
        · exact .inl hblock
        · rw [List.mem_singleton.mp hblock]
          exact .inr hne
  | start d =>
    obtain ⟨x, hd, hstarted⟩ := henabled
    -- An unstarted download has not ended, so it is mute because it does not hold the handler.
    have hmoves := moves_startDownload C x
    have hnot := (h.mute d x hd).not_mem_of_unstarted (hsound d x hd) hstarted
    have hblocks : ∀ block ∈ (@startDownload URL Image Data x).2, block.token ≠ n := by
      rintro block hblock rfl
      obtain ⟨m, hm, result, rfl, -⟩ := hmoves.blocks block hblock
      exact hnot hm
    show (s.runDownload d startDownload).Lost n operation
    rw [runDownload_eq hd]
    refine h.of_le rfl ?_ (fun block hblock => ?_)
      (forall_modify h.mute fun _ _ => .inl fun hmem => hnot (hmoves.tokens n hmem))
    · simp only [asks, List.countP_append, countP_uncalled hblocks]
      omega
    · exact (List.mem_append.mp hblock).imp_right (hblocks block)
  | didComplete d error responseError imageData =>
    obtain ⟨x, hd, htask⟩ := henabled
    refine h.of_le rfl le_rfl (fun _ hblock => .inl hblock) (forall_modify h.mute fun y hy => ?_)
    obtain rfl : x = y := Option.some.inj (hd.symm.trans hy)
    exact (h.mute d x hd).didCompleteWithError (hsound d x hd) htask error responseError imageData
  | work d =>
    obtain ⟨x, hd, hwork⟩ := henabled
    obtain ⟨hmute, hblocks⟩ := (h.mute d x hd).work hwork C
    show (s.runDownload d (work C)).Lost n operation
    rw [runDownload_eq hd]
    refine h.of_le rfl ?_ (fun block hblock => ?_) (forall_modify h.mute fun _ _ => hmute)
    · simp only [asks, List.countP_append, countP_uncalled hblocks]
      omega
    · exact (List.mem_append.mp hblock).imp_right (hblocks block)
  | completionBlock d =>
    obtain ⟨-, x, hd, -⟩ := henabled
    show (s.completionBlock d).Lost n operation
    rw [completionBlock, hd]
    exact h.of_le rfl le_rfl (fun _ hblock => .inl hblock)
      (forall_modify h.mute fun y hy => h.mute d y hy)
  | evictMemory key => exact h.of_le rfl le_rfl (fun _ hblock => .inl hblock) h.mute
  | evictDisk key => exact h.of_le rfl le_rfl (fun _ hblock => .inl hblock) h.mute

theorem lost_run {events : List (Event URL Data View)} (hrun : (system View C).Run s events s')
    (hviews : s.LoaderViews) (hsound : s.SoundDownloads)
    (hset : events.flatMap (Event.urls operation.view) = []) (h : s.Lost n operation) :
    s'.LoaderViews ∧ s'.Lost n operation := by
  induction hrun with
  | nil => exact ⟨hviews, h⟩
  | cons hstep _ ih =>
    rw [List.flatMap_cons, List.append_eq_nil_iff] at hset
    exact ih (imageView_step hviews hstep).1 (sound_step hviews hstep hsound) hset.2
      (lost_step hviews hsound hstep hset.1 h)

theorem sound_tokens_run {events : List (Event URL Data View)}
    (hrun : (system View C).Run s events s') (hviews : s.LoaderViews) (hsound : s.SoundDownloads)
    (htokens : s.Tokens) : s'.LoaderViews ∧ s'.SoundDownloads ∧ s'.Tokens := by
  induction hrun with
  | nil => exact ⟨hviews, hsound, htokens⟩
  | cons hstep _ ih =>
    exact ih (imageView_step hviews hstep).1 (sound_step hviews hstep hsound)
      (tokens_step hviews hstep htokens)

/-- **A load can be lost.**  A handler that is added to a download which is finished by
then, or only about to finish, is never called: whatever happens later, the view keeps the
placeholder and goes on loading, until it is set again. -/
theorem lost_load {diskCache : String → Option Data} {earlier later : List (Event URL Data View)}
    (hearlier : (system View C).Run (launched diskCache) earlier s)
    (hjoining : s.joining = some (n, d)) (hlate : s.Download d Late)
    (hn : s.operations[n]? = some operation)
    (hlater : (system View C).Run s (.join :: later) s')
    (hset : later.flatMap (Event.urls operation.view) = []) :
    (s'.views operation.view).image = .placeholder ∧
      s'.imageView operation.view = .loading operation.url := by
  obtain ⟨hviews, hsound, htokens⟩ := sound_tokens_run hearlier (loaderViews_launched diskCache)
    (fun _ _ hno => absurd hno (by simp [launched])) (tokens_launched diskCache)
  obtain ⟨t, hstep, hrest⟩ := EventSystem.run_cons_iff.mp hlater
  have hviews' := (imageView_step hviews hstep).1
  have hsound' := sound_step hviews hstep hsound
  obtain rfl := Option.some.inj hstep.2
  have hlost := lost_join htokens hsound hjoining hlate hn
  obtain ⟨hviews'', hlost⟩ := lost_run hrest hviews' hsound' (by exact hset) hlost
  have hentry := hviews''.running n _ hlost.running
  have hloading := hviews''.imageView_running hlost.running
  exact ⟨congrArg WebImageView.image hentry, hloading⟩

end Lost

/-- Two views are set to one URL; the second one's handler is added when the download has
just ended. -/
def lateHandler : List (Event String String Bool) :=
  [.setImage false "cover", .io, .main, .start 0, .didComplete 0 none none (some "cover"),
    .work 0, .setImage true "cover", .io, .work 0, .main, .work 0]

theorem lateHandler_run : ∃ s : SDWebImage String String String Bool,
    (system Bool textCoders).Run (launched fun _ => none) lateHandler s ∧
      s.joining = some (1, 0) ∧ s.Download 0 Late ∧
      (∃ operation, s.operations[1]? = some operation ∧ operation.view = true ∧
        operation.url = "cover") ∧
      ∃ s', (system Bool textCoders).Run s [.join, .main] s' ∧
        (s'.views false).image = .image "cover" := by
  have hstep : ∀ {s s' : SDWebImage String String String Bool} {event},
      s.enabled event → some (s.next textCoders event) = some s' →
      (system Bool textCoders).Step s event s' := fun henabled hnext => ⟨henabled, hnext⟩
  refine ⟨_, .cons (hstep rfl rfl) <| .cons (hstep nofun rfl) <| .cons (hstep ⟨nofun, rfl⟩ rfl) <|
    .cons (hstep ⟨_, rfl, rfl⟩ rfl) <| .cons (hstep ⟨_, rfl, rfl⟩ rfl) <|
    .cons (hstep ⟨_, rfl, nofun⟩ rfl) <| .cons (hstep rfl rfl) <| .cons (hstep nofun rfl) <|
    .cons (hstep ⟨_, rfl, nofun⟩ rfl) <| .cons (hstep ⟨nofun, rfl⟩ rfl) <|
    .cons (hstep ⟨_, rfl, nofun⟩ rfl) <| .nil _, rfl, ⟨_, rfl, .inl rfl⟩, ⟨_, rfl, rfl, rfl⟩, _,
    .cons (hstep nofun rfl) <| .cons (hstep ⟨nofun, rfl⟩ rfl) <| .nil _, rfl⟩

theorem lost_load_first : ∃ s' : SDWebImage String String String Bool,
    (s'.views false).image = .image "cover" ∧ (s'.views true).image = .placeholder ∧
      s'.imageView true = .loading "cover" := by
  obtain ⟨s, hearlier, hjoining, hlate, ⟨operation, hn, hview, hurl⟩, s', hlater, hshown⟩ :=
    lateHandler_run
  have hlost := lost_load hearlier hjoining hlate hn hlater rfl
  rw [hview, hurl] at hlost
  exact ⟨s', hshown, hlost⟩

end SDWebImage

end HolyWater
