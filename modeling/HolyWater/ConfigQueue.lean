/-
The configuration a completion reads.

The SDK stores, activates and reads configurations by jobs of one serial queue;
the completions of fetches run on the main queue, one at a time.  The manager
starts an activation, does not wait for it, and reads right away; but a read
waits for its own job, and so for the activation queued before it.

* `Stage` — how far a completion has come, and which jobs of its own are queued;
* `invariant_run` — with no other activations or reads in the queue, along every
  run;
* `reads_one_version` — all reads of a successful completion see one version, no
  older than anything that was stored when the completion started,
  and it refreshes the view model as a single reading would.
-/
import HolyWater.EventSystem
import HolyWater.Refresh

namespace HolyWater

/-! ### What a completion does -/

/-- The view model that started a fetch. -/
inductive Caller where
  | library
  | recommended
  deriving DecidableEq, Repr

/-- What a completion asks of the SDK. -/
inductive Op where
  | activate
  | read (key : String)
  deriving DecidableEq, Repr

/-- `saveConfigValuesToLocalFiles` reads the values it saves. -/
def FirebaseRemoteConfigManager.saveConfigValuesToLocalFiles : List Op :=
  [.read "json_data", .read "details_carousel"]

/-- The manager's part of the completion. -/
def FirebaseRemoteConfigManager.ops (status : FetchStatus) : List Op :=
  if status = .success then .activate :: saveConfigValuesToLocalFiles else []

/-- The reads of the update functions, in order. -/
def Caller.updateOps : Caller → List Op
  | .library => [.read "json_data", .read "json_data"]
  | .recommended => [.read "details_carousel", .read "json_data"]

/-- The completion of a fetch.  The view model updates its lists if it is still
there and is not passed an error. -/
def completionOps (caller : Caller) (alive : Bool) (status : FetchStatus)
    (error : Option RemoteConfigError) : List Op :=
  FirebaseRemoteConfigManager.ops status ++
    if alive ∧ (FirebaseRemoteConfigManager.fetchRemoteConfig status error).2 = none
    then caller.updateOps else []

/-! ### The queues -/

/-- The jobs of the SDK's serial queue. -/
inductive Job where
  | store (fetch : ℕ) (caller : Caller) (config : Config)
  | activate
  | read (key : String)

/-- The job has been queued by a completion. -/
def Job.isOwn : Job → Bool
  | .store _ _ _ => false
  | _ => true

/-- How far a fetch has come; a stored configuration has its place in the
history of stored ones. -/
inductive FetchPhase where
  | requested
  | storing
  | stored (version : ℕ)
  | answered
  deriving DecidableEq, Repr

structure Fetch where
  caller : Caller
  phase : FetchPhase
  deriving DecidableEq, Repr

/-- A completion that waits on the main queue. -/
structure Completion where
  caller : Caller
  status : FetchStatus
  error : Option RemoteConfigError
  /-- The version this fetch stored, if it stored one. -/
  storedAt : Option ℕ
  deriving DecidableEq, Repr

/-- A read that has returned. -/
structure ConfigRead where
  key : String
  version : ℕ
  text : String
  deriving DecidableEq, Repr

/-- A completion that has been started. -/
structure Running where
  completion : Completion
  alive : Bool
  /-- How many configurations had been stored when it was started. -/
  base : ℕ
  ops : List Op
  /-- The read that blocks the main thread. -/
  blockedOn : Option String := none
  reads : List ConfigRead := []
  deriving DecidableEq, Repr

structure ConfigQueues where
  /-- The configurations stored so far, in this launch and earlier ones. -/
  stored : List Config
  /-- How many of them had been stored at the last activation. -/
  active : ℕ
  queue : List Job := []
  fetches : List Fetch := []
  waiting : List Completion := []
  running : Option Running := none
  finished : List Running := []

namespace ConfigQueues

/-- Version `v` of the configuration; nothing, before anything was stored. -/
def config (q : ConfigQueues) (v : ℕ) : Config :=
  if v = 0 then fun _ => none else q.stored[v - 1]?.getD fun _ => none

/-- The value of a read at this moment. -/
def value (q : ConfigQueues) (key : String) : String :=
  FirebaseRemoteConfigManager.getConfigValue (q.config q.active) key

/-- The job at the head of the queue runs. -/
def runJob (q : ConfigQueues) : Option ConfigQueues :=
  match q.queue with
  | [] => none
  | .store f caller config :: queue =>
    some { q with
      queue := queue
      stored := q.stored ++ [config]
      fetches := q.fetches.set f ⟨caller, .stored (q.stored.length + 1)⟩ }
  -- What was stored last becomes active, also if it was active before.
  | .activate :: queue => some { q with queue := queue, active := q.stored.length }
  | .read key :: queue =>
    some { q with
      queue := queue
      running := q.running.map fun r =>
        { r with blockedOn := none, reads := r.reads ++ [⟨key, q.active, q.value key⟩] } }

/-- A fetch is answered: its completion is enqueued on the main queue. -/
def answer (f : ℕ) (status : FetchStatus) (error : Option RemoteConfigError)
    (q : ConfigQueues) : Option ConfigQueues :=
  match q.fetches[f]? with
  -- Once its configuration is stored, a fetch can only succeed.
  | some ⟨caller, .stored version⟩ =>
    if status = .success ∧ error = none then
      some { q with
        fetches := q.fetches.set f ⟨caller, .answered⟩
        waiting := q.waiting ++ [⟨caller, status, error, some version⟩] }
    else none
  | some ⟨caller, .requested⟩ =>
    some { q with
      fetches := q.fetches.set f ⟨caller, .answered⟩
      waiting := q.waiting ++ [⟨caller, status, error, none⟩] }
  | _ => none

/-- The main queue, idle, takes up a completion. -/
def take (i : ℕ) (alive : Bool) (q : ConfigQueues) : Option ConfigQueues :=
  match q.running, q.waiting[i]? with
  | none, some completion =>
    some { q with
      waiting := q.waiting.eraseIdx i
      running := some {
        completion := completion
        alive := alive
        base := q.stored.length
        ops := completionOps completion.caller alive completion.status completion.error } }
  | _, _ => none

/-- The main thread goes on with the completion it has started: it queues an
activation, or a read that it then waits for, or is done. -/
def work (q : ConfigQueues) : Option ConfigQueues :=
  match q.running with
  | none => none
  | some r =>
    match r.blockedOn, r.ops with
    | some _, _ => none
    | none, [] => some { q with running := none, finished := q.finished ++ [r] }
    | none, .activate :: ops =>
      some { q with queue := q.queue ++ [.activate], running := some { r with ops := ops } }
    | none, .read key :: ops =>
      some { q with
        queue := q.queue ++ [.read key]
        running := some { r with ops := ops, blockedOn := some key } }

inductive Event where
  | fetch (caller : Caller)
  | respond (f : ℕ) (config : Config)
  | job
  | answer (f : ℕ) (status : FetchStatus) (error : Option RemoteConfigError)
  | take (i : ℕ) (alive : Bool)
  | work

/-- The server answers a fetch with a configuration, which is queued to be
stored. -/
def respond (f : ℕ) (config : Config) (q : ConfigQueues) : Option ConfigQueues :=
  match q.fetches[f]? with
  | some ⟨caller, .requested⟩ =>
    some { q with
      queue := q.queue ++ [.store f caller config]
      fetches := q.fetches.set f ⟨caller, .storing⟩ }
  | _ => none

def step (q : ConfigQueues) : Event → Option ConfigQueues
  | .fetch caller => some { q with fetches := q.fetches ++ [⟨caller, .requested⟩] }
  | .respond f config => q.respond f config
  | .job => q.runJob
  | .answer f status error => q.answer f status error
  | .take i alive => q.take i alive
  | .work => q.work

/-- Fetches, jobs and completions, in any interleaving. -/
def system : EventSystem ConfigQueues Event where
  enabled q event := (q.step event).isSome
  next := step

/-! ### How far a completion has come -/

/-- The jobs in the queue that completions have put there. -/
def ownJobs (q : ConfigQueues) : List Job := q.queue.filter Job.isOwn

/-- The read that blocks the main thread, as a job. -/
def awaited (r : Running) : List Job := (r.blockedOn.map Job.read).toList

/-- Nothing but reads is left to do. -/
def OnlyReads (ops : List Op) : Prop := ∃ keys : List String, ops = keys.map .read

/-- The read has returned what version `v` says. -/
def Sees (q : ConfigQueues) (v : ℕ) (read : ConfigRead) : Prop :=
  read.version = v ∧
    read.text = FirebaseRemoteConfigManager.getConfigValue (q.config v) read.key

/-- How far the completion has come: about to activate, with reads to follow;
its activation queued, before the read it waits for; or past its activation,
reading the active version. -/
inductive Stage (q : ConfigQueues) (r : Running) : Prop
  | starting (key : String) (keys : List String)
      (hops : r.ops = .activate :: (key :: keys).map .read)
      (hown : q.ownJobs = []) (hblocked : r.blockedOn = none) (hreads : r.reads = [])
  | activating (hops : OnlyReads r.ops) (hown : q.ownJobs = .activate :: awaited r)
      (hreads : r.reads = []) (hmore : r.blockedOn = none → r.ops ≠ [])
  | reading (hops : OnlyReads r.ops) (hown : q.ownJobs = awaited r)
      (hreads : r.completion.status = .success →
        r.base ≤ q.active ∧ ∀ read ∈ r.reads, q.Sees q.active read)

/-- The keys of the reads among the operations. -/
def keysOf (ops : List Op) : List String :=
  ops.filterMap fun
    | .activate => none
    | .read key => some key

/-- All that the completion has to do. -/
def program (r : Running) : List Op :=
  completionOps r.completion.caller r.alive r.completion.status r.completion.error

/-- What holds of a completion from its start to its end. -/
structure Progress (q : ConfigQueues) (r : Running) : Prop where
  base : r.base ≤ q.stored.length
  storedAt : ∀ u, r.completion.storedAt = some u → 0 < u ∧ u ≤ r.base
  keys : r.reads.map ConfigRead.key ++ r.blockedOn.toList ++ keysOf r.ops = keysOf (program r)

/-- The reads of the completion see one version, no older than anything stored
before it was started. -/
def OneVersion (q : ConfigQueues) (r : Running) : Prop :=
  ∃ v, r.base ≤ v ∧ v ≤ q.stored.length ∧ ∀ read ∈ r.reads, q.Sees v read

/-- Every version there is talk of has been stored. -/
structure Versions (q : ConfigQueues) : Prop where
  active : q.active ≤ q.stored.length
  fetches : ∀ fetch ∈ q.fetches, ∀ u, fetch.phase = .stored u → 0 < u ∧ u ≤ q.stored.length
  waiting : ∀ completion ∈ q.waiting, ∀ u, completion.storedAt = some u →
    0 < u ∧ u ≤ q.stored.length

/-- Only the completion that is running has jobs of its own in the queue. -/
structure Exclusive (q : ConfigQueues) : Prop where
  idle : q.running = none → q.ownJobs = []
  stage : ∀ r, q.running = some r → q.Stage r ∧ q.Progress r
  finished : ∀ r ∈ q.finished, q.Progress r ∧ r.blockedOn = none ∧ r.ops = [] ∧
    (r.completion.status = .success → q.OneVersion r)

/-! ### Versions stay what they are -/

section Mono

variable {q q' : ConfigQueues} {r : Running} {v : ℕ} {read : ConfigRead}

/-- Storing more configurations does not change the versions there are. -/
theorem config_eq (hstored : q.stored <+: q'.stored) (hv : v ≤ q.stored.length) :
    q'.config v = q.config v := by
  by_cases hzero : v = 0
  · rw [ConfigQueues.config, ConfigQueues.config, if_pos hzero, if_pos hzero]
  · obtain ⟨more, hmore⟩ := hstored
    rw [ConfigQueues.config, ConfigQueues.config, if_neg hzero, if_neg hzero, ← hmore,
      List.getElem?_append_left (by omega)]

theorem Sees.mono (h : q.Sees v read) (hstored : q.stored <+: q'.stored)
    (hv : v ≤ q.stored.length) : q'.Sees v read := by
  refine ⟨h.1, ?_⟩
  rw [config_eq hstored hv]
  exact h.2

theorem OneVersion.mono (h : q.OneVersion r) (hstored : q.stored <+: q'.stored) :
    q'.OneVersion r := by
  obtain ⟨v, hbase, hv, hreads⟩ := h
  exact ⟨v, hbase, hv.trans hstored.length_le, fun read hread =>
    (hreads read hread).mono hstored hv⟩

theorem Progress.mono (h : q.Progress r) (hstored : q.stored <+: q'.stored) : q'.Progress r :=
  ⟨h.base.trans hstored.length_le, h.storedAt, h.keys⟩

/-- A completion is as far as it was when neither its jobs nor the active
version have changed. -/
theorem Stage.mono (h : q.Stage r) (hstored : q.stored <+: q'.stored)
    (hactive : q.active ≤ q.stored.length) (hactive' : q'.active = q.active)
    (hown' : q'.ownJobs = q.ownJobs) : q'.Stage r := by
  cases h with
  | starting key keys hops hown hblocked hreads =>
    exact .starting key keys hops (hown'.trans hown) hblocked hreads
  | activating hops hown hreads hmore => exact .activating hops (hown'.trans hown) hreads hmore
  | reading hops hown hreads =>
    refine .reading hops (hown'.trans hown) fun hsuccess => ?_
    obtain ⟨hbase, hsees⟩ := hreads hsuccess
    rw [hactive']
    exact ⟨hbase, fun read hread => (hsees read hread).mono hstored hactive⟩

theorem Versions.mono (h : q.Versions) (hstored : q.stored <+: q'.stored)
    (hactive : q'.active ≤ q'.stored.length)
    (hfetches : ∀ fetch ∈ q'.fetches, fetch ∈ q.fetches ∨
      ∀ u, fetch.phase = .stored u → 0 < u ∧ u ≤ q'.stored.length)
    (hwaiting : ∀ completion ∈ q'.waiting, completion ∈ q.waiting ∨
      ∀ u, completion.storedAt = some u → 0 < u ∧ u ≤ q'.stored.length) : q'.Versions where
  active := hactive
  fetches fetch hfetch u hu := by
    rcases hfetches fetch hfetch with hold | hnew
    · obtain ⟨hpos, hle⟩ := h.fetches fetch hold u hu
      exact ⟨hpos, hle.trans hstored.length_le⟩
    · exact hnew u hu
  waiting completion hcompletion u hu := by
    rcases hwaiting completion hcompletion with hold | hnew
    · obtain ⟨hpos, hle⟩ := h.waiting completion hold u hu
      exact ⟨hpos, hle.trans hstored.length_le⟩
    · exact hnew u hu

/-- The finished completions keep what they have seen. -/
theorem Exclusive.finished_mono (h : q.Exclusive) (hstored : q.stored <+: q'.stored) :
    ∀ r ∈ q.finished, q'.Progress r ∧ r.blockedOn = none ∧ r.ops = [] ∧
      (r.completion.status = .success → q'.OneVersion r) := by
  intro r hr
  obtain ⟨hprogress, hblocked, hops, hversion⟩ := h.finished r hr
  exact ⟨hprogress.mono hstored, hblocked, hops, fun hsuccess => (hversion hsuccess).mono hstored⟩

/-- Events outside the main thread leave its completion where it is. -/
theorem Exclusive.mono (h : q.Exclusive) (hstored : q.stored <+: q'.stored)
    (hactive : q.active ≤ q.stored.length) (hactive' : q'.active = q.active)
    (hrunning : q'.running = q.running) (hown : q'.ownJobs = q.ownJobs)
    (hfinished : q'.finished = q.finished) : q'.Exclusive where
  idle hidle := by
    rw [hrunning] at hidle
    rw [hown, h.idle hidle]
  stage r hr := by
    rw [hrunning] at hr
    obtain ⟨hstage, hprogress⟩ := h.stage r hr
    exact ⟨hstage.mono hstored hactive hactive' hown, hprogress.mono hstored⟩
  finished := by
    rw [hfinished]
    exact h.finished_mono hstored

end Mono

/-! ### The steps, inverted -/

section Steps

variable {q q' : ConfigQueues} {f i : ℕ} {config : Config} {status : FetchStatus}
  {error : Option RemoteConfigError} {alive : Bool}

theorem respond_cases (h : q.respond f config = some q') :
    ∃ caller, q' = { q with
      queue := q.queue ++ [.store f caller config]
      fetches := q.fetches.set f ⟨caller, .storing⟩ } := by
  rw [respond] at h
  split at h
  · rename_i caller _
    exact ⟨caller, (Option.some.inj h).symm⟩
  · exact absurd h (by simp)

theorem runJob_cases (h : q.runJob = some q') :
    (∃ f caller config queue, q.queue = .store f caller config :: queue ∧ q' = { q with
      queue := queue
      stored := q.stored ++ [config]
      fetches := q.fetches.set f ⟨caller, .stored (q.stored.length + 1)⟩ }) ∨
    (∃ queue, q.queue = .activate :: queue ∧
      q' = { q with queue := queue, active := q.stored.length }) ∨
    (∃ key queue, q.queue = .read key :: queue ∧ q' = { q with
      queue := queue
      running := q.running.map fun r =>
        { r with blockedOn := none, reads := r.reads ++ [⟨key, q.active, q.value key⟩] } }) := by
  rw [runJob] at h
  split at h
  · exact absurd h (by simp)
  · rename_i f caller config queue hqueue
    exact .inl ⟨f, caller, config, queue, hqueue, (Option.some.inj h).symm⟩
  · rename_i queue hqueue
    exact .inr (.inl ⟨queue, hqueue, (Option.some.inj h).symm⟩)
  · rename_i key queue hqueue
    exact .inr (.inr ⟨key, queue, hqueue, (Option.some.inj h).symm⟩)

/-- A fetch that has stored a configuration is answered with success. -/
theorem answer_cases (h : q.answer f status error = some q') :
    ∃ caller storedAt, q' = { q with
        fetches := q.fetches.set f ⟨caller, .answered⟩
        waiting := q.waiting ++ [⟨caller, status, error, storedAt⟩] } ∧
      ∀ u, storedAt = some u → ⟨caller, .stored u⟩ ∈ q.fetches := by
  rw [answer] at h
  split at h
  · rename_i caller version hfetch
    split at h
    · refine ⟨caller, some version, (Option.some.inj h).symm, fun u hu => ?_⟩
      obtain rfl := Option.some.inj hu
      exact List.mem_of_getElem? hfetch
    · exact absurd h (by simp)
  · rename_i caller _
    exact ⟨caller, none, (Option.some.inj h).symm, fun u hu => absurd hu (by simp)⟩
  · exact absurd h (by simp)

theorem take_cases (h : q.take i alive = some q') :
    ∃ completion, q.running = none ∧ completion ∈ q.waiting ∧ q' = { q with
      waiting := q.waiting.eraseIdx i
      running := some {
        completion := completion
        alive := alive
        base := q.stored.length
        ops := completionOps completion.caller alive completion.status completion.error } } := by
  rw [take] at h
  split at h
  · rename_i completion hrunning hwaiting
    exact ⟨completion, hrunning, List.mem_of_getElem? hwaiting, (Option.some.inj h).symm⟩
  · exact absurd h (by simp)

theorem work_cases (h : q.work = some q') :
    ∃ r, q.running = some r ∧ r.blockedOn = none ∧
      ((r.ops = [] ∧ q' = { q with running := none, finished := q.finished ++ [r] }) ∨
      (∃ ops, r.ops = .activate :: ops ∧ q' = { q with
        queue := q.queue ++ [.activate]
        running := some { r with ops := ops } }) ∨
      (∃ key ops, r.ops = .read key :: ops ∧ q' = { q with
        queue := q.queue ++ [.read key]
        running := some { r with ops := ops, blockedOn := some key } })) := by
  rw [work] at h
  split at h
  · exact absurd h (by simp)
  · rename_i r hrunning
    split at h
    · exact absurd h (by simp)
    · rename_i hblocked hops
      exact ⟨r, hrunning, hblocked, .inl ⟨hops, (Option.some.inj h).symm⟩⟩
    · rename_i ops hblocked hops
      exact ⟨r, hrunning, hblocked, .inr (.inl ⟨ops, hops, (Option.some.inj h).symm⟩)⟩
    · rename_i key ops hblocked hops
      exact ⟨r, hrunning, hblocked, .inr (.inr ⟨key, ops, hops, (Option.some.inj h).symm⟩)⟩

/-! ### What the steps keep -/

/-- The history of stored configurations only grows. -/
theorem versions_step {event : Event} (h : q.Versions) (hstep : q.step event = some q') :
    q'.Versions ∧ q.stored <+: q'.stored := by
  cases event with
  | fetch caller =>
    obtain rfl := Option.some.inj hstep
    refine ⟨h.mono List.prefix_rfl h.active (fun fetch hfetch => ?_) fun _ => .inl,
      List.prefix_rfl⟩
    rcases List.mem_append.mp hfetch with hold | hnew
    · exact .inl hold
    · rw [List.mem_singleton.mp hnew]
      exact .inr (by simp)
  | respond f config =>
    obtain ⟨caller, rfl⟩ := respond_cases hstep
    refine ⟨h.mono List.prefix_rfl h.active (fun fetch hfetch => ?_) fun _ => .inl,
      List.prefix_rfl⟩
    rcases List.mem_or_eq_of_mem_set hfetch with hold | rfl
    · exact .inl hold
    · exact .inr (by simp)
  | job =>
    rcases runJob_cases hstep with
      ⟨f, caller, config, queue, -, rfl⟩ | ⟨queue, -, rfl⟩ | ⟨key, queue, -, rfl⟩
    · -- A store adds a version, and the numbers of the earlier ones still name them.
      have hstored : q.stored <+: q.stored ++ [config] := List.prefix_append _ _
      refine ⟨h.mono hstored (h.active.trans hstored.length_le) (fun fetch hfetch => ?_)
        fun _ => .inl, hstored⟩
      rcases List.mem_or_eq_of_mem_set hfetch with hold | rfl
      · exact .inl hold
      · exact .inr (by simp)
    · exact ⟨h.mono List.prefix_rfl le_rfl (fun _ => .inl) fun _ => .inl, List.prefix_rfl⟩
    · exact ⟨h.mono List.prefix_rfl h.active (fun _ => .inl) fun _ => .inl, List.prefix_rfl⟩
  | answer f status error =>
    obtain ⟨caller, storedAt, rfl, hstoredAt⟩ := answer_cases hstep
    refine ⟨h.mono List.prefix_rfl h.active (fun fetch hfetch => ?_)
      (fun completion hcompletion => ?_), List.prefix_rfl⟩
    · rcases List.mem_or_eq_of_mem_set hfetch with hold | rfl
      · exact .inl hold
      · exact .inr (by simp)
    · rcases List.mem_append.mp hcompletion with hold | hnew
      · exact .inl hold
      · rw [List.mem_singleton.mp hnew]
        exact .inr fun u hu => h.fetches _ (hstoredAt u hu) u rfl
  | take i alive =>
    obtain ⟨completion, -, -, rfl⟩ := take_cases hstep
    exact ⟨h.mono List.prefix_rfl h.active (fun _ => .inl)
      fun _ hmem => .inl (List.mem_of_mem_eraseIdx hmem), List.prefix_rfl⟩
  | work =>
    obtain ⟨r, -, -, ⟨-, rfl⟩ | ⟨ops, -, rfl⟩ | ⟨key, ops, -, rfl⟩⟩ := work_cases hstep <;>
      exact ⟨h.mono List.prefix_rfl h.active (fun _ => .inl) fun _ => .inl, List.prefix_rfl⟩

theorem onlyReads_updateOps (caller : Caller) (p : Prop) [Decidable p] :
    OnlyReads (if p then caller.updateOps else []) := by
  split
  · cases caller
    · exact ⟨["json_data", "json_data"], rfl⟩
    · exact ⟨["details_carousel", "json_data"], rfl⟩
  · exact ⟨[], rfl⟩

/-- A completion starts with an activation and reads on, or only reads. -/
theorem stage_take (hidle : q.ownJobs = []) {r : Running} (hops : r.ops = program r)
    (hblocked : r.blockedOn = none) (hreads : r.reads = []) : q.Stage r := by
  obtain ⟨keys, hkeys⟩ := onlyReads_updateOps r.completion.caller (r.alive ∧
    (FirebaseRemoteConfigManager.fetchRemoteConfig r.completion.status r.completion.error).2 = none)
  rw [program, completionOps, hkeys, FirebaseRemoteConfigManager.ops] at hops
  by_cases hsuccess : r.completion.status = .success
  · rw [if_pos hsuccess] at hops
    exact .starting "json_data" ("details_carousel" :: keys) hops hidle hblocked hreads
  · rw [if_neg hsuccess, List.nil_append] at hops
    refine .reading ⟨keys, hops⟩ ?_ fun h => absurd h hsuccess
    rw [hidle, awaited, hblocked]
    rfl

theorem exclusive_take (h : q.Exclusive) (hversions : q.Versions)
    (hstep : q.take i alive = some q') : q'.Exclusive := by
  obtain ⟨completion, hrunning, hmem, rfl⟩ := take_cases hstep
  refine ⟨fun hnone => absurd hnone (by simp), fun r hr => ?_, h.finished_mono List.prefix_rfl⟩
  obtain rfl := Option.some.inj hr
  refine ⟨stage_take ?_ rfl rfl rfl,
    ⟨le_rfl, fun u hu => hversions.waiting completion hmem u hu, rfl⟩⟩
  exact h.idle hrunning

/-- The activation that runs is that of the running completion, which has not
read anything yet; from now on it reads what is active. -/
theorem exclusive_activate (h : q.Exclusive) {queue : List Job}
    (hqueue : q.queue = .activate :: queue) :
    Exclusive { q with queue := queue, active := q.stored.length } := by
  have hown : q.ownJobs = .activate :: queue.filter Job.isOwn := by
    rw [ownJobs, hqueue]
    rfl
  refine ⟨fun hnone => ?_, fun r hr => ?_, h.finished_mono List.prefix_rfl⟩
  · exact absurd (hown.symm.trans (h.idle hnone)) (by simp)
  · obtain ⟨hstage, hprogress⟩ := h.stage r hr
    refine ⟨?_, ⟨hprogress.base, hprogress.storedAt, hprogress.keys⟩⟩
    cases hstage with
    | starting key keys hops hown' hblocked hreads =>
      exact absurd (hown.symm.trans hown') (by simp)
    | activating hops hown' hreads hmore =>
      -- Everything stored so far is in the version that is active now.
      have hrest := (List.cons.inj (hown.symm.trans hown')).2
      refine .reading hops hrest fun _ => ⟨hprogress.base, fun read hread => ?_⟩
      rw [hreads] at hread
      exact absurd hread (by simp)
    | reading hops hown' hreads =>
      -- In this stage the only job that may be queued is a read.
      rw [hown, awaited] at hown'
      cases hblocked : r.blockedOn with
      | none => exact absurd hown' (by simp [hblocked])
      | some key => exact absurd hown' (by simp [hblocked])

/-- The read that runs is the one the running completion waits for. -/
theorem exclusive_read (h : q.Exclusive) {key : String} {queue : List Job}
    (hqueue : q.queue = .read key :: queue) :
    Exclusive { q with
      queue := queue
      running := q.running.map fun r =>
        { r with blockedOn := none, reads := r.reads ++ [⟨key, q.active, q.value key⟩] } } := by
  have hown : q.ownJobs = .read key :: queue.filter Job.isOwn := by
    rw [ownJobs, hqueue]
    rfl
  refine ⟨fun hnone => ?_, fun r' hr' => ?_, h.finished_mono List.prefix_rfl⟩
  · have hidle : q.running = none := by simpa using hnone
    exact absurd (hown.symm.trans (h.idle hidle)) (by simp)
  · obtain ⟨r, hr, rfl⟩ := Option.map_eq_some_iff.mp hr'
    obtain ⟨hstage, hprogress⟩ := h.stage r hr
    cases hstage with
    | starting key' keys hops hown' hblocked hreads =>
      exact absurd (hown.symm.trans hown') (by simp)
    | activating hops hown' hreads hmore =>
      exact absurd (hown.symm.trans hown') (by simp)
    | reading hops hown' hreads =>
      rw [hown, awaited] at hown'
      cases hblocked : r.blockedOn with
      | none => exact absurd hown' (by simp [hblocked])
      | some key' =>
        -- No activation came between, so this read sees what the earlier ones saw.
        rw [hblocked] at hown'
        obtain ⟨hkey, hrest⟩ := List.cons.inj hown'
        obtain rfl : key = key' := by simpa using hkey
        refine ⟨.reading hops hrest fun hsuccess => ?_,
          ⟨hprogress.base, hprogress.storedAt, ?_⟩⟩
        · obtain ⟨hbase, hsees⟩ := hreads hsuccess
          refine ⟨hbase, fun read hread => ?_⟩
          rcases List.mem_append.mp hread with hold | hnew
          · exact hsees read hold
          · rw [List.mem_singleton.mp hnew]
            exact ⟨rfl, rfl⟩
        · show (r.reads ++ [_]).map ConfigRead.key ++ [] ++ keysOf r.ops = keysOf (program r)
          rw [← hprogress.keys, hblocked]
          simp

theorem awaited_of_not_blocked {r : Running} (hblocked : r.blockedOn = none) :
    awaited r = [] := by
  rw [awaited, hblocked]
  rfl

/-- A completion that is done is past its activation and waits for nothing. -/
theorem exclusive_finish {r : Running} (h : q.Exclusive) (hversions : q.Versions)
    (hr : q.running = some r) (hblocked : r.blockedOn = none) (hops : r.ops = []) :
    Exclusive { q with running := none, finished := q.finished ++ [r] } := by
  obtain ⟨hstage, hprogress⟩ := h.stage r hr
  have hdone : q.ownJobs = [] ∧ (r.completion.status = .success → q.OneVersion r) := by
    cases hstage with
    | starting key keys hops' hown hblocked' hreads =>
      exact absurd (hops.symm.trans hops') (by simp)
    | activating hops' hown hreads hmore => exact absurd hops (hmore hblocked)
    | reading hops' hown hreads =>
      refine ⟨hown.trans (awaited_of_not_blocked hblocked), fun hsuccess => ?_⟩
      obtain ⟨hbase, hsees⟩ := hreads hsuccess
      exact ⟨q.active, hbase, hversions.active, hsees⟩
  refine ⟨fun _ => hdone.1, fun r' hr' => absurd hr' (by simp), fun r' hr' => ?_⟩
  rcases List.mem_append.mp hr' with hold | hnew
  · refine h.finished_mono ?_ r' hold
    exact List.prefix_rfl
  · rw [List.mem_singleton.mp hnew]
    exact ⟨⟨hprogress.base, hprogress.storedAt, hprogress.keys⟩, hblocked, hops, hdone.2⟩

/-- Only a completion that is starting has an activation to queue. -/
theorem exclusive_queueActivate {r : Running} {ops : List Op} (h : q.Exclusive)
    (hr : q.running = some r) (hblocked : r.blockedOn = none) (hops : r.ops = .activate :: ops) :
    Exclusive { q with
      queue := q.queue ++ [.activate]
      running := some { r with ops := ops } } := by
  obtain ⟨hstage, hprogress⟩ := h.stage r hr
  have hnotReads : ¬ OnlyReads r.ops := by
    rintro ⟨keys, hkeys⟩
    rw [hops] at hkeys
    cases keys <;> exact absurd hkeys (by simp)
  refine ⟨fun hnone => absurd hnone (by simp), fun r' hr' => ?_, h.finished_mono List.prefix_rfl⟩
  obtain rfl := Option.some.inj hr'
  cases hstage with
  | starting key keys hops' hown hblocked' hreads =>
    obtain ⟨-, hrest⟩ := List.cons.inj (hops.symm.trans hops')
    refine ⟨.activating ⟨key :: keys, hrest⟩ ?_ hreads fun _ => ?_,
      ⟨hprogress.base, hprogress.storedAt, ?_⟩⟩
    · show (q.queue ++ [Job.activate]).filter Job.isOwn = .activate :: awaited r
      rw [List.filter_append, show q.queue.filter Job.isOwn = [] from hown,
        awaited_of_not_blocked hblocked]
      rfl
    · show ops ≠ []
      rw [hrest]
      simp
    · rw [show keysOf (program { r with ops := ops }) = keysOf (program r) from rfl,
        ← hprogress.keys, hops]
      rfl
  | activating hops' hown hreads hmore => exact absurd hops' hnotReads
  | reading hops' hown hreads => exact absurd hops' hnotReads

/-- A read is queued behind the activation of the same completion, or on its
own. -/
theorem exclusive_queueRead {r : Running} {key : String} {ops : List Op} (h : q.Exclusive)
    (hr : q.running = some r) (hblocked : r.blockedOn = none) (hops : r.ops = .read key :: ops) :
    Exclusive { q with
      queue := q.queue ++ [.read key]
      running := some { r with ops := ops, blockedOn := some key } } := by
  obtain ⟨hstage, hprogress⟩ := h.stage r hr
  have hprogress' : Progress { q with
      queue := q.queue ++ [.read key]
      running := some { r with ops := ops, blockedOn := some key } }
      { r with ops := ops, blockedOn := some key } := by
    refine ⟨hprogress.base, hprogress.storedAt, ?_⟩
    rw [show keysOf (program { r with ops := ops, blockedOn := some key }) = keysOf (program r)
      from rfl, ← hprogress.keys, hblocked, hops]
    simp [keysOf]
  have hrest : OnlyReads r.ops → OnlyReads ops := by
    rintro ⟨keys, hkeys⟩
    rw [hops] at hkeys
    cases keys with
    | nil => exact absurd hkeys (by simp)
    | cons key' keys => exact ⟨keys, (List.cons.inj hkeys).2⟩
  -- The read goes behind what the caller has queued already.
  have hqueue : ∀ jobs, q.ownJobs = jobs ++ awaited r →
      (q.queue ++ [Job.read key]).filter Job.isOwn = jobs ++ [Job.read key] := by
    intro jobs hown
    rw [awaited_of_not_blocked hblocked, List.append_nil] at hown
    rw [List.filter_append, show q.queue.filter Job.isOwn = jobs from hown]
    rfl
  refine ⟨fun hnone => absurd hnone (by simp), fun r' hr' => ?_, h.finished_mono List.prefix_rfl⟩
  obtain rfl := Option.some.inj hr'
  -- The stage stays: a read is queued while activating, or between two reads.
  cases hstage with
  | starting key' keys hops' hown hblocked' hreads =>
    exact absurd (hops.symm.trans hops') (by simp)
  | activating hops' hown hreads hmore =>
    exact ⟨.activating (hrest hops') (hqueue [.activate] hown) hreads
      fun hnone => absurd hnone (by simp), hprogress'⟩
  | reading hops' hown hreads =>
    exact ⟨.reading (hrest hops') (hqueue [] hown) hreads, hprogress'⟩

theorem exclusive_work (h : q.Exclusive) (hversions : q.Versions) (hstep : q.work = some q') :
    q'.Exclusive := by
  obtain ⟨r, hr, hblocked, ⟨hops, rfl⟩ | ⟨ops, hops, rfl⟩ | ⟨key, ops, hops, rfl⟩⟩ :=
    work_cases hstep
  · exact exclusive_finish h hversions hr hblocked hops
  · exact exclusive_queueActivate h hr hblocked hops
  · exact exclusive_queueRead h hr hblocked hops

/-- Each event keeps other jobs out of the way of the running completion. -/
theorem exclusive_step {event : Event} (h : q.Exclusive) (hversions : q.Versions)
    (hstep : q.step event = some q') : q'.Exclusive := by
  cases event with
  | fetch caller =>
    obtain rfl := Option.some.inj hstep
    exact h.mono List.prefix_rfl hversions.active rfl rfl rfl rfl
  | respond f config =>
    obtain ⟨caller, rfl⟩ := respond_cases hstep
    refine h.mono List.prefix_rfl hversions.active rfl rfl ?_ rfl
    show (q.queue ++ [Job.store f caller config]).filter Job.isOwn = q.queue.filter Job.isOwn
    simp [Job.isOwn]
  | job =>
    rcases runJob_cases hstep with
      ⟨f, caller, config, queue, hqueue, rfl⟩ | ⟨queue, hqueue, rfl⟩ | ⟨key, queue, hqueue, rfl⟩
    · refine h.mono (List.prefix_append _ _) hversions.active rfl rfl ?_ rfl
      show queue.filter Job.isOwn = q.queue.filter Job.isOwn
      rw [hqueue]
      rfl
    · exact exclusive_activate h hqueue
    · exact exclusive_read h hqueue
  | answer f status error =>
    obtain ⟨caller, storedAt, rfl, -⟩ := answer_cases hstep
    exact h.mono List.prefix_rfl hversions.active rfl rfl rfl rfl
  | take i alive => exact exclusive_take h hversions hstep
  | work => exact exclusive_work h hversions hstep

end Steps

/-! ### Along a run -/

section Runs

variable {q : ConfigQueues} {r : Running} {activated more : List Config} {events : List Event}

/-- The queues at launch: an earlier launch may have activated some of the
configurations it stored, and left others. -/
def launched (activated more : List Config) : ConfigQueues where
  stored := activated ++ more
  active := activated.length

theorem invariant_run (hrun : system.Run (launched activated more) events q) :
    q.Versions ∧ q.Exclusive := by
  refine hrun.invariant (I := fun q => q.Versions ∧ q.Exclusive) ?_ ⟨⟨?_, ?_, ?_⟩, ⟨?_, ?_, ?_⟩⟩
  · intro q event q' h hstep
    exact ⟨(versions_step h.1 hstep.2).1, exclusive_step h.2 h.1 hstep.2⟩
  · show activated.length ≤ (activated ++ more).length
    rw [List.length_append]
    omega
  · intro fetch hfetch
    exact absurd hfetch (by simp [launched])
  · intro completion hcompletion
    exact absurd hcompletion (by simp [launched])
  · intro _
    rfl
  · intro r hr
    exact absurd hr (by simp [launched])
  · intro r hr
    exact absurd hr (by simp [launched])

/-- Also a completion that is still running has seen one version so far. -/
theorem Stage.oneVersion (h : q.Stage r) (hprogress : q.Progress r) (hversions : q.Versions)
    (hsuccess : r.completion.status = .success) : q.OneVersion r := by
  cases h with
  | starting key keys hops hown hblocked hreads =>
    refine ⟨r.base, le_rfl, hprogress.base, fun read hread => ?_⟩
    rw [hreads] at hread
    exact absurd hread (by simp)
  | activating hops hown hreads hmore =>
    refine ⟨r.base, le_rfl, hprogress.base, fun read hread => ?_⟩
    rw [hreads] at hread
    exact absurd hread (by simp)
  | reading hops hown hreads =>
    obtain ⟨hbase, hsees⟩ := hreads hsuccess
    exact ⟨q.active, hbase, hversions.active, hsees⟩

/-- A finished completion has made all its reads. -/
theorem keys_of_finished (h : q.Exclusive) (hr : r ∈ q.finished) :
    r.reads.map ConfigRead.key = keysOf (program r) := by
  obtain ⟨hprogress, hblocked, hops, -⟩ := h.finished r hr
  rw [← hprogress.keys, hblocked, hops]
  simp [keysOf]

/-- What a finished completion has read, in terms of the version it has seen. -/
theorem texts_of_finished (h : q.Exclusive) (hr : r ∈ q.finished) {v : ℕ}
    (hreads : ∀ read ∈ r.reads, q.Sees v read) : r.reads.map ConfigRead.text =
      (keysOf (program r)).map (FirebaseRemoteConfigManager.getConfigValue (q.config v)) := by
  rw [← keys_of_finished h hr, List.map_map]
  exact List.map_congr_left fun read hread => (hreads read hread).2

/-- The keys of a completion that refreshes its view model: the values saved,
then what the update functions read. -/
theorem keysOf_program (hsuccess : r.completion.status = .success) (halive : r.alive = true) :
    keysOf (program r) =
      ["json_data", "details_carousel"] ++ keysOf r.completion.caller.updateOps := by
  rw [program, completionOps, hsuccess, halive, FirebaseRemoteConfigManager.ops, if_pos rfl,
    if_pos ⟨rfl, rfl⟩]
  rfl

/-- Updating the lists of the view model with the two texts that the completion has read
last gives what a single reading of version `v` would. -/
def RefreshedAtOnce (q : ConfigQueues) (v : ℕ) (r : Running) : Prop :=
  ∃ saved₁ saved₂ text₁ text₂,
    r.reads.map ConfigRead.text = [saved₁, saved₂, text₁, text₂] ∧
    (r.completion.caller = .library → ∀ S vm,
      LibraryViewModel.fetchRemoteConfig S
          (FirebaseRemoteConfigManager.getConfigValue (q.config v)) (some vm) none =
        (some ((vm.updateBooks S fun _ => text₁).updateBanners S fun _ => text₂), none)) ∧
    (r.completion.caller = .recommended → ∀ S vm,
      RecommendedViewModel.fetchRemoteConfig S
          (FirebaseRemoteConfigManager.getConfigValue (q.config v)) (some vm) none =
        (some ((vm.updateCarousel S fun _ => text₁).updateRecommended S fun _ => text₂), none))

/-- A completion refreshes its view model as a single reading would: the update
functions read one after the other, and other fetches may store configurations in
between. -/
theorem Exclusive.refreshedAtOnce (h : q.Exclusive) (hr : r ∈ q.finished)
    (hsuccess : r.completion.status = .success) (halive : r.alive = true) {v : ℕ}
    (hreads : ∀ read ∈ r.reads, q.Sees v read) : q.RefreshedAtOnce v r := by
  have htexts := texts_of_finished h hr hreads
  rw [keysOf_program hsuccess halive] at htexts
  cases hcaller : r.completion.caller with
  | library =>
    rw [hcaller] at htexts
    exact ⟨_, _, _, _, htexts, fun _ S vm => rfl,
      fun hother => absurd (hcaller.symm.trans hother) (by simp)⟩
  | recommended =>
    rw [hcaller] at htexts
    exact ⟨_, _, _, _, htexts, fun hother => absurd (hcaller.symm.trans hother) (by simp),
      fun _ S vm => rfl⟩

/-- **A successful completion reads one configuration.**  In every run, whether
it is still running or finished, all its reads so far see one version: no older
than any configuration stored before it was started, in particular than the one
its own fetch stored, and then a stored one.  A finished completion has made all its
reads, and has refreshed its view model as a single reading of that version would. -/
theorem reads_one_version (hrun : system.Run (launched activated more) events q) :
    (∀ r, q.running = some r ∨ r ∈ q.finished → r.completion.status = .success →
      ∃ v, r.base ≤ v ∧ v ≤ q.stored.length ∧
        (∀ u, r.completion.storedAt = some u → 0 < u ∧ u ≤ v) ∧
        (∀ read ∈ r.reads, read.version = v ∧
          read.text = FirebaseRemoteConfigManager.getConfigValue (q.config v) read.key) ∧
        (r ∈ q.finished → r.alive = true → q.RefreshedAtOnce v r)) ∧
    ∀ r ∈ q.finished, r.reads.map ConfigRead.key = keysOf (program r) := by
  obtain ⟨hversions, hexclusive⟩ := invariant_run hrun
  refine ⟨fun r hr hsuccess => ?_, fun r => keys_of_finished hexclusive⟩
  have hboth : q.Progress r ∧ q.OneVersion r := by
    rcases hr with hrunning | hfinished
    · obtain ⟨hstage, hprogress⟩ := hexclusive.stage r hrunning
      exact ⟨hprogress, hstage.oneVersion hprogress hversions hsuccess⟩
    · obtain ⟨hprogress, -, -, hversion⟩ := hexclusive.finished r hfinished
      exact ⟨hprogress, hversion hsuccess⟩
  obtain ⟨hprogress, v, hbase, hv, hreads⟩ := hboth
  refine ⟨v, hbase, hv, fun u hu => ?_, hreads, fun hfinished halive =>
    hexclusive.refreshedAtOnce hfinished hsuccess halive hreads⟩
  obtain ⟨hpos, hle⟩ := hprogress.storedAt u hu
  exact ⟨hpos, hle.trans hbase⟩

/-- Two fetches of the library overlap.  The first stores a configuration, and
before its completion is taken up the second has stored another one: the first
completion saves and shows the newer one. -/
theorem reads_one_version_newer :
    ∃ q, system.Run (launched [] []) [.fetch .library, .fetch .library,
        .respond 0 fun _ => some "old", .respond 1 fun _ => some "new", .job,
        .answer 0 .success none, .job, .take 0 true, .work, .work, .job, .job,
        .work, .job, .work, .job, .work, .job, .work] q ∧
      ∃ r ∈ q.finished, r.completion.storedAt = some 1 ∧
        r.reads = [⟨"json_data", 2, "new"⟩, ⟨"details_carousel", 2, "new"⟩,
          ⟨"json_data", 2, "new"⟩, ⟨"json_data", 2, "new"⟩] ∧
        ∃ v, r.base ≤ v ∧ v ≤ q.stored.length ∧
          (∀ u, r.completion.storedAt = some u → 0 < u ∧ u ≤ v) ∧
          (∀ read ∈ r.reads, read.version = v ∧
            read.text = FirebaseRemoteConfigManager.getConfigValue (q.config v) read.key) ∧
          q.RefreshedAtOnce v r := by
  suffices h : ∃ q, system.Run (launched [] []) [.fetch .library, .fetch .library,
      .respond 0 fun _ => some "old", .respond 1 fun _ => some "new", .job,
      .answer 0 .success none, .job, .take 0 true, .work, .work, .job, .job,
      .work, .job, .work, .job, .work, .job, .work] q ∧
      ∃ r ∈ q.finished, r.completion.status = .success ∧ r.alive = true ∧
        r.completion.storedAt = some 1 ∧
        r.reads = [⟨"json_data", 2, "new"⟩, ⟨"details_carousel", 2, "new"⟩,
          ⟨"json_data", 2, "new"⟩, ⟨"json_data", 2, "new"⟩] by
    obtain ⟨q, hrun, r, hr, hsuccess, halive, hstored, hreads⟩ := h
    obtain ⟨v, hbase, hv, hstoredAt, hsees, hrefreshed⟩ :=
      (reads_one_version hrun).1 r (.inr hr) hsuccess
    exact ⟨q, hrun, r, hr, hstored, hreads, v, hbase, hv, hstoredAt, hsees,
      hrefreshed hr halive⟩
  refine ⟨?q, ?run, ?reads⟩
  case run =>
    iterate 19 refine .cons ⟨rfl, rfl⟩ ?_
    exact .nil _
  case reads => exact ⟨_, List.mem_singleton_self _, rfl, rfl, rfl, rfl⟩

end Runs

end ConfigQueues

end HolyWater
