/-
The client of the remote configuration, across launches.

The jobs of the SDK's serial queue register defaults, build requests, apply
responses and activate; the database executes its operations on a queue of its
own, and the program may be killed at any moment.  What the app loads when it is
started again is what the database had executed by then.

Applying a response is a job in two halves: the content is updated first, and the
ETag and the metadata are saved after that.

* `restart_drained` — once the database has caught up, a restart changes nothing
  that can be read;
* `restart_part` — whenever the program is killed, what is loaded of a
  configuration is part of that configuration at one earlier moment;
* `source_configValueForKey` — every value is marked with the source it is read from.
-/
import HolyWater.ConfigContent

namespace HolyWater

/-- `firebase`, for the default app. -/
def FIRNamespace : String := "firebase:__FIRAPP_DEFAULT"

theorem storable_FIRNamespace : Storable FIRNamespace := by decide

/-- The body of a response. -/
inductive ResponseBody (P : Type) where
  | noData
  | notJSON
  | serverError
  | config (response : FetchResponse P)

/-- What the network task returns. -/
structure NetworkResult (P : Type) where
  /-- There is an error, or the status code is not 200. -/
  failed : Bool
  body : ResponseBody P
  eTag : Option String

/-- The instance of the app, with its content, settings and requests. -/
structure FIRRemoteConfig (P : Type) where
  store : WriteBehind RCNConfigContent Database DBOperation := ⟨{}, {}, []⟩
  activePersonalization : NSDictionary P := ∅
  fetchedPersonalization : NSDictionary P := ∅
  /-- The table of the personalization metadata, which is written at once. -/
  personalizationTable : RCNDBSource → NSDictionary P := fun _ => ∅
  lastApplyTimeInterval : ℚ := 0
  /-- Kept in the user defaults, and so across launches. -/
  lastETag : Option String := none
  lastETagUpdateTime : ℚ := 0
  /-- The ETag that the fetch in progress has sent. -/
  request : Option (Option String) := none
  /-- What the network has returned, still to be handled by jobs. -/
  results : List (NetworkResult P) := []
  /-- The ETag of the response whose job has come half way. -/
  saving : Option (Option String) := none

namespace FIRRemoteConfig

variable {P : Type} (bundleIdentifier : String)

/-- What is in memory of a configuration. -/
def config (source : RCNDBSource) (s : FIRRemoteConfig P) : NSDictionary FIRRemoteConfigValue :=
  s.store.memory.configForNamespace FIRNamespace source

/-- What a restart would load of it. -/
def stored (source : RCNDBSource) (s : FIRRemoteConfig P) : NSDictionary FIRRemoteConfigValue :=
  s.store.disk.holds bundleIdentifier FIRNamespace source

/-- The content changes, and operations are queued. -/
def update (changed : RCNConfigContent × List DBOperation) (s : FIRRemoteConfig P) :
    FIRRemoteConfig P :=
  { s with store := s.store.write changed.1 changed.2 }

/-- Operations on the metadata table are queued. -/
def enqueue (ops : List DBOperation) (s : FIRRemoteConfig P) : FIRRemoteConfig P :=
  { s with store := s.store.write s.store.memory ops }

/-- The job of `setDefaults`. -/
def setDefaults (defaults : NSDictionary DefaultValue) (keys : List String)
    (s : FIRRemoteConfig P) : FIRRemoteConfig P :=
  s.update (s.store.memory.copyDefaults bundleIdentifier FIRNamespace defaults keys)

/-- The request of a fetch is built, with the ETag of this moment. -/
def fetch (s : FIRRemoteConfig P) : FIRRemoteConfig P :=
  { s with request := some s.lastETag }

/-- The network task returns. -/
def respond (result : NetworkResult P) (s : FIRRemoteConfig P) : FIRRemoteConfig P :=
  { s with request := none, results := s.results ++ [result] }

def updateMetadataTable (s : FIRRemoteConfig P) : FIRRemoteConfig P :=
  s.enqueue [.deleteRecord bundleIdentifier FIRNamespace,
    .insertMetadataTable bundleIdentifier FIRNamespace s.lastApplyTimeInterval]

/-- `handleUpdatePersonalization`, which only an update gets to. -/
def handleUpdatePersonalization (response : FetchResponse P) (s : FIRRemoteConfig P) :
    FIRRemoteConfig P :=
  if response.state = some "UPDATE" then
    match response.personalizationMetadata with
    | none => s
    | some metadata =>
      { s with
        fetchedPersonalization := metadata
        personalizationTable := Function.update s.personalizationTable .fetched metadata }
  else s

/-- The first half of the job of the result, in which the entries of the response
are enumerated as `keys`. -/
def handle (result : NetworkResult P) (keys : List String) (s : FIRRemoteConfig P) :
    FIRRemoteConfig P :=
  if result.failed then s.updateMetadataTable bundleIdentifier
  else
    match result.body with
    | .noData => s
    | .serverError => s
    -- A body that is no JSON is logged; its ETag is saved all the same.
    | .notJSON => { s with saving := some result.eTag }
    | .config response =>
      let changed := s.store.memory.updateConfigContentWithResponse bundleIdentifier FIRNamespace
        response keys
      { (s.update changed).handleUpdatePersonalization response with saving := some result.eTag }

/-- The user defaults take no 0 for a time, and no missing ETag. -/
def setLastETag (now : ℚ) (eTag : Option String) (s : FIRRemoteConfig P) : FIRRemoteConfig P :=
  { s with
    lastETagUpdateTime := if now = 0 then s.lastETagUpdateTime else now
    lastETag := eTag.or s.lastETag }

/-- The second half of the job: the ETag is saved if it is another one, and then the
metadata. -/
def save (now : ℚ) (eTag : Option String) (s : FIRRemoteConfig P) : FIRRemoteConfig P :=
  let s := { s with saving := none }
  let s := if s.lastETag = none ∨ s.lastETag ≠ eTag then s.setLastETag now eTag else s
  s.updateMetadataTable bundleIdentifier

/-- Nothing has been fetched since the last activation, as far as the times tell. -/
def AlreadyActivated (s : FIRRemoteConfig P) : Prop :=
  s.lastETagUpdateTime = 0 ∨ s.lastETagUpdateTime ≤ s.lastApplyTimeInterval

instance (s : FIRRemoteConfig P) : Decidable s.AlreadyActivated :=
  inferInstanceAs (Decidable (_ ∨ _))

/-- The job of `activateWithCompletion`; the fetched configuration is enumerated as
`keys`. -/
def activate (now : ℚ) (keys : List String) (s : FIRRemoteConfig P) : FIRRemoteConfig P :=
  if s.AlreadyActivated then s
  else
    let s := s.update (s.store.memory.copyFetched bundleIdentifier FIRNamespace keys)
    let s := { s with lastApplyTimeInterval := now }.enqueue [.updateApplyTime FIRNamespace now]
    { s with
      activePersonalization := s.fetchedPersonalization
      personalizationTable :=
        Function.update s.personalizationTable .active s.fetchedPersonalization }

/-- The program is killed and started again. -/
def restart (s : FIRRemoteConfig P) : FIRRemoteConfig P where
  store := s.store.restart (RCNConfigContent.loadConfigFromMainTable bundleIdentifier)
  activePersonalization := s.personalizationTable .active
  fetchedPersonalization := s.personalizationTable .fetched
  personalizationTable := s.personalizationTable
  lastApplyTimeInterval :=
    (s.store.disk.loadMetadataTable bundleIdentifier FIRNamespace).getD 0
  lastETag := s.lastETag
  lastETagUpdateTime := s.lastETagUpdateTime

inductive Event (P : Type) where
  | setDefaults (defaults : NSDictionary DefaultValue) (keys : List String)
  | fetch
  | respond (result : NetworkResult P)
  | handle (keys : List String)
  | save (now : ℚ)
  | activate (now : ℚ) (keys : List String)
  | execute
  | restart

/-- A job has come half way and holds the serial queue. -/
def Busy (s : FIRRemoteConfig P) : Prop := s.saving ≠ none

/-- The entries that a job of the result enumerates. -/
def NetworkResult.entries (result : NetworkResult P) : NSDictionary String :=
  match result.body with
  | .config response => response.entries
  | _ => ∅

/-- What may happen in `s`: a job needs the serial queue for itself, and meets the
keys of a dictionary in some order. -/
def enabled (s : FIRRemoteConfig P) : Event P → Prop
  | .setDefaults defaults keys => ¬ s.Busy ∧ defaults.EnumeratedBy keys
  | .fetch => ¬ s.Busy ∧ s.request = none
  | .respond _ => s.request ≠ none
  | .handle keys => ¬ s.Busy ∧ ∃ result ∈ s.results.head?,
      (NetworkResult.entries result).EnumeratedBy keys
  | .save _ => s.Busy
  | .activate _ keys => ¬ s.Busy ∧ (s.config .fetched).EnumeratedBy keys
  | .execute => s.store.queue ≠ []
  | .restart => True

def next (s : FIRRemoteConfig P) : Event P → Option (FIRRemoteConfig P)
  | .setDefaults defaults keys => some (s.setDefaults bundleIdentifier defaults keys)
  | .fetch => some s.fetch
  | .respond result => some (s.respond result)
  | .handle keys =>
    match s.results with
    | [] => none
    | result :: results => some ({ s with results := results }.handle bundleIdentifier result keys)
  | .save now => s.saving.map fun eTag => s.save bundleIdentifier now eTag
  | .activate now keys => some (s.activate bundleIdentifier now keys)
  | .execute => (s.store.catchUp Database.execute).map fun store => { s with store := store }
  | .restart => some (s.restart bundleIdentifier)

/-- Jobs, the network and the database, in any interleaving. -/
def system : EventSystem (FIRRemoteConfig P) (Event P) where
  enabled := enabled
  next := next bundleIdentifier

/-! ### What a step does to the store -/

/-- What is carried out on the database, and how a restart reads it. -/
abbrev Coherent (source : RCNDBSource) (seen : NSDictionary FIRRemoteConfigValue → Prop)
    (store : WriteBehind RCNConfigContent Database DBOperation) : Prop :=
  store.Coherent Database.execute (RCNConfigContent.configForNamespace FIRNamespace source)
    (Database.holds bundleIdentifier FIRNamespace source) NSDictionary.IsPart seen

/-- The keys that the app and the server bring in can be stored. -/
def Event.Clean : Event P → Prop
  | .setDefaults _ keys => ∀ key ∈ keys, Storable key
  | .handle keys => ∀ key ∈ keys, Storable key
  | _ => True

/-- The ways a step treats the store. -/
inductive StoreStep (store store' : WriteBehind RCNConfigContent Database DBOperation) : Prop
  | same (h : store' = store)
  | write (changed : RCNConfigContent × List DBOperation)
      (h : store' = store.write changed.1 changed.2)
      (hwrites : ∀ source, RCNConfigContent.WritesConfig bundleIdentifier FIRNamespace source
        store.memory changed)
      (hsound : ∀ source, RCNConfigContent.Sound source
        (changed.1.configForNamespace FIRNamespace source))
  | execute (h : store.catchUp Database.execute = some store')
  | restart (h : store' =
      store.restart (RCNConfigContent.loadConfigFromMainTable bundleIdentifier))

section Steps

variable {bundleIdentifier} {s s' : FIRRemoteConfig P} {event : Event P} {keys : List String}

/-- Operations on the metadata table do not show in the configurations. -/
theorem holds_execute_metadata {ops : List DBOperation} (h : ∀ op ∈ ops, op.table = none)
    (source : RCNDBSource) : ∀ op ∈ ops, ∀ db : Database,
      (db.execute op).holds bundleIdentifier FIRNamespace source =
        db.holds bundleIdentifier FIRNamespace source :=
  fun op hop => Database.holds_execute_of_table_ne (by rw [h op hop]; simp)

theorem storeStep_enqueue {ops : List DBOperation} (h : ∀ op ∈ ops, op.table = none)
    (hsound : ∀ source, RCNConfigContent.Sound source (s.config source)) :
    StoreStep bundleIdentifier s.store (s.enqueue ops).store :=
  .write (s.store.memory, ops) rfl
    (fun source => WriteBehind.Writes.of_frame (holds_execute_metadata h source)) hsound

theorem storeStep_updateMetadataTable
    (hsound : ∀ source, RCNConfigContent.Sound source (s.config source)) :
    StoreStep bundleIdentifier s.store (s.updateMetadataTable bundleIdentifier).store :=
  storeStep_enqueue (by simp [DBOperation.table]) hsound

/-- The personalization metadata is not in the store. -/
@[simp] theorem store_handleUpdatePersonalization (response : FetchResponse P)
    (s : FIRRemoteConfig P) : (s.handleUpdatePersonalization response).store = s.store := by
  rw [handleUpdatePersonalization]
  split
  · split <;> rfl
  · rfl

theorem storeStep_handle {result : NetworkResult P}
    (henum : (NetworkResult.entries result).EnumeratedBy keys)
    (hkeys : ∀ key ∈ keys, Storable key)
    (hsound : ∀ source, RCNConfigContent.Sound source (s.config source)) :
    StoreStep bundleIdentifier s.store (s.handle bundleIdentifier result keys).store := by
  rw [handle]
  split
  · exact storeStep_updateMetadataTable hsound
  · split
    · exact .same rfl
    · exact .same rfl
    · exact .same rfl
    · rename_i response hbody
      rw [NetworkResult.entries, hbody] at henum
      refine .write _ (store_handleUpdatePersonalization response _) (fun source => ?_)
        fun source => ?_
      · exact RCNConfigContent.writes_updateConfigContentWithResponse storable_FIRNamespace henum
          hkeys s.store.memory source
      · exact RCNConfigContent.sound_updateConfigContentWithResponse bundleIdentifier response
          hkeys hsound source

theorem storeStep_activate {now : ℚ} (henum : (s.config .fetched).EnumeratedBy keys)
    (hsound : ∀ source, RCNConfigContent.Sound source (s.config source)) :
    StoreStep bundleIdentifier s.store (s.activate bundleIdentifier now keys).store := by
  have hkeys : ∀ key ∈ keys, Storable key := by
    intro key hkey
    obtain ⟨value, hlookup⟩ := Finmap.mem_iff.mp ((henum.2 key).mp hkey)
    exact (hsound .fetched key value hlookup).1
  rw [activate]
  split
  · exact .same rfl
  · refine .write ((s.store.memory.copyFetched bundleIdentifier FIRNamespace keys).1,
      (s.store.memory.copyFetched bundleIdentifier FIRNamespace keys).2 ++
        [.updateApplyTime FIRNamespace now]) ?_ (fun source => ?_) fun source => ?_
    · simp only [enqueue, update, WriteBehind.write, List.append_assoc]
    · refine WriteBehind.Writes.append_frame ?_ (holds_execute_metadata ?_ source)
      · exact RCNConfigContent.writes_copyFetched storable_FIRNamespace henum hkeys source
      · simp [DBOperation.table]
    · exact RCNConfigContent.sound_copyFetched bundleIdentifier hkeys hsound source

/-- **One step of the client** writes to the store what is sound, has the database
catch up, or reloads it. -/
theorem storeStep_of_step (hsound : ∀ source, RCNConfigContent.Sound source (s.config source))
    (hclean : event.Clean) (hstep : (system bundleIdentifier).Step s event s') :
    StoreStep bundleIdentifier s.store s'.store := by
  obtain ⟨henabled, hnext⟩ := hstep
  cases event with
  | setDefaults defaults keys =>
    obtain rfl := Option.some.inj hnext
    refine .write _ rfl (fun source => ?_) fun source => ?_
    · exact RCNConfigContent.writes_copyDefaults storable_FIRNamespace henabled.2 hclean
        s.store.memory source
    · exact RCNConfigContent.sound_copyDefaults bundleIdentifier defaults hclean hsound source
  | fetch =>
    obtain rfl := Option.some.inj hnext
    exact .same rfl
  | respond result =>
    obtain rfl := Option.some.inj hnext
    exact .same rfl
  | handle keys =>
    obtain ⟨-, result, hresult, henum⟩ := henabled
    simp only [system, next] at hnext
    split at hnext
    · exact absurd hnext (by simp)
    · rename_i first results hresults
      obtain rfl := Option.some.inj hnext
      obtain rfl : first = result := by simpa [hresults] using hresult
      exact storeStep_handle (s := { s with results := results }) henum hclean hsound
  | save now =>
    obtain ⟨eTag, -, rfl⟩ := Option.map_eq_some_iff.mp hnext
    simp only [save]
    split
    · exact storeStep_updateMetadataTable hsound
    · exact storeStep_updateMetadataTable hsound
  | activate now keys =>
    obtain rfl := Option.some.inj hnext
    exact storeStep_activate henabled.2 hsound
  | execute =>
    obtain ⟨store, hstore, rfl⟩ := Option.map_eq_some_iff.mp hnext
    exact .execute hstore
  | restart =>
    obtain rfl := Option.some.inj hnext
    exact .restart rfl

end Steps

/-! ### Along every run -/

section Runs

variable {bundleIdentifier} {s s' : FIRRemoteConfig P} {events : List (Event P)}

/-- Every configuration is coherent, and has had sound entries only. -/
def Kept (bundleIdentifier : String) (s : FIRRemoteConfig P) : Prop :=
  ∀ source, Coherent bundleIdentifier source (RCNConfigContent.Sound source) s.store

theorem kept_initial : Kept bundleIdentifier ({} : FIRRemoteConfig P) := by
  intro source
  have hview : ({} : RCNConfigContent).configForNamespace FIRNamespace source = ∅ := by
    cases source <;> rfl
  refine ⟨?_, fun n => ⟨∅, RCNConfigContent.sound_empty source, ?_⟩, ?_⟩
  · exact hview.symm
  · show NSDictionary.IsPart (Database.holds _ _ _ (List.foldl _ _ (List.take n []))) ∅
    rw [List.take_nil]
    exact NSDictionary.isPart_empty ∅
  · rw [hview]
    exact RCNConfigContent.sound_empty source

theorem Kept.step (h : Kept bundleIdentifier s) {event : Event P} (hclean : event.Clean)
    (hstep : (system bundleIdentifier).Step s event s') : Kept bundleIdentifier s' := by
  have hsound : ∀ source, RCNConfigContent.Sound source (s.config source) :=
    fun source => (h source).seen_memory
  intro source
  rcases storeStep_of_step hsound hclean hstep with hsame | ⟨changed, hwrite, hwrites, hnew⟩ |
    hexecute | hrestart
  · rw [hsame]
    exact h source
  · rw [hwrite]
    exact (h source).write (hwrites source) NSDictionary.IsPart.refl (hnew source)
  · exact (h source).catchUp hexecute
  · rw [hrestart]
    exact (h source).restart_of_closed
      (RCNConfigContent.configForNamespace_loadConfigFromMainTable bundleIdentifier FIRNamespace
        source) fun u v hpart hv => hv.of_isPart hpart

/-- The runs in which all keys can be stored. -/
def Storing (bundleIdentifier : String) : EventSystem (FIRRemoteConfig P) (Event P) :=
  (system bundleIdentifier).restrict fun _ event => event.Clean

theorem storing_of_clean (hclean : ∀ event ∈ events, event.Clean)
    (hrun : (system bundleIdentifier).Run s events s') :
    (Storing bundleIdentifier).Run s events s' :=
  hrun.restrict fun event hevent _ => hclean event hevent

theorem Kept.storing_step (h : Kept bundleIdentifier s) {event : Event P}
    (hstep : (Storing bundleIdentifier).Step s event s') : Kept bundleIdentifier s' := by
  obtain ⟨hstep, hclean⟩ := EventSystem.step_restrict_iff.mp hstep
  exact h.step hclean hstep

theorem kept_run (hrun : (Storing bundleIdentifier).Run {} events s) :
    Kept bundleIdentifier s :=
  hrun.invariant (fun _ _ _ h hstep => h.storing_step hstep) kept_initial

theorem change_of_storing_step (h : Kept bundleIdentifier s) {event : Event P}
    (hstep : (Storing bundleIdentifier).Step s event s') (source : RCNDBSource) :
    s'.store = s.store ∨ WriteBehind.Change Database.execute
      (RCNConfigContent.loadConfigFromMainTable bundleIdentifier)
      (RCNConfigContent.configForNamespace FIRNamespace source)
      (Database.holds bundleIdentifier FIRNamespace source) NSDictionary.IsPart s.store
      s'.store := by
  obtain ⟨hstep, hclean⟩ := EventSystem.step_restrict_iff.mp hstep
  rcases storeStep_of_step (fun source => (h source).seen_memory) hclean hstep with hsame |
    ⟨changed, hwrite, hwrites, -⟩ | hexecute | hrestart
  · exact .inl hsame
  · exact .inr (.write changed.1 changed.2 (hwrites source) hwrite)
  · exact .inr (.catchUp hexecute)
  · exact .inr (.restart hrestart)

theorem config_restart (source : RCNDBSource) (s : FIRRemoteConfig P) :
    (s.restart bundleIdentifier).config source = s.stored bundleIdentifier source :=
  RCNConfigContent.configForNamespace_loadConfigFromMainTable bundleIdentifier FIRNamespace source
    s.store.disk

/-- The first `n` of the queued operations have been executed. -/
def executed (n : ℕ) (s : FIRRemoteConfig P) : FIRRemoteConfig P :=
  { s with store :=
    ⟨s.store.memory, (s.store.queue.take n).foldl Database.execute s.store.disk,
      s.store.queue.drop n⟩ }

/-- The database works off its queue, or a part of it. -/
theorem run_executed {n : ℕ} (hn : n ≤ s.store.queue.length) :
    (system bundleIdentifier).Run s (List.replicate n .execute) (s.executed n) := by
  induction n generalizing s with
  | zero => exact .nil s
  | succ n ih =>
    rcases hqueue : s.store.queue with _ | ⟨op, queue⟩
    · rw [hqueue] at hn
      exact absurd hn (by simp)
    · rw [hqueue, List.length_cons] at hn
      have hrest := ih (s := { s with store := ⟨s.store.memory, s.store.disk.execute op, queue⟩ })
        (Nat.le_of_succ_le_succ hn)
      rw [show s.executed (n + 1) = ({ s with store :=
        ⟨s.store.memory, s.store.disk.execute op, queue⟩ } : FIRRemoteConfig P).executed n by
          rw [executed, executed, hqueue]; rfl]
      refine .cons ⟨?_, ?_⟩ hrest
      · show s.store.queue ≠ []
        rw [hqueue]
        simp
      · show (s.store.catchUp Database.execute).map _ = _
        rw [WriteBehind.catchUp, hqueue]
        rfl

/-- A dictionary with the two keys of the app. -/
def entriesOfBoth {β : Type} (jsonData detailsCarousel : β) : NSDictionary β :=
  Finmap.insert "details_carousel" detailsCarousel (Finmap.singleton "json_data" jsonData)

theorem entriesOfBoth_enumeratedBy {β : Type} (jsonData detailsCarousel : β) :
    (entriesOfBoth jsonData detailsCarousel).EnumeratedBy ["json_data", "details_carousel"] := by
  refine ⟨by decide, fun key => ?_⟩
  rw [entriesOfBoth, Finmap.mem_insert, Finmap.mem_singleton]
  simp [or_comm]

/-- The defaults that the manager registers. -/
def managerDefaults : NSDictionary DefaultValue :=
  entriesOfBoth (.string "JSON data") (.string "JSON data")

/-- A configuration with one entry. -/
def firstEntries : NSDictionary String := Finmap.singleton "json_data" "[]"

theorem firstEntries_enumeratedBy : firstEntries.EnumeratedBy ["json_data"] := by
  refine ⟨by decide, fun key => ?_⟩
  rw [firstEntries, Finmap.mem_singleton, List.mem_singleton]

/-- The first answer of a server, with that configuration. -/
def firstAnswer : NetworkResult Unit :=
  ⟨false, .config ⟨some "UPDATE", firstEntries, none⟩, some "v1"⟩

/-- The defaults are registered, and the first answer comes. -/
def firstEvents : List (Event Unit) :=
  [.setDefaults managerDefaults ["json_data", "details_carousel"], .fetch, .respond firstAnswer,
    .handle ["json_data"]]

/-- The job of the first answer has come half way. -/
def firstHandled : FIRRemoteConfig Unit :=
  { (({} : FIRRemoteConfig Unit).setDefaults "app" managerDefaults
    ["json_data", "details_carousel"]).fetch.respond firstAnswer with results := [] }.handle "app"
      firstAnswer ["json_data"]

theorem run_firstHandled : (system "app").Run {} firstEvents firstHandled :=
  .cons ⟨⟨not_not.mpr rfl, entriesOfBoth_enumeratedBy _ _⟩, rfl⟩
    (.cons ⟨⟨not_not.mpr rfl, rfl⟩, rfl⟩ (.cons ⟨Option.some_ne_none _, rfl⟩
      (.cons ⟨⟨not_not.mpr rfl, firstAnswer, rfl, firstEntries_enumeratedBy⟩, rfl⟩ (.nil _))))

theorem clean_firstEvents : ∀ event ∈ firstEvents, event.Clean := by
  have hkeys : Storable "json_data" ∧ Storable "details_carousel" := by decide
  simp [firstEvents, Event.Clean, hkeys]

/-- Its ETag has been saved. -/
def firstSaved : FIRRemoteConfig Unit := firstHandled.save "app" 1 (some "v1")

theorem Kept.config_restart_executed (h : Kept bundleIdentifier s) (source : RCNDBSource) :
    ((s.executed s.store.queue.length).restart bundleIdentifier).config source =
      s.config source := by
  rw [config_restart, stored, executed, List.take_length]
  exact (h source).synced

/-- **Nothing is lost once the database has caught up.**  From every state that can
be reached, the database may work off its queue, and a restart after that leaves
every configuration as it was in memory. -/
theorem restart_drained (hclean : ∀ event ∈ events, event.Clean)
    (hrun : (system bundleIdentifier).Run {} events s) :
    ∃ t, (system bundleIdentifier).Run s (List.replicate s.store.queue.length .execute) t ∧
      t.store.queue = [] ∧
      ∀ source, (t.restart bundleIdentifier).config source = s.config source := by
  have hkept := kept_run (storing_of_clean hclean hrun)
  exact ⟨_, run_executed le_rfl, List.drop_length, hkept.config_restart_executed⟩

/-- The rows of the first configuration are still queued. -/
theorem restart_drained_first : ∃ t, (system "app").Run firstHandled
    (List.replicate firstHandled.store.queue.length .execute) t ∧ t.store.queue = [] ∧
      ∀ source, (t.restart "app").config source = firstHandled.config source :=
  restart_drained clean_firstEvents run_firstHandled

/-- **A restart never mixes two versions.**  Whenever the program is killed, what it
loads of a configuration is a part of what that configuration was in memory at one
moment of the run. -/
theorem restart_part (hclean : ∀ event ∈ events, event.Clean)
    (hrun : (system bundleIdentifier).Run {} events s) (source : RCNDBSource) :
    ∃ before after t, events = before ++ after ∧ (system bundleIdentifier).Run {} before t ∧
      ((s.restart bundleIdentifier).config source).IsPart (t.config source) := by
  have hkept : Kept bundleIdentifier ({} : FIRRemoteConfig P) := kept_initial
  have hcoherent := WriteBehind.coherent_of_run NSDictionary.IsPart.refl
    (RCNConfigContent.configForNamespace_loadConfigFromMainTable bundleIdentifier FIRNamespace
      source) (fun _ _ _ h hstep => h.storing_step hstep)
    (fun _ _ _ h hstep => change_of_storing_step h hstep source)
    (storing_of_clean hclean hrun) hkept (hkept source).synced rfl
  obtain ⟨v, ⟨before, after, t, hevents, hbefore, rfl⟩, hpart⟩ := hcoherent.part_of_seen
  refine ⟨before, after, t, hevents, hbefore.of_restrict, ?_⟩
  rw [config_restart]
  exact hpart

/-- The next answer, with two entries. -/
def secondAnswer : NetworkResult Unit :=
  ⟨false, .config ⟨some "UPDATE", entriesOfBoth "[1]" "[2]", none⟩, some "v2"⟩

/-- The first version is saved, and the next answer comes. -/
def secondEvents : List (Event Unit) :=
  [.save 1, .fetch, .respond secondAnswer, .handle ["json_data", "details_carousel"]]

def secondHandled : FIRRemoteConfig Unit :=
  { firstSaved.fetch.respond secondAnswer with results := [] }.handle "app" secondAnswer
    ["json_data", "details_carousel"]

theorem run_secondHandled : (system "app").Run firstHandled secondEvents secondHandled :=
  .cons ⟨Option.some_ne_none _, rfl⟩ (.cons ⟨⟨not_not.mpr rfl, rfl⟩, rfl⟩
    (.cons ⟨Option.some_ne_none _, rfl⟩ (.cons ⟨⟨not_not.mpr rfl, secondAnswer, rfl,
      entriesOfBoth_enumeratedBy _ _⟩, rfl⟩ (.nil _))))

/-- Killed when the rows of the first version have been deleted, and one of the two
rows of the second one has been inserted. -/
theorem restart_part_second :
    (system "app").Run {} (firstEvents ++ secondEvents ++ List.replicate 9 .execute)
        (secondHandled.executed 9) ∧
      (((secondHandled.executed 9).restart "app").config .fetched) =
        Finmap.singleton "json_data" ⟨"[1]".toUTF8, .remote⟩ ∧
      ∃ before after t, firstEvents ++ secondEvents ++ List.replicate 9 .execute =
          before ++ after ∧ (system "app").Run {} before t ∧
        (((secondHandled.executed 9).restart "app").config .fetched).IsPart
          (t.config .fetched) := by
  have hrun : (system "app").Run {} (firstEvents ++ secondEvents ++ List.replicate 9 .execute)
      (secondHandled.executed 9) :=
    EventSystem.run_append_iff.mpr ⟨secondHandled, EventSystem.run_append_iff.mpr
      ⟨firstHandled, run_firstHandled, run_secondHandled⟩, run_executed (by decide)⟩
  have hclean : ∀ event ∈ firstEvents ++ secondEvents ++ List.replicate 9 .execute,
      event.Clean := by
    have hkeys : Storable "json_data" ∧ Storable "details_carousel" := by decide
    simp [firstEvents, secondEvents, Event.Clean, hkeys, or_imp, forall_and]
  exact ⟨hrun, rfl, restart_part hclean hrun .fetched⟩

/-! ### What is read -/

/-- The active value, the default, or nothing. -/
def configValueForKey (key : String) (s : FIRRemoteConfig P) : FIRRemoteConfigValue :=
  match (s.config .active).lookup key with
  | some value => value
  | none =>
    match (s.config .default).lookup key with
    | some value => value
    | none => ⟨ByteArray.empty, .static⟩

/-- **The source of a value is the one it was read from**, also after restarts: what
is marked as remote has been activated, what is marked as a default has been
registered, and there is nothing else but empty values. -/
theorem source_configValueForKey (hclean : ∀ event ∈ events, event.Clean)
    (hrun : (system bundleIdentifier).Run {} events s) (key : String) :
    (s.configValueForKey key).source =
      if key ∈ s.config .active then .remote
      else if key ∈ s.config .default then .default else .static := by
  have hkept := kept_run (storing_of_clean hclean hrun)
  rw [configValueForKey]
  rcases hactive : (s.config .active).lookup key with _ | value
  · rw [if_neg (Finmap.lookup_eq_none.mp hactive)]
    rcases hdefault : (s.config .default).lookup key with _ | value
    · rw [if_neg (Finmap.lookup_eq_none.mp hdefault)]
    · rw [if_pos (Finmap.mem_of_lookup_eq_some hdefault)]
      exact ((hkept .default).seen_memory key value hdefault).2.1
  · rw [if_pos (Finmap.mem_of_lookup_eq_some hactive)]
    exact ((hkept .active).seen_memory key value hactive).2.1

/-- The first version has been activated. -/
def firstActivated : FIRRemoteConfig Unit := firstSaved.activate "app" 2 ["json_data"]

theorem lastETagUpdateTime_firstSaved : firstSaved.lastETagUpdateTime = 1 := by
  have htime : firstSaved.lastETagUpdateTime = if (1 : ℚ) = 0 then 0 else 1 := rfl
  rw [htime, if_neg one_ne_zero]

theorem not_alreadyActivated_firstSaved : ¬ firstSaved.AlreadyActivated := by
  have happly : firstSaved.lastApplyTimeInterval = 0 := rfl
  rw [AlreadyActivated, lastETagUpdateTime_firstSaved, happly]
  exact not_or.mpr ⟨one_ne_zero, not_le.mpr zero_lt_one⟩

theorem fetched_firstSaved : (firstSaved.config .fetched).EnumeratedBy ["json_data"] := by
  have hconfig : firstSaved.config .fetched =
      Finmap.singleton "json_data" ⟨"[]".toUTF8, .remote⟩ := rfl
  refine ⟨by decide, fun key => ?_⟩
  rw [hconfig, Finmap.mem_singleton, List.mem_singleton]

theorem run_firstActivated : (system "app").Run {}
    (firstEvents ++ [.save 1, .activate 2 ["json_data"]]) firstActivated :=
  EventSystem.run_append_iff.mpr ⟨firstHandled, run_firstHandled,
    .cons ⟨Option.some_ne_none _, rfl⟩
      (.cons ⟨⟨not_not.mpr rfl, fetched_firstSaved⟩, rfl⟩ (.nil _))⟩

/-- All is executed, and the app is started again. -/
def firstRestarted : FIRRemoteConfig Unit :=
  (firstActivated.executed firstActivated.store.queue.length).restart "app"

/-- A key that is active, one that has a default only, and the others; and again after a
restart. -/
theorem source_configValueForKey_restarted :
    (∀ key, (firstActivated.configValueForKey key).source =
      if key = "json_data" then .remote
      else if key = "details_carousel" then .default else .static) ∧
    ∀ key, (firstRestarted.configValueForKey key).source =
      if key = "json_data" then .remote
      else if key = "details_carousel" then .default else .static := by
  have hclean : ∀ event ∈ firstEvents ++ [.save 1, .activate 2 ["json_data"]] ++
      (List.replicate firstActivated.store.queue.length .execute ++ [.restart]), event.Clean := by
    have hkeys : Storable "json_data" ∧ Storable "details_carousel" := by decide
    simp [firstEvents, Event.Clean, hkeys, or_imp, forall_and]
  have hclean' : ∀ event ∈ firstEvents ++ [.save 1, .activate 2 ["json_data"]], event.Clean :=
    fun event hevent => hclean event (List.mem_append_left _ hevent)
  have hrestarted : (system "app").Run {} (firstEvents ++ [.save 1, .activate 2 ["json_data"]] ++
      (List.replicate firstActivated.store.queue.length .execute ++ [.restart])) firstRestarted :=
    EventSystem.run_append_iff.mpr ⟨_, run_firstActivated, EventSystem.run_append_iff.mpr
      ⟨_, run_executed le_rfl, .cons ⟨trivial, rfl⟩ (.nil _)⟩⟩
  -- Everything queued has been executed, so the restart loads all.
  have hconfig : ∀ source, firstRestarted.config source = firstActivated.config source :=
    (kept_run (storing_of_clean hclean' run_firstActivated)).config_restart_executed
  have hactive : ∀ key, key ∈ firstActivated.config .active ↔ key = "json_data" := by
    intro key
    rw [firstActivated, activate, if_neg not_alreadyActivated_firstSaved]
    exact Finmap.mem_singleton key "json_data" _
  have hdefault : ∀ key, key ∈ firstActivated.config .default ↔
      key = "details_carousel" ∨ key = "json_data" := by
    intro key
    rw [firstActivated, activate, if_neg not_alreadyActivated_firstSaved]
    exact Finmap.mem_insert.trans (or_congr_right (Finmap.mem_singleton key "json_data" _))
  constructor
  · intro key
    rw [source_configValueForKey hclean' run_firstActivated]
    simp only [hactive, hdefault]
    by_cases hkey : key = "json_data" <;> simp [hkey]
  · intro key
    rw [source_configValueForKey hclean hrestarted]
    simp only [hconfig, hactive, hdefault]
    by_cases hkey : key = "json_data" <;> simp [hkey]

end Runs

end FIRRemoteConfig

end HolyWater
