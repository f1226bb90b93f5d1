/-
Conditional fetching.

A fetch sends the ETag that was saved last, and a server that still has that
version answers `NO_CHANGE`: the client keeps what it fetched then.  So the ETag
and the fetched configuration, which are saved in different places, have to stay
the ones of one version.

They do as long as the server answers as documented, a request is only built when
no answer waits to be handled, and the program is only killed between jobs and
after the database has caught up.

* `Answers` — what a server that has version `v` may answer to a request;
* `fetched_isVersion` — between jobs, the fetched configuration is the version whose
  ETag was saved last;
* `fetched_after_restart` — but what was lost when the program was killed too early is
  not fetched again while the server keeps its version.
-/
import HolyWater.ConfigClient

namespace HolyWater

namespace FIRRemoteConfig

variable {P V : Type}

/-! ### The server -/

/-- The values of a template, or of no template, as a client keeps them. -/
def valueOf (entries : Option (NSDictionary String)) (key : String) :
    Option FIRRemoteConfigValue :=
  ((entries.getD ∅).lookup key).map fun text => ⟨text.toUTF8, .remote⟩

section Server

variable (content : V → Option (NSDictionary String)) (tag : V → String)

/-- What a server may answer that has version `v`, to a request with this ETag. -/
inductive Answers (v : V) (ifNoneMatch : Option String) : NetworkResult P → Prop
  | failed (body : ResponseBody P) (eTag : Option String) : Answers v ifNoneMatch ⟨true, body, eTag⟩
  | noData (eTag : Option String) : Answers v ifNoneMatch ⟨false, .noData, eTag⟩
  | serverError (eTag : Option String) : Answers v ifNoneMatch ⟨false, .serverError, eTag⟩
  | noChange (response : FetchResponse P) (hstate : response.state = some "NO_CHANGE")
      (hmatch : ifNoneMatch = some (tag v)) :
      Answers v ifNoneMatch ⟨false, .config response, some (tag v)⟩
  | update (response : FetchResponse P) (hstate : response.state = some "UPDATE")
      (hcontent : content v = some response.entries) (hother : ifNoneMatch ≠ some (tag v)) :
      Answers v ifNoneMatch ⟨false, .config response, some (tag v)⟩
  | emptyConfig (response : FetchResponse P) (hstate : response.state = some "EMPTY_CONFIG")
      (hcontent : content v = some ∅) (hother : ifNoneMatch ≠ some (tag v)) :
      Answers v ifNoneMatch ⟨false, .config response, some (tag v)⟩
  | noTemplate (response : FetchResponse P) (hstate : response.state = some "NO_TEMPLATE")
      (hcontent : content v = none) (hother : ifNoneMatch ≠ some (tag v)) :
      Answers v ifNoneMatch ⟨false, .config response, some (tag v)⟩

/-- The dictionary has the entries of the version with this ETag; none, when nothing
has been fetched. -/
def IsVersion (eTag : Option String) (dict : NSDictionary FIRRemoteConfigValue) : Prop :=
  ∃ v : Option V, v.map tag = eTag ∧ ∀ key, dict.lookup key = valueOf (v.bind content) key

/-- The server answers as documented; a request is built when no answer waits; and
the program is killed between jobs, after the database has caught up. -/
def Serves (s : FIRRemoteConfig P) : Event P → Prop
  | .fetch => s.results = []
  | .respond result => ∃ v eTag, s.request = some eTag ∧ Answers content tag v eTag result
  | .restart => s.store.queue = [] ∧ ¬ s.Busy
  | _ => True

def Serving (bundleIdentifier : String) : EventSystem (FIRRemoteConfig P) (Event P) :=
  (Storing bundleIdentifier).restrict (Serves content tag)

/-- How far a fetch has come. -/
inductive Phase (s : FIRRemoteConfig P) : Prop
  | idle (hrequest : s.request = none) (hresults : s.results = []) (hsaving : s.saving = none)
  | fetching (hrequest : s.request = some s.lastETag) (hresults : s.results = [])
      (hsaving : s.saving = none)
  | answered (result : NetworkResult P) (v : V) (hrequest : s.request = none)
      (hresults : s.results = [result]) (hsaving : s.saving = none)
      (hanswer : Answers content tag v s.lastETag result)
  | saving (v : V) (hrequest : s.request = none) (hresults : s.results = [])
      (hsaving : s.saving = some (some (tag v)))
      (hversion : IsVersion content tag (some (tag v)) (s.config .fetched))

/-- Between jobs, the fetched configuration is the version whose ETag was saved
last. -/
structure Current (bundleIdentifier : String) (s : FIRRemoteConfig P) : Prop where
  kept : Kept bundleIdentifier s
  phase : Phase content tag s
  fetched : s.saving = none → IsVersion content tag s.lastETag (s.config .fetched)

end Server

section Versions

variable {content : V → Option (NSDictionary String)} {tag : V → String} {eTag : Option String}
  {dict dict' : NSDictionary FIRRemoteConfigValue}

/-- When the ETag determines the content, it determines the dictionary. -/
theorem IsVersion.eq (htag : ∀ v v', tag v = tag v' → content v = content v')
    (h : IsVersion content tag eTag dict) (h' : IsVersion content tag eTag dict') :
    dict = dict' := by
  obtain ⟨v, hv, hdict⟩ := h
  obtain ⟨v', hv', hdict'⟩ := h'
  have hcontent : v.bind content = v'.bind content := by
    cases v with
    | none =>
      rw [← hv, Option.map_none, Option.map_eq_none_iff] at hv'
      rw [hv']
    | some v =>
      rw [← hv, Option.map_some, Option.map_eq_some_iff] at hv'
      obtain ⟨w, rfl, hw⟩ := hv'
      exact htag v w hw.symm
  refine Finmap.ext_lookup fun key => ?_
  rw [hdict, hdict', hcontent]

theorem isVersion_empty : IsVersion content tag none ∅ :=
  ⟨none, rfl, fun key => by rw [Finmap.lookup_empty]; rfl⟩

theorem isVersion_of_lookup {v : V} (h : ∀ key, dict.lookup key = valueOf (content v) key) :
    IsVersion content tag (some (tag v)) dict :=
  ⟨some v, rfl, h⟩

end Versions

/-! ### What the steps do to the fetched configuration -/

section Steps

variable {bundleIdentifier : String} {s s' : FIRRemoteConfig P} {keys : List String}

theorem config_of_catchUp {store : WriteBehind RCNConfigContent Database DBOperation}
    (h : s.store.catchUp Database.execute = some store) (source : RCNDBSource) :
    ({ s with store := store } : FIRRemoteConfig P).config source = s.config source := by
  rw [WriteBehind.catchUp] at h
  split at h
  · exact absurd h (by simp)
  · obtain rfl := Option.some.inj h
    rfl

/-- Defaults concern the default configuration. -/
theorem config_setDefaults {source : RCNDBSource} (h : source ≠ .default)
    (defaults : NSDictionary DefaultValue) (keys : List String) (s : FIRRemoteConfig P) :
    (s.setDefaults bundleIdentifier defaults keys).config source = s.config source :=
  RCNConfigContent.configForNamespace_replaceConfig_of_ne bundleIdentifier h _ s.store.memory

/-- An activation concerns the active configuration. -/
theorem config_activate_of_ne {source : RCNDBSource} (h : source ≠ .active) (now : ℚ)
    (keys : List String) (s : FIRRemoteConfig P) :
    (s.activate bundleIdentifier now keys).config source = s.config source := by
  rw [activate]
  split
  · rfl
  · exact RCNConfigContent.configForNamespace_replaceConfig_of_ne bundleIdentifier h _
      s.store.memory

/-- An activation that is not skipped copies the fetched configuration. -/
theorem config_activate (hsound : RCNConfigContent.Sound .fetched (s.config .fetched))
    (henum : (s.config .fetched).EnumeratedBy keys) (hactivate : ¬ s.AlreadyActivated) (now : ℚ) :
    (s.activate bundleIdentifier now keys).config .active = s.config .fetched := by
  rw [activate, if_neg hactivate]
  refine (RCNConfigContent.configForNamespace_replaceConfig bundleIdentifier .active _
    s.store.memory).trans (Finmap.ext_lookup fun key => ?_)
  refine (RCNConfigContent.lookup_insertAll_values henum _ .active key).trans ?_
  rcases hlookup : (s.config .fetched).lookup key with _ | ⟨data, source⟩
  · rfl
  · obtain rfl : source = .remote := (hsound key _ hlookup).2.1
    rfl

theorem config_restart_of_drained (hkept : Kept bundleIdentifier s) (hqueue : s.store.queue = [])
    (source : RCNDBSource) : (s.restart bundleIdentifier).config source = s.config source :=
  (config_restart source s).trans ((hkept source).drained hqueue)

/-- The job of an answer leaves the other configurations alone. -/
theorem config_handle_of_ne {source : RCNDBSource} (h : source ≠ .fetched)
    (result : NetworkResult P) (keys : List String) (s : FIRRemoteConfig P) :
    (s.handle bundleIdentifier result keys).config source = s.config source := by
  rw [handle]
  split
  · rfl
  · split
    · rfl
    · rfl
    · rfl
    · rename_i response _
      show (FIRRemoteConfig.config source (handleUpdatePersonalization response _)) = _
      rw [FIRRemoteConfig.config, store_handleUpdatePersonalization]
      show RCNConfigContent.configForNamespace FIRNamespace source
        (s.store.memory.updateConfigContentWithResponse bundleIdentifier FIRNamespace response
          keys).1 = s.store.memory.configForNamespace FIRNamespace source
      rcases RCNConfigContent.updateConfigContentWithResponse_cases bundleIdentifier FIRNamespace
        response keys s.store.memory with ⟨-, -, hsame⟩ | ⟨-, config, -, hchanged⟩ | ⟨-, hchanged⟩
      · exact hsame source
      · rw [hchanged]
        cases source <;> first | rfl | exact absurd rfl h
      · rw [hchanged]
        exact RCNConfigContent.configForNamespace_replaceConfig_of_ne bundleIdentifier h _
          s.store.memory

/-- The fetched configuration after a response has been handled. -/
theorem config_handle {result : NetworkResult P} {response : FetchResponse P}
    (hfailed : result.failed = false) (hbody : result.body = .config response)
    (source : RCNDBSource) :
    (s.handle bundleIdentifier result keys).config source =
      (s.store.memory.updateConfigContentWithResponse bundleIdentifier FIRNamespace response
        keys).1.configForNamespace FIRNamespace source := by
  rw [handle, if_neg (by simp [hfailed]), hbody]
  show (FIRRemoteConfig.config source (handleUpdatePersonalization response _)) = _
  rw [FIRRemoteConfig.config, store_handleUpdatePersonalization]
  rfl

end Steps

/-! ### The invariant -/

section Invariant

variable {content : V → Option (NSDictionary String)} {tag : V → String}
  {bundleIdentifier : String} {s s' : FIRRemoteConfig P} {keys : List String}

/-- Only the fetch, the ETag and the fetched configuration matter. -/
theorem Phase.congr (h : Phase content tag s) (hrequest : s'.request = s.request)
    (hresults : s'.results = s.results) (hsaving : s'.saving = s.saving)
    (heTag : s'.lastETag = s.lastETag) (hconfig : s'.config .fetched = s.config .fetched) :
    Phase content tag s' := by
  cases h with
  | idle h₁ h₂ h₃ => exact .idle (hrequest.trans h₁) (hresults.trans h₂) (hsaving.trans h₃)
  | fetching h₁ h₂ h₃ =>
    refine .fetching ?_ (hresults.trans h₂) (hsaving.trans h₃)
    rw [hrequest, h₁, heTag]
  | answered result v h₁ h₂ h₃ hanswer =>
    exact .answered result v (hrequest.trans h₁) (hresults.trans h₂) (hsaving.trans h₃)
      (heTag ▸ hanswer)
  | saving v h₁ h₂ h₃ hversion =>
    exact .saving v (hrequest.trans h₁) (hresults.trans h₂) (hsaving.trans h₃)
      (hconfig ▸ hversion)

/-- What the job of an answer leaves: it has come half way, with the version of the
answer fetched, or nothing has happened to the fetched configuration. -/
theorem handle_answer (bundleIdentifier : String) (s : FIRRemoteConfig P)
    {result : NetworkResult P} {v : V}
    (henum : (NetworkResult.entries result).EnumeratedBy keys)
    (hanswer : Answers content tag v s.lastETag result) (hsaving : s.saving = none)
    (hfetched : IsVersion content tag s.lastETag (s.config .fetched)) :
    ((s.handle bundleIdentifier result keys).saving = some (some (tag v)) ∧
        IsVersion content tag (some (tag v))
          ((s.handle bundleIdentifier result keys).config .fetched)) ∨
      ((s.handle bundleIdentifier result keys).saving = none ∧
        (s.handle bundleIdentifier result keys).config .fetched = s.config .fetched) := by
  cases hanswer with
  | failed body eTag => exact .inr ⟨hsaving, rfl⟩
  | noData eTag => exact .inr ⟨hsaving, rfl⟩
  | serverError eTag => exact .inr ⟨hsaving, rfl⟩
  | noChange response hstate hmatch =>
    refine .inl ⟨rfl, ?_⟩
    rw [config_handle rfl rfl]
    -- The ETag of the answer is the one saved, whose version is fetched already.
    rcases RCNConfigContent.updateConfigContentWithResponse_cases bundleIdentifier FIRNamespace
      response keys s.store.memory with ⟨-, -, hsame⟩ | ⟨hother, -⟩ | ⟨hother, -⟩
    · rw [hsame, ← hmatch]
      exact hfetched
    · simp [hstate] at hother
    · simp [hstate] at hother
  | update response hstate hcontent =>
    refine .inl ⟨rfl, isVersion_of_lookup fun key => ?_⟩
    rw [config_handle rfl rfl]
    rcases RCNConfigContent.updateConfigContentWithResponse_cases bundleIdentifier FIRNamespace
      response keys s.store.memory with ⟨hother, -⟩ | ⟨hother, -⟩ | ⟨-, hchanged⟩
    · exact absurd hstate hother.1
    · simp [hstate] at hother
    · rw [hchanged, RCNConfigContent.configForNamespace_replaceConfig]
      refine (RCNConfigContent.lookup_insertAll_values henum _ .fetched key).trans ?_
      rw [valueOf, hcontent, Option.getD_some]
      show ((response.entries.lookup key).bind dataUsingUTF8).map _ = _
      cases response.entries.lookup key <;> rfl
  | emptyConfig response hstate hcontent =>
    refine .inl ⟨rfl, isVersion_of_lookup fun key => ?_⟩
    rw [config_handle rfl rfl]
    rcases RCNConfigContent.updateConfigContentWithResponse_cases bundleIdentifier FIRNamespace
      response keys s.store.memory with ⟨hother, -⟩ | ⟨-, config, hempty, hchanged⟩ | ⟨hother, -⟩
    · exact absurd hstate hother.2.1
    · rw [hchanged, RCNConfigContent.configForNamespace, RCNConfigContent.config, hempty,
        Finmap.lookup_empty, valueOf, hcontent, Option.getD_some, Finmap.lookup_empty,
        Option.map_none]
    · simp [hstate] at hother
  | noTemplate response hstate hcontent =>
    refine .inl ⟨rfl, isVersion_of_lookup fun key => ?_⟩
    rw [config_handle rfl rfl]
    rcases RCNConfigContent.updateConfigContentWithResponse_cases bundleIdentifier FIRNamespace
      response keys s.store.memory with ⟨hother, -⟩ | ⟨-, config, hempty, hchanged⟩ | ⟨hother, -⟩
    · exact absurd hstate hother.2.2
    · rw [hchanged, RCNConfigContent.configForNamespace, RCNConfigContent.config, hempty,
        Finmap.lookup_empty, valueOf, hcontent, Option.getD_none, Finmap.lookup_empty,
        Option.map_none]
    · simp [hstate] at hother

/-- The job of an answer does not touch what a fetch remembers, its own mark apart. -/
theorem handle_frame (bundleIdentifier : String) (result : NetworkResult P) (keys : List String)
    (s : FIRRemoteConfig P) :
    (s.handle bundleIdentifier result keys).request = s.request ∧
      (s.handle bundleIdentifier result keys).results = s.results ∧
      (s.handle bundleIdentifier result keys).lastETag = s.lastETag ∧
      (s.handle bundleIdentifier result keys).lastETagUpdateTime = s.lastETagUpdateTime ∧
      (s.handle bundleIdentifier result keys).lastApplyTimeInterval =
        s.lastApplyTimeInterval := by
  rw [handle]
  split
  · exact ⟨rfl, rfl, rfl, rfl, rfl⟩
  · split
    · exact ⟨rfl, rfl, rfl, rfl, rfl⟩
    · exact ⟨rfl, rfl, rfl, rfl, rfl⟩
    · exact ⟨rfl, rfl, rfl, rfl, rfl⟩
    · simp only [handleUpdatePersonalization]
      split
      · split <;> exact ⟨rfl, rfl, rfl, rfl, rfl⟩
      · exact ⟨rfl, rfl, rfl, rfl, rfl⟩

/-- Saving an ETag makes it the last one, whether it is another one or not. -/
theorem lastETag_save (now : ℚ) (eTag : String) (s : FIRRemoteConfig P) :
    (s.save bundleIdentifier now (some eTag)).lastETag = some eTag := by
  simp only [save]
  split
  · rfl
  · rename_i hsame
    exact not_not.mp (not_or.mp hsame).2

theorem save_frame (bundleIdentifier : String) (now : ℚ) (eTag : Option String)
    (s : FIRRemoteConfig P) :
    (s.save bundleIdentifier now eTag).request = s.request ∧
      (s.save bundleIdentifier now eTag).results = s.results ∧
      (s.save bundleIdentifier now eTag).saving = none ∧
      ∀ source, (s.save bundleIdentifier now eTag).config source = s.config source := by
  simp only [save]
  split <;> exact ⟨rfl, rfl, rfl, fun _ => rfl⟩

/-- An activation does not touch the fetch. -/
theorem activate_frame (bundleIdentifier : String) (now : ℚ) (keys : List String)
    (s : FIRRemoteConfig P) :
    (s.activate bundleIdentifier now keys).request = s.request ∧
      (s.activate bundleIdentifier now keys).results = s.results ∧
      (s.activate bundleIdentifier now keys).saving = s.saving ∧
      (s.activate bundleIdentifier now keys).lastETag = s.lastETag ∧
      (s.activate bundleIdentifier now keys).lastETagUpdateTime = s.lastETagUpdateTime := by
  rw [activate]
  split <;> exact ⟨rfl, rfl, rfl, rfl, rfl⟩

theorem current_initial : Current content tag bundleIdentifier ({} : FIRRemoteConfig P) where
  kept := kept_initial
  phase := .idle rfl rfl rfl
  fetched _ := isVersion_empty

/-- A step that leaves the fetch and the fetched configuration alone. -/
theorem Current.congr (h : Current content tag bundleIdentifier s)
    (hkept : Kept bundleIdentifier s') (hrequest : s'.request = s.request)
    (hresults : s'.results = s.results) (hsaving : s'.saving = s.saving)
    (heTag : s'.lastETag = s.lastETag) (hconfig : s'.config .fetched = s.config .fetched) :
    Current content tag bundleIdentifier s' where
  kept := hkept
  phase := h.phase.congr hrequest hresults hsaving heTag hconfig
  fetched hnone := by
    rw [heTag, hconfig]
    exact h.fetched (hsaving.symm.trans hnone)

theorem Current.step (h : Current content tag bundleIdentifier s) {event : Event P}
    (hstep : (Serving content tag bundleIdentifier).Step s event s') :
    Current content tag bundleIdentifier s' := by
  obtain ⟨hstoring, hserves⟩ := EventSystem.step_restrict_iff.mp hstep
  have hkept := h.kept.storing_step hstoring
  obtain ⟨henabled, hnext⟩ := (EventSystem.step_restrict_iff.mp hstoring).1
  -- The phase says which version an answer is about: only `handle` and `save` depend on it.
  cases event with
  | setDefaults defaults keys =>
    obtain rfl := Option.some.inj hnext
    exact h.congr hkept rfl rfl rfl rfl (config_setDefaults (by decide) defaults keys s)
  | fetch =>
    obtain rfl := Option.some.inj hnext
    have hsaving : s.saving = none := not_not.mp henabled.1
    exact ⟨hkept, .fetching rfl hserves hsaving, fun _ => h.fetched hsaving⟩
  | respond result =>
    obtain rfl := Option.some.inj hnext
    obtain ⟨v, eTag, hrequest, hanswer⟩ := hserves
    cases h.phase with
    | fetching hfetching hresults hsaving =>
      obtain rfl : s.lastETag = eTag := Option.some.inj (hfetching.symm.trans hrequest)
      refine ⟨hkept, .answered result v rfl ?_ hsaving hanswer, fun _ => h.fetched hsaving⟩
      show s.results ++ [result] = [result]
      rw [hresults, List.nil_append]
    | idle hidle => exact absurd hidle henabled
    | answered _ _ hidle => exact absurd hidle henabled
    | saving _ hidle => exact absurd hidle henabled
  | handle keys =>
    obtain ⟨hbusy, result, hresult, henum⟩ := henabled
    have hsaving : s.saving = none := not_not.mp hbusy
    simp only [system, next] at hnext
    split at hnext
    · exact absurd hnext (by simp)
    · rename_i first rest hresults
      obtain rfl := Option.some.inj hnext
      obtain rfl : first = result := by simpa [hresults] using hresult
      cases h.phase with
      | answered result v hrequest hone _ hanswer =>
        obtain ⟨rfl, rfl⟩ := List.cons.inj (hresults.symm.trans hone)
        obtain ⟨hrequest', hresults', heTag', -⟩ := handle_frame bundleIdentifier first keys
          { s with results := [] }
        have hfetched := h.fetched hsaving
        -- Either the answer is to be saved, with its version, or it brought nothing.
        rcases handle_answer bundleIdentifier { s with results := [] } henum hanswer hsaving
          hfetched with ⟨hsaving', hversion⟩ | ⟨hsaving', hconfig⟩
        · refine ⟨hkept, .saving v (hrequest'.trans hrequest) hresults' hsaving' hversion, ?_⟩
          intro hnone
          rw [hsaving'] at hnone
          exact absurd hnone (by simp)
        · refine ⟨hkept, .idle (hrequest'.trans hrequest) hresults' hsaving', fun _ => ?_⟩
          rw [hconfig, heTag']
          exact hfetched
      | idle _ hnone => exact absurd (hresults.symm.trans hnone) (by simp)
      | fetching _ hnone => exact absurd (hresults.symm.trans hnone) (by simp)
      | saving _ _ hnone => exact absurd (hresults.symm.trans hnone) (by simp)
  | save now =>
    obtain ⟨eTag, hsaving, rfl⟩ := Option.map_eq_some_iff.mp hnext
    obtain ⟨hrequest', hresults', hsaving', hconfig⟩ := save_frame bundleIdentifier now eTag s
    cases h.phase with
    | saving v hrequest hresults hv hversion =>
      -- What was fetched a job ago now has its ETag saved.
      obtain rfl : eTag = some (tag v) := Option.some.inj (hsaving.symm.trans hv)
      refine ⟨hkept, .idle (hrequest'.trans hrequest) (hresults'.trans hresults) hsaving', ?_⟩
      intro _
      rw [lastETag_save, hconfig]
      exact hversion
    | idle _ _ hnone => exact absurd hnone henabled
    | fetching _ _ hnone => exact absurd hnone henabled
    | answered _ _ _ _ hnone => exact absurd hnone henabled
  | activate now keys =>
    obtain rfl := Option.some.inj hnext
    obtain ⟨hrequest, hresults, hsaving, heTag, -⟩ := activate_frame bundleIdentifier now keys s
    exact h.congr hkept hrequest hresults hsaving heTag
      (config_activate_of_ne (by decide) now keys s)
  | execute =>
    obtain ⟨store, hstore, rfl⟩ := Option.map_eq_some_iff.mp hnext
    exact h.congr hkept rfl rfl rfl rfl (config_of_catchUp hstore .fetched)
  | restart =>
    obtain rfl := Option.some.inj hnext
    -- The queue is executed, so that the tables have what was in memory.
    obtain ⟨hqueue, hbusy⟩ := hserves
    have hsaving : s.saving = none := not_not.mp hbusy
    refine ⟨hkept, .idle rfl rfl rfl, fun _ => ?_⟩
    rw [config_restart_of_drained h.kept hqueue]
    exact h.fetched hsaving

theorem current_of_run {events : List (Event P)}
    (hrun : (Serving content tag bundleIdentifier).Run {} events s) :
    Current content tag bundleIdentifier s :=
  hrun.invariant (fun _ _ _ h hstep => h.step hstep) current_initial

/-- A step of the client, in which the keys can be stored and the server answers as
documented. -/
theorem serving_step {event : Event P} (hstep : (system bundleIdentifier).Step s event s')
    (hclean : event.Clean) (hserves : Serves content tag s event) :
    (Serving content tag bundleIdentifier).Step s event s' :=
  EventSystem.step_restrict_iff.mpr
    ⟨EventSystem.step_restrict_iff.mpr ⟨hstep, hclean⟩, hserves⟩

/-- The first configuration is the only version that the server has. -/
theorem answers_firstAnswer :
    Answers (fun _ : Unit => some firstEntries) (fun _ => "v1") () none firstAnswer :=
  .update _ rfl rfl (by simp)

theorem serving_firstHandled :
    (Serving (fun _ : Unit => some firstEntries) (fun _ => "v1") "app").Run {} firstEvents
      firstHandled := by
  have hdefaults : ∀ key ∈ ["json_data", "details_carousel"], Storable key := by decide
  have hkey : ∀ key ∈ ["json_data"], Storable key := by decide
  exact .cons (serving_step ⟨⟨not_not.mpr rfl, entriesOfBoth_enumeratedBy _ _⟩, rfl⟩ hdefaults
      trivial)
    (.cons (serving_step ⟨⟨not_not.mpr rfl, rfl⟩, rfl⟩ trivial rfl)
      (.cons (serving_step ⟨Option.some_ne_none _, rfl⟩ trivial
          ⟨(), none, rfl, answers_firstAnswer⟩)
        (.cons (serving_step ⟨⟨not_not.mpr rfl, firstAnswer, rfl, firstEntries_enumeratedBy⟩,
          rfl⟩ hkey trivial) (.nil _))))

/-- The answer to a request with its ETag. -/
def noChangeAnswer : NetworkResult Unit := ⟨false, .config ⟨some "NO_CHANGE", ∅, none⟩, some "v1"⟩

theorem empty_enumeratedBy : (∅ : NSDictionary String).EnumeratedBy [] :=
  ⟨List.nodup_nil, fun key => by simp [Finmap.notMem_empty]⟩

/-- The next request has been answered so. -/
def unchangedHandled : FIRRemoteConfig Unit :=
  { firstSaved.fetch.respond noChangeAnswer with results := [] }.handle "app" noChangeAnswer []

/-- The first answer comes and is saved, and then one that nothing has changed. -/
theorem serving_unchangedHandled :
    (Serving (fun _ : Unit => some firstEntries) (fun _ => "v1") "app").Run {}
      (firstEvents ++ [.save 1, .fetch, .respond noChangeAnswer, .handle []])
      unchangedHandled := by
  have hsecond : (Serving (fun _ : Unit => some firstEntries) (fun _ => "v1") "app").Run
      firstHandled [.save 1, .fetch, .respond noChangeAnswer, .handle []] unchangedHandled :=
    .cons (serving_step ⟨Option.some_ne_none _, rfl⟩ trivial trivial)
      (.cons (serving_step ⟨⟨not_not.mpr rfl, rfl⟩, rfl⟩ trivial rfl)
        (.cons (serving_step ⟨Option.some_ne_none _, rfl⟩ trivial
            ⟨(), some "v1", rfl, .noChange _ rfl rfl⟩)
          (.cons (serving_step ⟨⟨not_not.mpr rfl, noChangeAnswer, rfl, empty_enumeratedBy⟩,
            rfl⟩ (by simp [Event.Clean]) trivial) (.nil _))))
  exact EventSystem.run_append_iff.mpr ⟨firstHandled, serving_firstHandled, hsecond⟩

/-- **The fetched configuration is the version whose ETag is kept**, in every state
that can be reached: the ETag that was saved last, or in the middle of a job the one
that is about to be saved. -/
theorem fetched_isVersion {events : List (Event P)}
    (hrun : (Serving content tag bundleIdentifier).Run {} events s) :
    IsVersion content tag (s.saving.getD s.lastETag) (s.config .fetched) := by
  have hcurrent := current_of_run hrun
  cases hcurrent.phase with
  | saving v _ _ hsaving hversion =>
    rw [hsaving]
    exact hversion
  | idle _ _ hsaving =>
    rw [hsaving]
    exact hcurrent.fetched hsaving
  | fetching _ _ hsaving =>
    rw [hsaving]
    exact hcurrent.fetched hsaving
  | answered _ _ _ _ hsaving =>
    rw [hsaving]
    exact hcurrent.fetched hsaving

/-- In the middle of the job of the answer that nothing has changed. -/
theorem fetched_isVersion_unchanged :
    unchangedHandled.saving = some (some "v1") ∧
      IsVersion (fun _ : Unit => some firstEntries) (fun _ => "v1")
        (unchangedHandled.saving.getD unchangedHandled.lastETag)
        (unchangedHandled.config .fetched) :=
  ⟨rfl, fetched_isVersion serving_unchangedHandled⟩

end Invariant

/-! ### What was lost -/

section Lost

variable {content : V → Option (NSDictionary String)} {tag : V → String} {v : V}
  {bundleIdentifier : String} {s s' : FIRRemoteConfig P}
  {dict : NSDictionary FIRRemoteConfigValue}

/-- The server has version `v` and answers as documented. -/
def Keeps (content : V → Option (NSDictionary String)) (tag : V → String) (v : V)
    (s : FIRRemoteConfig P) : Event P → Prop
  | .respond result => ∃ eTag, s.request = some eTag ∧ Answers content tag v eTag result
  | _ => True

/-- Nothing that is in memory, on the disk or under way changes `dict` as the fetched
configuration, while the server has version `v`. -/
structure Stuck (content : V → Option (NSDictionary String)) (tag : V → String) (v : V)
    (bundleIdentifier : String) (dict : NSDictionary FIRRemoteConfigValue)
    (s : FIRRemoteConfig P) : Prop where
  store : s.store.Coherent Database.execute
    (RCNConfigContent.configForNamespace FIRNamespace .fetched)
    (Database.holds bundleIdentifier FIRNamespace .fetched) Eq (· = dict)
  lastETag : s.lastETag = some (tag v)
  request : ∀ eTag, s.request = some eTag → eTag = some (tag v)
  results : ∀ result ∈ s.results, Answers content tag v (some (tag v)) result
  saving : ∀ eTag, s.saving = some eTag → eTag = some (tag v)

/-- A step that leaves the fetched configuration alone, and what is under way. -/
theorem Stuck.write (memory : RCNConfigContent) (ops : List DBOperation)
    (h : Stuck content tag v bundleIdentifier dict s)
    (hmemory : memory.configForNamespace FIRNamespace .fetched = s.config .fetched)
    (hops : ∀ op ∈ ops, op.table ≠ some .fetched)
    (hstore : s'.store = s.store.write memory ops) (hlastETag : s'.lastETag = some (tag v))
    (hrequest : s'.request = s.request) (hresults : ∀ result ∈ s'.results, result ∈ s.results)
    (hsaving : ∀ eTag, s'.saving = some eTag → eTag = some (tag v)) :
    Stuck content tag v bundleIdentifier dict s' where
  store := by
    rw [hstore]
    refine h.store.write ?_ (fun _ => rfl) (hmemory.trans h.store.seen_memory)
    rw [hmemory]
    exact WriteBehind.Writes.of_frame fun op hop => Database.holds_execute_of_table_ne (hops op hop)
  lastETag := hlastETag
  request := hrequest ▸ h.request
  results result hresult := h.results result (hresults result hresult)
  saving := hsaving

theorem table_ne_of_mem_replaceConfig {source : RCNDBSource} (hsource : source ≠ .fetched)
    {entries : List (String × ByteArray)} {content : RCNConfigContent} {op : DBOperation}
    (hop : op ∈ (content.replaceConfig bundleIdentifier FIRNamespace source entries).2) :
    op.table ≠ some .fetched := by
  rcases List.mem_cons.mp hop with rfl | hinsertion
  · exact fun h => hsource (Option.some.inj h)
  · obtain ⟨entry, -, rfl⟩ := List.mem_map.mp hinsertion
    exact fun h => hsource (Option.some.inj h)

/-- The answer to a request with the ETag of the server's version brings nothing. -/
theorem Stuck.handle {result : NetworkResult P} {results : List (NetworkResult P)}
    (h : Stuck content tag v bundleIdentifier dict s) (hresults : s.results = result :: results)
    (keys : List String) :
    Stuck content tag v bundleIdentifier dict
      ({ s with results := results }.handle bundleIdentifier result keys) := by
  have hanswer := h.results result (by rw [hresults]; exact List.mem_cons_self)
  have hrest : ∀ r ∈ results, r ∈ s.results := by
    intro r hr
    rw [hresults]
    exact List.mem_cons_of_mem _ hr
  have hdropped : Stuck content tag v bundleIdentifier dict { s with results := results } :=
    { h with results := fun r hr => h.results r (hrest r hr) }
  -- The server keeps its version: it can only fail, or say that nothing has changed.
  cases hanswer with
  | failed body eTag =>
    exact hdropped.write s.store.memory [.deleteRecord bundleIdentifier FIRNamespace,
      .insertMetadataTable bundleIdentifier FIRNamespace s.lastApplyTimeInterval] rfl
      (by simp [DBOperation.table]) rfl h.lastETag rfl (fun _ hr => hr) h.saving
  | noData eTag => exact hdropped
  | serverError eTag => exact hdropped
  | noChange response hstate _ =>
    have hcases := RCNConfigContent.updateConfigContentWithResponse_cases bundleIdentifier
      FIRNamespace response keys s.store.memory
    rcases hcases with ⟨-, hops, hsame⟩ | ⟨hother, -⟩ | ⟨hother, -⟩
    · obtain ⟨hrequest', hresults', hlastETag', -⟩ := handle_frame bundleIdentifier
        ⟨false, .config response, some (tag v)⟩ keys { s with results := results }
      refine hdropped.write _ _ (hsame .fetched) (fun op hop => absurd hop ?_)
        (store_handleUpdatePersonalization response _) (hlastETag'.trans h.lastETag) hrequest'
        (fun r hr => hresults' ▸ hr) fun eTag heTag => (Option.some.inj heTag).symm
      rw [hops]
      exact List.not_mem_nil
    · simp [hstate] at hother
    · simp [hstate] at hother
  | update response _ _ hother => exact absurd rfl hother
  | emptyConfig response _ _ hother => exact absurd rfl hother
  | noTemplate response _ _ hother => exact absurd rfl hother

theorem Stuck.step (h : Stuck content tag v bundleIdentifier dict s) {event : Event P}
    (hstep : ((system bundleIdentifier).restrict (Keeps content tag v)).Step s event s') :
    Stuck content tag v bundleIdentifier dict s' := by
  obtain ⟨⟨-, hnext⟩, hkeeps⟩ := EventSystem.step_restrict_iff.mp hstep
  cases event with
  | setDefaults defaults keys =>
    obtain rfl := Option.some.inj hnext
    have hconfig : (s.setDefaults bundleIdentifier defaults keys).config .fetched =
        s.config .fetched := config_setDefaults (by decide) defaults keys s
    exact h.write _ _ hconfig
      (fun op hop => table_ne_of_mem_replaceConfig (by decide) hop) rfl h.lastETag rfl
      (fun _ hr => hr) h.saving
  | fetch =>
    obtain rfl := Option.some.inj hnext
    exact { h with request := fun eTag heTag => (Option.some.inj heTag).symm.trans h.lastETag }
  | respond result =>
    obtain rfl := Option.some.inj hnext
    obtain ⟨eTag, hrequest, hanswer⟩ := hkeeps
    obtain rfl := h.request eTag hrequest
    refine ⟨h.store, h.lastETag, fun eTag heTag => absurd heTag (by simp [respond]), ?_, h.saving⟩
    intro r hr
    rcases List.mem_append.mp hr with hold | hnew
    · exact h.results r hold
    · exact List.mem_singleton.mp hnew ▸ hanswer
  | handle keys =>
    simp only [system, next] at hnext
    split at hnext
    · exact absurd hnext (by simp)
    · rename_i result results hresults
      obtain rfl := Option.some.inj hnext
      exact h.handle hresults keys
  | save now =>
    obtain ⟨eTag, hsaving, rfl⟩ := Option.map_eq_some_iff.mp hnext
    obtain rfl := h.saving eTag hsaving
    obtain ⟨hrequest, hresults, hnone, -⟩ := save_frame bundleIdentifier now (some (tag v)) s
    -- The ETag is the same as before, and only metadata are written.
    refine h.write s.store.memory [.deleteRecord bundleIdentifier FIRNamespace,
      .insertMetadataTable bundleIdentifier FIRNamespace s.lastApplyTimeInterval] rfl
      (by simp [DBOperation.table]) ?_ (lastETag_save now (tag v) s) hrequest
      (fun r hr => hresults ▸ hr) fun eTag heTag => absurd (hnone.symm.trans heTag) (by simp)
    simp only [save]
    split <;> rfl
  | activate now keys =>
    obtain rfl := Option.some.inj hnext
    have hconfig : (s.activate bundleIdentifier now keys).config .fetched = s.config .fetched :=
      config_activate_of_ne (by decide) now keys s
    -- A skipped activation writes nothing; any other writes the active table and metadata.
    rw [activate] at hconfig ⊢
    split at hconfig
    · rename_i hskip
      rwa [if_pos hskip]
    · rename_i hactivate
      rw [if_neg hactivate]
      refine h.write _ ((s.store.memory.copyFetched bundleIdentifier FIRNamespace keys).2 ++
        [.updateApplyTime FIRNamespace now]) hconfig (fun op hop => ?_) ?_ h.lastETag rfl
        (fun _ hr => hr) h.saving
      · rcases List.mem_append.mp hop with hcopy | hmetadata
        · exact table_ne_of_mem_replaceConfig (by decide) hcopy
        · rw [List.mem_singleton.mp hmetadata]
          simp [DBOperation.table]
      · simp only [enqueue, update, WriteBehind.write, List.append_assoc]
  | execute =>
    obtain ⟨store, hstore, rfl⟩ := Option.map_eq_some_iff.mp hnext
    exact { h with store := h.store.catchUp hstore }
  | restart =>
    obtain rfl := Option.some.inj hnext
    refine ⟨?_, h.lastETag, fun eTag heTag => absurd heTag (by simp [restart]),
      fun r hr => absurd hr (by simp [restart]), fun eTag heTag => absurd heTag (by simp [restart])⟩
    exact h.store.restart_of_closed
      (RCNConfigContent.configForNamespace_loadConfigFromMainTable bundleIdentifier FIRNamespace
        .fetched) fun u v huv hv => huv.trans hv

theorem stuck_restart (hlastETag : s.lastETag = some (tag v)) :
    Stuck content tag v bundleIdentifier (s.stored bundleIdentifier .fetched)
      (s.restart bundleIdentifier) where
  store := by
    have hview : (s.restart bundleIdentifier).config .fetched =
        s.stored bundleIdentifier .fetched := config_restart .fetched s
    refine ⟨hview.symm, fun n => ⟨_, rfl, ?_⟩, hview⟩
    show Database.holds _ _ _ (List.foldl _ _ (List.take n [])) = _
    rw [List.take_nil]
    rfl
  lastETag := hlastETag
  request eTag heTag := absurd heTag (by simp [restart])
  results r hr := absurd hr (by simp [restart])
  saving eTag heTag := absurd heTag (by simp [restart])

/-- **What a restart has lost is not fetched again** while the server keeps the
version whose ETag was saved: whatever happens after the restart, further restarts
included, the fetched configuration stays what that restart loaded. -/
theorem fetched_after_restart {events : List (Event P)} (hlastETag : s.lastETag = some (tag v))
    (hrun : ((system bundleIdentifier).restrict (Keeps content tag v)).Run
      (s.restart bundleIdentifier) events s') :
    s'.config .fetched = s.stored bundleIdentifier .fetched := by
  have hstart : Stuck content tag v bundleIdentifier (s.stored bundleIdentifier .fetched)
      (s.restart bundleIdentifier) := stuck_restart hlastETag
  exact (hrun.invariant (fun _ _ _ h hstep => Stuck.step h hstep) hstart).store.seen_memory

/-- The job of that answer, in the launch after the first configuration was lost: its ETag
was saved, but none of its rows was written. -/
def lostHandled : FIRRemoteConfig Unit :=
  { (firstSaved.restart "app").fetch.respond noChangeAnswer with results := [] }.handle "app"
    noChangeAnswer []

theorem run_lostHandled :
    ((system "app").restrict (Keeps (fun _ => some firstEntries) (fun _ => "v1") ())).Run
      (firstSaved.restart "app") [.fetch, .respond noChangeAnswer, .handle []] lostHandled := by
  refine .cons (EventSystem.step_restrict_iff.mpr ⟨⟨⟨by simp [Busy, restart], rfl⟩, rfl⟩, trivial⟩)
    (.cons (EventSystem.step_restrict_iff.mpr ⟨⟨Option.some_ne_none _, rfl⟩, _, rfl,
      .noChange _ rfl rfl⟩) (.cons (EventSystem.step_restrict_iff.mpr ⟨⟨⟨?_, noChangeAnswer, rfl,
        empty_enumeratedBy⟩, rfl⟩, trivial⟩) (.nil _)))
  simp [Busy, restart, respond, fetch]

/-- Nothing was loaded, and nothing is fetched again. -/
theorem fetched_after_restart_first :
    firstSaved.stored "app" .fetched = ∅ ∧
      lostHandled.config .fetched = firstSaved.stored "app" .fetched :=
  ⟨rfl, fetched_after_restart rfl run_lostHandled⟩

end Lost

end FIRRemoteConfig

end HolyWater
