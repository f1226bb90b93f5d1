/-
What the app reads of what was served.

The values are kept as UTF-8 data and read as strings; so what the app reads is what
the server sent, or the default that the manager registered.

* `getConfigValue_eq` — reading goes to the active texts, the default texts and ""
  in this order, as `configValueForKey` of the plain configurations does;
* `texts_default_run` — the default texts are those of the defaults registered last;
* `getConfigValue_after_activate` — after an activation the app reads the entries of
  the version whose ETag was saved last, over those defaults;
* `performs_run` — saving an answer and activating are, one by one, the `store` and
  `activate` jobs of the queue against which the completions are proved.
-/
import HolyWater.Activation
import HolyWater.ConfigQueue

namespace HolyWater

theorem fromUTF8?_toUTF8 (text : String) : String.fromUTF8? text.toUTF8 = some text := by
  have hvalid : text.toUTF8.IsValidUTF8 := text.isValidUTF8
  rw [String.fromUTF8?, dif_pos hvalid]
  rfl

namespace FIRRemoteConfig

variable {P V : Type} {bundleIdentifier : String} {s s' : FIRRemoteConfig P} {keys : List String}

/-! ### Texts -/

/-- The configuration as the texts of its values. -/
def texts (source : RCNDBSource) (s : FIRRemoteConfig P) : Config := fun key =>
  ((s.config source).lookup key).bind FIRRemoteConfigValue.stringValue

theorem texts_congr {source source' : RCNDBSource} (h : s'.config source' = s.config source) :
    s'.texts source' = s.texts source := by
  funext key
  rw [texts, texts, h]

/-- The reading of the manager. -/
def getConfigValue (key : String) (s : FIRRemoteConfig P) : String :=
  ((s.configValueForKey key).stringValue).getD ""

theorem stringValue_of_sound {source : RCNDBSource}
    (h : RCNConfigContent.Sound source (s.config source))
    (hsource : source ≠ .default) {key : String} {value : FIRRemoteConfigValue}
    (hlookup : (s.config source).lookup key = some value) :
    ∃ text, value.stringValue = some text := by
  obtain ⟨text, htext⟩ := (h key value hlookup).2.2 hsource
  refine ⟨text, ?_⟩
  rw [FIRRemoteConfigValue.stringValue, htext, fromUTF8?_toUTF8]

/-- **The reading of the app** goes through the plain texts: every active value has
one, so that a default is read only for a key that is not active. -/
theorem getConfigValue_eq (h : Kept bundleIdentifier s) (key : String) :
    s.getConfigValue key =
      HolyWater.configValueForKey (s.texts .active) (s.texts .default) key := by
  rw [getConfigValue, configValueForKey, HolyWater.configValueForKey, texts, texts]
  rcases hactive : (s.config .active).lookup key with _ | value
  · rcases hdefault : (s.config .default).lookup key with _ | value
    · rfl
    · rw [Option.bind_none, Option.bind_some]
      cases value.stringValue <;> rfl
  · obtain ⟨text, htext⟩ := stringValue_of_sound (h .active).seen_memory (by decide) hactive
    rw [Option.bind_some, htext]
    rfl

variable {content : V → Option (NSDictionary String)} {tag : V → String} {clock clock' : ℚ}

/-- The entries of the template, or of no template. -/
def served (entries : Option (NSDictionary String)) : Config := fun key =>
  (entries.getD ∅).lookup key

theorem texts_of_lookup {source : RCNDBSource} {entries : Option (NSDictionary String)}
    (h : ∀ key, (s.config source).lookup key = valueOf entries key) :
    s.texts source = served entries := by
  funext key
  rw [texts, h, valueOf, served]
  rcases (entries.getD ∅).lookup key with _ | text
  · rfl
  · exact fromUTF8?_toUTF8 text

/-- The active texts are the entries of the version whose ETag was saved last. -/
theorem texts_after_activate {events : List (Event P)}
    (hrun : (Timed content tag bundleIdentifier).Run ({}, 0) events (s, clock)) {now : ℚ}
    (hstep : (Timed content tag bundleIdentifier).Step (s, clock) (.activate now keys)
      (s', clock')) :
    ∃ v : Option V, v.map tag = s'.lastETag ∧ s'.texts .active = served (v.bind content) := by
  have hdated := dated_of_run hrun
  obtain ⟨hserving, -⟩ := EventSystem.step_clocked_iff.mp hstep
  obtain ⟨hstoring, -⟩ := EventSystem.step_restrict_iff.mp hserving
  obtain ⟨⟨hbusy, henum⟩, hnext⟩ := (EventSystem.step_restrict_iff.mp hstoring).1
  obtain rfl := Option.some.inj hnext
  obtain ⟨v, hv, hlookup⟩ := hdated.isVersion_activate (not_not.mp hbusy) henum now
  exact ⟨v, hv.trans (activate_frame bundleIdentifier now keys s).2.2.2.1.symm,
    texts_of_lookup hlookup⟩

/-! ### The registered defaults -/

/-- The text that the app reads of a default value, if it has one. -/
def textOfDefault : DefaultValue → Option String
  | .data value | .json value => String.fromUTF8? value
  | .string text | .number text | .date text => some text
  | .other => none

theorem valueData_bind_fromUTF8? (value : DefaultValue) :
    value.valueData.bind String.fromUTF8? = textOfDefault value := by
  cases value with
  | data value => rfl
  | string text => exact fromUTF8?_toUTF8 text
  | number text => exact fromUTF8?_toUTF8 text
  | date text => exact fromUTF8?_toUTF8 text
  | json value => rfl
  | other => rfl

def textsOfDefaults (defaults : NSDictionary DefaultValue) : Config := fun key =>
  (defaults.lookup key).bind textOfDefault

/-- What the manager registers has the texts that it counts on. -/
theorem textsOfDefaults_managerDefaults :
    textsOfDefaults managerDefaults = FirebaseRemoteConfigManager.setupRemoteConfigDefaults := by
  funext key
  rw [textsOfDefaults, managerDefaults, entriesOfBoth,
    FirebaseRemoteConfigManager.setupRemoteConfigDefaults]
  by_cases hjson : key = "json_data"
  · subst hjson
    rfl
  · by_cases hcarousel : key = "details_carousel"
    · subst hcarousel
      rfl
    · rw [Finmap.lookup_insert_of_ne _ hcarousel, if_neg hjson, if_neg hcarousel,
        Finmap.lookup_eq_none.mpr fun hmem => hjson ((Finmap.mem_singleton _ _ _).mp hmem)]
      rfl

/-- The defaults that the event registers. -/
def Event.defaults : Event P → Option (NSDictionary DefaultValue)
  | .setDefaults defaults _ => some defaults
  | _ => none

/-- The defaults registered last; each registration replaces those before it. -/
def registered (events : List (Event P)) : NSDictionary DefaultValue :=
  events.foldl (fun defaults event => event.defaults.getD defaults) ∅

theorem registered_append (events : List (Event P)) (event : Event P) :
    registered (events ++ [event]) = event.defaults.getD (registered events) := by
  rw [registered, List.foldl_append]
  rfl

theorem texts_setDefaults {defaults : NSDictionary DefaultValue}
    (henum : defaults.EnumeratedBy keys) (s : FIRRemoteConfig P) :
    (s.setDefaults bundleIdentifier defaults keys).texts .default = textsOfDefaults defaults := by
  funext key
  have hconfig : (s.setDefaults bundleIdentifier defaults keys).config .default =
      NSDictionary.insertAll ∅ (RCNDBSource.default.values
        (defaults.enumerate DefaultValue.valueData keys)) :=
    RCNConfigContent.configForNamespace_replaceConfig bundleIdentifier .default _ s.store.memory
  rw [texts, hconfig, RCNConfigContent.lookup_insertAll_values henum, textsOfDefaults]
  rcases defaults.lookup key with _ | value
  · rfl
  · rw [Option.bind_some, Option.bind_some, ← valueData_bind_fromUTF8?]
    cases value.valueData <;> rfl

/-- Only a registration changes the default texts, to the registered ones. -/
theorem texts_default_step (hcurrent : Current content tag bundleIdentifier s) {event : Event P}
    (hstep : (Serving content tag bundleIdentifier).Step s event s') :
    s'.texts .default = (event.defaults.map textsOfDefaults).getD (s.texts .default) := by
  obtain ⟨hstoring, hserves⟩ := EventSystem.step_restrict_iff.mp hstep
  obtain ⟨henabled, hnext⟩ := (EventSystem.step_restrict_iff.mp hstoring).1
  cases event with
  | setDefaults defaults keys =>
    obtain rfl := Option.some.inj hnext
    exact texts_setDefaults henabled.2 s
  | fetch =>
    obtain rfl := Option.some.inj hnext
    rfl
  | respond result =>
    obtain rfl := Option.some.inj hnext
    rfl
  | handle keys =>
    simp only [system, next] at hnext
    split at hnext
    · exact absurd hnext (by simp)
    · rename_i result results _
      obtain rfl := Option.some.inj hnext
      exact texts_congr (config_handle_of_ne (by decide) result keys { s with results := results })
  | save now =>
    obtain ⟨eTag, -, rfl⟩ := Option.map_eq_some_iff.mp hnext
    exact texts_congr ((save_frame bundleIdentifier now eTag s).2.2.2 .default)
  | activate now keys =>
    obtain rfl := Option.some.inj hnext
    exact texts_congr (config_activate_of_ne (by decide) now keys s)
  | execute =>
    obtain ⟨store, hstore, rfl⟩ := Option.map_eq_some_iff.mp hnext
    exact texts_congr (config_of_catchUp hstore .default)
  | restart =>
    obtain rfl := Option.some.inj hnext
    exact texts_congr (config_restart_of_drained hcurrent.kept hserves.1 .default)

/-- **The default texts are those of the defaults registered last**, along every run:
they too are kept across launches. -/
theorem texts_default_run {events : List (Event P)}
    (hrun : (Timed content tag bundleIdentifier).Run ({}, 0) events (s, clock)) :
    s.texts .default = textsOfDefaults (registered events) := by
  induction events using List.reverseRecOn generalizing s clock with
  | nil =>
    obtain ⟨rfl, rfl⟩ := Prod.mk.inj (EventSystem.run_nil_iff.mp hrun)
    rfl
  | append_singleton events event ih =>
    obtain ⟨⟨s₁, clock₁⟩, hrun₁, hlast⟩ := EventSystem.run_append_iff.mp hrun
    have hstep := EventSystem.run_singleton_iff.mp hlast
    rw [texts_default_step (dated_of_run hrun₁).current (EventSystem.step_clocked_iff.mp hstep).1,
      ih hrun₁, registered_append]
    cases event.defaults <;> rfl

/-- **What the app reads after an activation is what was served**: for every key the
entry of the version whose ETag was saved last; where it has none the default that was
registered last; and "" otherwise. -/
theorem getConfigValue_after_activate {events : List (Event P)}
    (hrun : (Timed content tag bundleIdentifier).Run ({}, 0) events (s, clock)) {now : ℚ}
    (hstep : (Timed content tag bundleIdentifier).Step (s, clock) (.activate now keys)
      (s', clock')) :
    ∃ v : Option V, v.map tag = s'.lastETag ∧ ∀ key, s'.getConfigValue key =
      HolyWater.configValueForKey (served (v.bind content)) (textsOfDefaults (registered events))
        key := by
  have hdated := dated_of_run hrun
  obtain ⟨v, hv, htexts⟩ := texts_after_activate hrun hstep
  have hdefault := texts_default_step hdated.current (EventSystem.step_clocked_iff.mp hstep).1
  refine ⟨v, hv, fun key => ?_⟩
  rw [getConfigValue_eq (hdated.step hstep).current.kept, htexts, hdefault]
  exact congrArg (HolyWater.configValueForKey _ · key) (texts_default_run hrun)

/-- The entry that was served, and the default of the manager for the other key. -/
theorem getConfigValue_after_activate_first :
    firstActivated.lastETag = some "v1" ∧
    (∀ key, firstActivated.getConfigValue key =
      FirebaseRemoteConfigManager.getConfigValue (served (some firstEntries)) key) ∧
    firstActivated.getConfigValue "json_data" = "[]" ∧
    firstActivated.getConfigValue "details_carousel" = "JSON data" := by
  have hlast : firstActivated.lastETag = some "v1" :=
    (activate_frame "app" 2 ["json_data"] firstSaved).2.2.2.1.trans (lastETag_save 1 "v1" _)
  obtain ⟨v, hv, hread⟩ := getConfigValue_after_activate timed_firstSaved timed_firstActivated
  have hdefaults : textsOfDefaults (registered (firstEvents ++ [.save 1])) =
      FirebaseRemoteConfigManager.setupRemoteConfigDefaults := textsOfDefaults_managerDefaults
  have hall : ∀ key, firstActivated.getConfigValue key =
      FirebaseRemoteConfigManager.getConfigValue (served (some firstEntries)) key := by
    intro key
    cases v with
    | none => exact absurd (hv.trans hlast) (by simp)
    | some v => rw [hread, hdefaults]; rfl
  exact ⟨hlast, hall, (hall _).trans rfl, (hall _).trans rfl⟩

/-! ### The jobs that completions see -/

/-- The jobs that an event is to the completions, when it leaves `s'`: saving stores the
texts that are fetched then. -/
def Event.jobs (s' : FIRRemoteConfig P) : Event P → List Job
  | .save _ => [.store 0 .library (s'.texts .fetched)]
  | .activate _ _ => [.activate]
  | _ => []

/-- The jobs of the queue, one after the other. -/
def jobs : EventSystem ConfigQueues Job where
  enabled _ _ := True
  next q job := ({ q with queue := [job] } : ConfigQueues).runJob

/-- The last version stored is the fetched configuration, and the active version the
active one. -/
structure Abstracts (s : FIRRemoteConfig P) (q : ConfigQueues) : Prop where
  active_le : q.active ≤ q.stored.length
  active : q.config q.active = s.texts .active
  fetched : s.saving = none → q.config q.stored.length = s.texts .fetched

theorem abstracts_initial :
    Abstracts ({} : FIRRemoteConfig P) { stored := [], active := 0 } where
  active_le := le_rfl
  active := rfl
  fetched _ := rfl

/-- Nothing happens to the configurations. -/
theorem Abstracts.congr {q : ConfigQueues} (h : Abstracts s q)
    (hactive : s'.config .active = s.config .active)
    (hfetched : s'.saving = none → s.saving = none ∧ s'.config .fetched = s.config .fetched) :
    Abstracts s' q where
  active_le := h.active_le
  active := by
    rw [h.active, texts_congr hactive]
  fetched hnone := by
    obtain ⟨hsaving, hconfig⟩ := hfetched hnone
    rw [h.fetched hsaving, texts_congr hconfig]

theorem Abstracts.stutter {q : ConfigQueues} (h : Abstracts s' q) :
    ∃ q', jobs.Run q [] q' ∧ Abstracts s' q' :=
  ⟨q, .nil q, h⟩

/-- An answer is saved: its configuration is stored. -/
theorem Abstracts.store {q : ConfigQueues} (h : Abstracts s q)
    (hactive : s'.config .active = s.config .active) :
    ∃ q', jobs.Step q (.store 0 .library (s'.texts .fetched)) q' ∧ Abstracts s' q' := by
  refine ⟨_, ⟨trivial, rfl⟩, ?_, ?_, fun _ => ?_⟩
  · show q.active ≤ (q.stored ++ [s'.texts .fetched]).length
    rw [List.length_append]
    exact h.active_le.trans (Nat.le_add_right ..)
  · rw [ConfigQueues.config_eq (q := q) (List.prefix_append ..) h.active_le, h.active,
      texts_congr hactive]
  · show (if (q.stored ++ [s'.texts .fetched]).length = 0 then _ else _) = _
    rw [List.length_append, List.length_singleton, if_neg (Nat.succ_ne_zero _),
      Nat.add_sub_cancel, List.getElem?_append_right le_rfl]
    simp

/-- An activation makes the last version active. -/
theorem Abstracts.activate {q : ConfigQueues} (h : Abstracts s q) (hsaving : s.saving = none)
    (hactive : s'.config .active = s.config .fetched)
    (hfetched : s'.config .fetched = s.config .fetched) :
    ∃ q', jobs.Step q .activate q' ∧ Abstracts s' q' := by
  have hlast := h.fetched hsaving
  refine ⟨_, ⟨trivial, rfl⟩, le_rfl, ?_, fun _ => ?_⟩
  · show q.config q.stored.length = _
    rw [hlast, texts_congr hactive]
  · show q.config q.stored.length = _
    rw [hlast, texts_congr hfetched]

/-- One step, followed by the jobs it stands for. -/
theorem Abstracts.step (htag : ∀ v v', tag v = tag v' → content v = content v')
    (hdated : Dated content tag bundleIdentifier s clock) {q : ConfigQueues} (h : Abstracts s q)
    {event : Event P}
    (hstep : (Timed content tag bundleIdentifier).Step (s, clock) event (s', clock')) :
    ∃ q', jobs.Run q (event.jobs s') q' ∧ Abstracts s' q' := by
  obtain ⟨hserving, -⟩ := EventSystem.step_clocked_iff.mp hstep
  obtain ⟨hstoring, hserves⟩ := EventSystem.step_restrict_iff.mp hserving
  obtain ⟨henabled, hnext⟩ := (EventSystem.step_restrict_iff.mp hstoring).1
  have hcurrent := hdated.current
  cases event with
  | setDefaults defaults keys =>
    obtain rfl := Option.some.inj hnext
    exact (h.congr (config_setDefaults (by decide) defaults keys s) fun hnone =>
      ⟨hnone, config_setDefaults (by decide) defaults keys s⟩).stutter
  | fetch =>
    obtain rfl := Option.some.inj hnext
    have hsame : Abstracts s.fetch q := h.congr rfl fun hnone => ⟨hnone, rfl⟩
    exact hsame.stutter
  | respond result =>
    obtain rfl := Option.some.inj hnext
    have hsame : Abstracts (s.respond result) q := h.congr rfl fun hnone => ⟨hnone, rfl⟩
    exact hsame.stutter
  | handle keys =>
    obtain ⟨hbusy, result, hresult, henum⟩ := henabled
    have hsaving : s.saving = none := not_not.mp hbusy
    simp only [system, next] at hnext
    split at hnext
    · exact absurd hnext (by simp)
    · rename_i first results hresults
      obtain rfl := Option.some.inj hnext
      obtain rfl : first = result := by simpa [hresults] using hresult
      have hactive : ({ s with results := results }.handle bundleIdentifier first keys).config
          .active = s.config .active := config_handle_of_ne (by decide) first keys _
      refine (h.congr hactive fun hnone => ⟨hsaving, ?_⟩).stutter
      -- Only an answer that is to be saved changes what is fetched, and then nothing is claimed.
      cases hcurrent.phase with
      | answered result v _ hone _ hanswer =>
        obtain ⟨rfl, rfl⟩ := List.cons.inj (hresults.symm.trans hone)
        rcases handle_answer bundleIdentifier { s with results := [] } henum hanswer hsaving
          (hcurrent.fetched hsaving) with ⟨hsaving', -⟩ | ⟨-, hconfig⟩
        · exact absurd (hsaving'.symm.trans hnone) (by simp)
        · exact hconfig
      | idle _ hnone => exact absurd (hresults.symm.trans hnone) (by simp)
      | fetching _ hnone => exact absurd (hresults.symm.trans hnone) (by simp)
      | saving _ _ hnone => exact absurd (hresults.symm.trans hnone) (by simp)
  | save now =>
    obtain ⟨eTag, -, rfl⟩ := Option.map_eq_some_iff.mp hnext
    have hactive : (s.save bundleIdentifier now eTag).config .active = s.config .active :=
      (save_frame bundleIdentifier now eTag s).2.2.2 .active
    obtain ⟨q', hq', habstracts⟩ := h.store hactive
    exact ⟨q', EventSystem.run_singleton_iff.mpr hq', habstracts⟩
  | activate now keys =>
    obtain rfl := Option.some.inj hnext
    have hsaving : s.saving = none := not_not.mp henabled.1
    -- Both are of the saved ETag, which determines the content.
    have hactive := (hdated.isVersion_activate hsaving henabled.2 now).eq htag
      (hcurrent.fetched hsaving)
    obtain ⟨q', hq', habstracts⟩ := h.activate hsaving hactive
      (config_activate_of_ne (by decide) now keys s)
    exact ⟨q', EventSystem.run_singleton_iff.mpr hq', habstracts⟩
  | execute =>
    obtain ⟨store, hstore, rfl⟩ := Option.map_eq_some_iff.mp hnext
    exact (h.congr (config_of_catchUp hstore .active) fun hnone =>
      ⟨hnone, config_of_catchUp hstore .fetched⟩).stutter
  | restart =>
    obtain rfl := Option.some.inj hnext
    have hsame := config_restart_of_drained hcurrent.kept hserves.1
    exact (h.congr (hsame .active) fun _ => ⟨not_not.mp hserves.2, hsame .fetched⟩).stutter

/-- The jobs along a run. -/
def jobsAlong (content : V → Option (NSDictionary String)) (tag : V → String)
    (bundleIdentifier : String) : FIRRemoteConfig P × ℚ → List (Event P) → List Job :=
  (Timed content tag bundleIdentifier).emitted fun _ event state => event.jobs state.1

/-- **The queue of the completions is what the client does.**  Along every run with a
server that answers as documented and a clock that goes forward, the jobs of the run,
one `store` with the texts fetched by then for every answer that is saved, and one
`activate` for every activation, take the queue to where the client is: the version
stored last is what is fetched, and the active version what is active; although the
client may skip activations, gets no entries when nothing has changed, and is started
again in between. -/
theorem performs_run (htag : ∀ v v', tag v = tag v' → content v = content v')
    {events : List (Event P)}
    (hrun : (Timed content tag bundleIdentifier).Run ({}, 0) events (s, clock)) :
    ∃ q, jobs.Run { stored := [], active := 0 }
        (jobsAlong content tag bundleIdentifier ({}, 0) events) q ∧ Abstracts s q := by
  have hsimulate := hrun.simulate (N := jobs)
    (fun state q => Dated content tag bundleIdentifier state.1 state.2 ∧ Abstracts state.1 q)
    (fun _ _ _ _ h hstep => by
      obtain ⟨q', hjobs, habstracts⟩ := h.2.step htag h.1 hstep
      exact ⟨q', hjobs, h.1.step hstep, habstracts⟩)
    ⟨dated_initial, abstracts_initial⟩
  obtain ⟨q, hjobs, -, habstracts⟩ := hsimulate
  exact ⟨q, hjobs, habstracts⟩

/-- The first answer is saved, and activated. -/
theorem performs_run_first : ∃ q, jobs.Run { stored := [], active := 0 }
      [.store 0 .library (served (some firstEntries)), .activate] q ∧
    Abstracts firstActivated q := by
  have hfirst : firstSaved.texts .fetched = served (some firstEntries) := by
    obtain ⟨v, hv, hlookup⟩ := (dated_of_run timed_firstSaved).current.fetched rfl
    cases v with
    | none => exact absurd (hv.trans (lastETag_save 1 "v1" firstHandled)) (by simp)
    | some v => exact texts_of_lookup hlookup
  have hjobs : jobsAlong (fun _ : Unit => some firstEntries) (fun _ => "v1") "app" ({}, 0)
      (firstEvents ++ [.save 1] ++ [.activate 2 ["json_data"]]) =
      [.store 0 .library (firstSaved.texts .fetched), .activate] := rfl
  rw [← hfirst, ← hjobs]
  exact performs_run (fun _ _ _ => rfl) (timed_firstSaved.snoc timed_firstActivated)

end FIRRemoteConfig

end HolyWater
