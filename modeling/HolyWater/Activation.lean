/-
Activating what was fetched.

An activation is skipped when the ETag was saved before the last activation, as the
clock has it: then there is nothing new.  So it depends on the clock, and on ETags
that change with the content.

* `dated_of_run` — no activation was later than the clock, and one that was later than
  the ETag made the fetched configuration active;
* `activate_current` — so with a clock that goes forward, every activation leaves what
  was fetched active, also when it is skipped.
-/
import HolyWater.ConditionalFetch
import Mathlib.Tactic.NormNum

namespace HolyWater

/-- The times of activations that the operation writes. -/
def DBOperation.applyTimes : DBOperation → List ℚ
  | .insertMetadataTable _ _ lastApplyTime => [lastApplyTime]
  | .updateApplyTime _ lastApplyTime => [lastApplyTime]
  | _ => []

/-- A statement leaves no times in the metadata table but the ones it found there and
the ones it writes. -/
theorem Database.mem_metadata_execute {db : Database} {op : DBOperation} {row : MetadataRow}
    (h : row ∈ (db.execute op).metadata) :
    (∃ old ∈ db.metadata, old.lastApplyTime = row.lastApplyTime) ∨
      row.lastApplyTime ∈ op.applyTimes := by
  cases op with
  | insertMainTable => exact .inl ⟨row, h, rfl⟩
  | deleteRecordFromMainTable => exact .inl ⟨row, h, rfl⟩
  | insertMetadataTable bundleIdentifier configNamespace lastApplyTime =>
    rcases List.mem_append.mp h with hold | hnew
    · exact .inl ⟨row, hold, rfl⟩
    · rw [List.mem_singleton.mp hnew]
      exact .inr List.mem_cons_self
  | deleteRecord => exact .inl ⟨row, List.mem_of_mem_filter h, rfl⟩
  | updateApplyTime configNamespace lastApplyTime =>
    obtain ⟨old, hold, rfl⟩ := List.mem_map.mp h
    split
    · exact .inr List.mem_cons_self
    · exact .inl ⟨old, hold, rfl⟩

theorem Database.mem_of_loadMetadataTable {bundleIdentifier configNamespace : String}
    {db : Database} {time : ℚ}
    (h : db.loadMetadataTable bundleIdentifier configNamespace = some time) :
    ∃ row ∈ db.metadata, row.lastApplyTime = time := by
  obtain ⟨row, hfind, rfl⟩ := Option.map_eq_some_iff.mp h
  exact ⟨row, List.mem_of_find?_eq_some hfind, rfl⟩

theorem applyTimes_replaceConfig {bundleIdentifier configNamespace : String}
    {source : RCNDBSource} {entries : List (String × ByteArray)} {content : RCNConfigContent}
    {op : DBOperation}
    (hop : op ∈ (content.replaceConfig bundleIdentifier configNamespace source entries).2) :
    op.applyTimes = [] := by
  rcases List.mem_cons.mp hop with rfl | hinsertion
  · rfl
  · obtain ⟨entry, -, rfl⟩ := List.mem_map.mp hinsertion
    rfl

namespace FIRRemoteConfig

variable {P V : Type} {bundleIdentifier : String} {s s' : FIRRemoteConfig P} {keys : List String}

/-! ### The times of activations -/

/-- A restart now or later may bring back `t` as the time of the last activation. -/
def AppliedAt (s : FIRRemoteConfig P) (t : ℚ) : Prop :=
  t = 0 ∨ t = s.lastApplyTimeInterval ∨
    (∃ row ∈ s.store.disk.metadata, row.lastApplyTime = t) ∨
    ∃ op ∈ s.store.queue, t ∈ op.applyTimes

theorem appliedAt_of_write (memory : RCNConfigContent) (ops : List DBOperation) {t : ℚ}
    (hstore : s'.store = s.store.write memory ops)
    (hops : ∀ op ∈ ops, ∀ u ∈ op.applyTimes, u = s'.lastApplyTimeInterval)
    (h : s'.AppliedAt t) : s.AppliedAt t ∨ t = s'.lastApplyTimeInterval := by
  rcases h with hzero | hlast | hrow | ⟨op, hop, ht⟩
  · exact .inl (.inl hzero)
  · exact .inr hlast
  · rw [hstore] at hrow
    exact .inl (.inr (.inr (.inl hrow)))
  · rw [hstore] at hop
    rcases List.mem_append.mp hop with hold | hnew
    · exact .inl (.inr (.inr (.inr ⟨op, hold, ht⟩)))
    · exact .inr (hops op hnew t ht)

theorem appliedAt_of_catchUp {store : WriteBehind RCNConfigContent Database DBOperation} {t : ℚ}
    (hstore : s.store.catchUp Database.execute = some store)
    (h : ({ s with store := store } : FIRRemoteConfig P).AppliedAt t) : s.AppliedAt t := by
  rw [WriteBehind.catchUp] at hstore
  split at hstore
  · exact absurd hstore (by simp)
  · rename_i first queue hqueue
    obtain rfl := Option.some.inj hstore
    rcases h with hzero | hlast | ⟨row, hrow, rfl⟩ | ⟨op, hop, ht⟩
    · exact .inl hzero
    · exact .inr (.inl hlast)
    · rcases Database.mem_metadata_execute hrow with hold | hnew
      · exact .inr (.inr (.inl hold))
      · refine .inr (.inr (.inr ⟨first, ?_, hnew⟩))
        rw [hqueue]
        exact List.mem_cons_self
    · refine .inr (.inr (.inr ⟨op, ?_, ht⟩))
      rw [hqueue]
      exact List.mem_cons_of_mem _ hop

theorem appliedAt_of_restart {t : ℚ} (h : (s.restart bundleIdentifier).AppliedAt t) :
    s.AppliedAt t := by
  rcases h with hzero | hlast | hrow | ⟨op, hop, -⟩
  · exact .inl hzero
  · rcases hload : s.store.disk.loadMetadataTable bundleIdentifier FIRNamespace with _ | time
    · left
      rw [hlast, restart, hload, Option.getD_none]
    · refine .inr (.inr (.inl ?_))
      rw [hlast, restart, hload, Option.getD_some]
      exact Database.mem_of_loadMetadataTable hload
  · exact .inr (.inr (.inl hrow))
  · exact absurd hop (by simp [restart, WriteBehind.restart])

/-- The job of an answer brings no time of an activation. -/
theorem appliedAt_of_handle {result : NetworkResult P} {t : ℚ}
    (h : (s.handle bundleIdentifier result keys).AppliedAt t) : s.AppliedAt t := by
  have hlast := (handle_frame bundleIdentifier result keys s).2.2.2.2
  -- The times that are queued are those of the last activation.
  have hwrite : ∀ memory ops, (s.handle bundleIdentifier result keys).store =
      s.store.write memory ops →
      (∀ op ∈ ops, ∀ u ∈ op.applyTimes, u = s.lastApplyTimeInterval) → s.AppliedAt t := by
    intro memory ops hstore hops
    rcases appliedAt_of_write memory ops hstore (hlast.symm ▸ hops) h with hold | hnow
    · exact hold
    · exact .inr (.inl (hnow.trans hlast))
  have hsame : (s.handle bundleIdentifier result keys).store = s.store → s.AppliedAt t := by
    intro hstore
    refine hwrite s.store.memory [] ?_ (fun op hop => absurd hop (by simp))
    rw [hstore, WriteBehind.write, List.append_nil]
  rw [handle] at hwrite hsame
  split at hwrite
  · refine hwrite _ _ rfl fun op hop u hu => ?_
    rcases List.mem_cons.mp hop with rfl | hinsert
    · exact absurd hu (by simp [DBOperation.applyTimes])
    · rw [List.mem_singleton.mp hinsert] at hu
      exact List.mem_singleton.mp hu
  · rename_i hsucceeded
    rw [if_neg hsucceeded] at hsame
    cases hbody : result.body with
    | noData =>
      rw [hbody] at hsame
      exact hsame rfl
    | notJSON =>
      rw [hbody] at hsame
      exact hsame rfl
    | serverError =>
      rw [hbody] at hsame
      exact hsame rfl
    | config response =>
      rw [hbody] at hwrite
      refine hwrite _ _ (store_handleUpdatePersonalization response _) fun op hop u hu => ?_
      rcases RCNConfigContent.updateConfigContentWithResponse_cases bundleIdentifier FIRNamespace
        response keys s.store.memory with ⟨-, hops, -⟩ | ⟨-, config, -, hchanged⟩ | ⟨-, hchanged⟩
      · rw [hops] at hop
        exact absurd hop (by simp)
      · rw [hchanged] at hop
        rw [List.mem_singleton.mp hop] at hu
        exact absurd hu (by simp [DBOperation.applyTimes])
      · rw [hchanged] at hop
        rw [applyTimes_replaceConfig hop] at hu
        exact absurd hu (by simp)

theorem appliedAt_of_save {now : ℚ} {eTag : Option String} {t : ℚ}
    (h : (s.save bundleIdentifier now eTag).AppliedAt t) : s.AppliedAt t := by
  have hlast : (s.save bundleIdentifier now eTag).lastApplyTimeInterval =
      s.lastApplyTimeInterval := by
    simp only [save]
    split <;> rfl
  have hstore : (s.save bundleIdentifier now eTag).store = s.store.write s.store.memory
      [.deleteRecord bundleIdentifier FIRNamespace,
        .insertMetadataTable bundleIdentifier FIRNamespace s.lastApplyTimeInterval] := by
    simp only [save]
    split <;> rfl
  have hops : ∀ op ∈ [DBOperation.deleteRecord bundleIdentifier FIRNamespace,
      .insertMetadataTable bundleIdentifier FIRNamespace s.lastApplyTimeInterval],
      ∀ u ∈ op.applyTimes, u = (s.save bundleIdentifier now eTag).lastApplyTimeInterval := by
    simp [DBOperation.applyTimes, hlast]
  rcases appliedAt_of_write _ _ hstore hops h with hold | hnew
  · exact hold
  · exact .inr (.inl (hnew.trans hlast))

theorem appliedAt_of_setDefaults {defaults : NSDictionary DefaultValue} {t : ℚ}
    (h : (s.setDefaults bundleIdentifier defaults keys).AppliedAt t) : s.AppliedAt t := by
  have hops : ∀ op ∈ (s.store.memory.copyDefaults bundleIdentifier FIRNamespace defaults keys).2,
      ∀ u ∈ op.applyTimes,
        u = (s.setDefaults bundleIdentifier defaults keys).lastApplyTimeInterval := by
    intro op hop u hu
    rw [applyTimes_replaceConfig hop] at hu
    exact absurd hu (by simp)
  rcases appliedAt_of_write _ _ rfl hops h with hold | hlast
  · exact hold
  · exact .inr (.inl hlast)

theorem appliedAt_of_activate {now t : ℚ}
    (h : (s.activate bundleIdentifier now keys).AppliedAt t) : s.AppliedAt t ∨ t = now := by
  rw [activate] at h
  split at h
  · exact .inl h
  · refine appliedAt_of_write (s.store.memory.copyFetched bundleIdentifier FIRNamespace keys).1
      ((s.store.memory.copyFetched bundleIdentifier FIRNamespace keys).2 ++
        [.updateApplyTime FIRNamespace now]) ?_ ?_ h
    · simp only [enqueue, update, WriteBehind.write, List.append_assoc]
    · intro op hop u hu
      rcases List.mem_append.mp hop with hcopy | hmetadata
      · rw [applyTimes_replaceConfig hcopy] at hu
        exact absurd hu (by simp)
      · rw [List.mem_singleton.mp hmetadata] at hu
        exact List.mem_singleton.mp hu

/-- Only an activation brings a new time. -/
theorem appliedAt_of_next {event : Event P} (hnext : next bundleIdentifier s event = some s')
    {t : ℚ} (h : s'.AppliedAt t) : s.AppliedAt t ∨ ∃ keys, event = .activate t keys := by
  cases event with
  | setDefaults defaults keys =>
    obtain rfl := Option.some.inj hnext
    exact .inl (appliedAt_of_setDefaults h)
  | fetch =>
    obtain rfl := Option.some.inj hnext
    exact .inl h
  | respond result =>
    obtain rfl := Option.some.inj hnext
    exact .inl h
  | handle keys =>
    simp only [next] at hnext
    split at hnext
    · exact absurd hnext (by simp)
    · rename_i result results _
      obtain rfl := Option.some.inj hnext
      have hdropped : ({ s with results := results } : FIRRemoteConfig P).AppliedAt t :=
        appliedAt_of_handle h
      exact .inl hdropped
  | save now =>
    obtain ⟨eTag, -, rfl⟩ := Option.map_eq_some_iff.mp hnext
    exact .inl (appliedAt_of_save h)
  | activate now keys =>
    obtain rfl := Option.some.inj hnext
    rcases appliedAt_of_activate h with hold | rfl
    · exact .inl hold
    · exact .inr ⟨keys, rfl⟩
  | execute =>
    obtain ⟨store, hstore, rfl⟩ := Option.map_eq_some_iff.mp hnext
    exact .inl (appliedAt_of_catchUp hstore h)
  | restart =>
    obtain rfl := Option.some.inj hnext
    exact .inl (appliedAt_of_restart h)

/-! ### The invariant -/

/-- The time at which a job is done, where it matters. -/
def Event.time : Event P → Option ℚ
  | .save now => some now
  | .activate now _ => some now
  | _ => none

/-- The runs in which time goes forward from job to job. -/
def Timed (content : V → Option (NSDictionary String)) (tag : V → String)
    (bundleIdentifier : String) : EventSystem (FIRRemoteConfig P × ℚ) (Event P) :=
  (Serving content tag bundleIdentifier).clocked (· < ·) Event.time

variable {content : V → Option (NSDictionary String)} {tag : V → String} {clock clock' : ℚ}

/-- No activation is later than now, and one that is later than the ETag has made the
version with that ETag active. -/
structure Dated (content : V → Option (NSDictionary String)) (tag : V → String)
    (bundleIdentifier : String) (s : FIRRemoteConfig P) (clock : ℚ) : Prop where
  current : Current content tag bundleIdentifier s
  nonneg : 0 ≤ clock
  applied : ∀ t, s.AppliedAt t → t ≤ clock
  active : ∀ t, s.AppliedAt t → s.lastETagUpdateTime ≤ t →
    IsVersion content tag s.lastETag (s.config .active)

theorem dated_initial : Dated content tag bundleIdentifier ({} : FIRRemoteConfig P) 0 where
  current := current_initial
  nonneg := le_rfl
  applied t ht := by
    rcases ht with rfl | rfl | ⟨row, hrow, -⟩ | ⟨op, hop, -⟩
    · exact le_rfl
    · exact le_rfl
    · exact absurd hrow (by simp)
    · exact absurd hop (by simp)
  active _ _ _ := isVersion_empty

/-- A step that leaves the ETag and the active configuration alone, and brings no new
time. -/
theorem Dated.congr (h : Dated content tag bundleIdentifier s clock)
    (hcurrent : Current content tag bundleIdentifier s') (hclock : clock ≤ clock')
    (heTag : s'.lastETag = s.lastETag) (htime : s'.lastETagUpdateTime = s.lastETagUpdateTime)
    (hactive : s'.config .active = s.config .active)
    (happlied : ∀ t, s'.AppliedAt t → s.AppliedAt t) :
    Dated content tag bundleIdentifier s' clock' where
  current := hcurrent
  nonneg := h.nonneg.trans hclock
  applied t ht := (h.applied t (happlied t ht)).trans hclock
  active t ht hle := by
    rw [heTag, hactive]
    exact h.active t (happlied t ht) (htime ▸ hle)

/-- An ETag is saved: it is the last one already, or it is later than every
activation. -/
theorem Dated.save (h : Dated content tag bundleIdentifier s clock) {now : ℚ}
    (hnow : clock < now) {eTag : Option String}
    (hcurrent : Current content tag bundleIdentifier (s.save bundleIdentifier now eTag)) :
    Dated content tag bundleIdentifier (s.save bundleIdentifier now eTag) now := by
  have happlied : ∀ t, (s.save bundleIdentifier now eTag).AppliedAt t → s.AppliedAt t :=
    fun _ ht => appliedAt_of_save ht
  by_cases hother : s.lastETag = none ∨ s.lastETag ≠ eTag
  · refine ⟨hcurrent, (h.nonneg.trans_lt hnow).le, fun t ht => (h.applied t
      (happlied t ht)).trans hnow.le, fun t ht hle => ?_⟩
    have htime : (s.save bundleIdentifier now eTag).lastETagUpdateTime = now := by
      have hne : now ≠ 0 := (h.nonneg.trans_lt hnow).ne'
      simp only [FIRRemoteConfig.save]
      rw [if_pos hother]
      exact if_neg hne
    rw [htime] at hle
    exact absurd (hnow.trans_le hle) (not_lt.mpr (h.applied t (happlied t ht)))
  · have hsame : s.save bundleIdentifier now eTag =
        ({ s with saving := none } : FIRRemoteConfig P).updateMetadataTable bundleIdentifier := by
      simp only [FIRRemoteConfig.save]
      rw [if_neg hother]
    refine h.congr hcurrent hnow.le ?_ ?_ ((save_frame bundleIdentifier now eTag s).2.2.2 .active)
      happlied
    · rw [hsame]
      rfl
    · rw [hsame]
      rfl

/-- Whatever the times are, after an activation the version with the last ETag is
active. -/
theorem Dated.isVersion_activate (h : Dated content tag bundleIdentifier s clock)
    (hsaving : s.saving = none) (henum : (s.config .fetched).EnumeratedBy keys) (now : ℚ) :
    IsVersion content tag s.lastETag ((s.activate bundleIdentifier now keys).config .active) := by
  by_cases hskip : s.AlreadyActivated
  · have hsame : s.activate bundleIdentifier now keys = s := by rw [activate, if_pos hskip]
    rw [hsame]
    rcases hskip with hzero | hle
    · exact h.active 0 (.inl rfl) hzero.le
    · exact h.active _ (.inr (.inl rfl)) hle
  · rw [config_activate (h.current.kept .fetched).seen_memory henum hskip]
    exact h.current.fetched hsaving

theorem Dated.activate (h : Dated content tag bundleIdentifier s clock)
    (hsaving : s.saving = none) (henum : (s.config .fetched).EnumeratedBy keys) {now : ℚ}
    (hnow : clock < now)
    (hcurrent : Current content tag bundleIdentifier (s.activate bundleIdentifier now keys)) :
    Dated content tag bundleIdentifier (s.activate bundleIdentifier now keys) now := by
  have hversion := h.isVersion_activate hsaving henum now
  obtain ⟨-, -, -, heTag, htime⟩ := activate_frame bundleIdentifier now keys s
  refine ⟨hcurrent, (h.nonneg.trans_lt hnow).le, fun t ht => ?_, fun t _ _ => ?_⟩
  · rcases appliedAt_of_activate ht with hold | rfl
    · exact (h.applied t hold).trans hnow.le
    · exact le_rfl
  · rw [heTag]
    exact hversion

theorem Dated.step (h : Dated content tag bundleIdentifier s clock) {event : Event P}
    (hstep : (Timed content tag bundleIdentifier).Step (s, clock) event (s', clock')) :
    Dated content tag bundleIdentifier s' clock' := by
  obtain ⟨hserving, htime, rfl⟩ := EventSystem.step_clocked_iff.mp hstep
  have hcurrent := h.current.step hserving
  obtain ⟨hstoring, -⟩ := EventSystem.step_restrict_iff.mp hserving
  obtain ⟨henabled, hnext⟩ := (EventSystem.step_restrict_iff.mp hstoring).1
  have happlied := fun t ht => appliedAt_of_next (t := t) hnext ht
  -- Between activations the clock goes on, and no time of application is new.
  cases event with
  | setDefaults defaults keys =>
    obtain rfl := Option.some.inj hnext
    exact h.congr hcurrent le_rfl rfl rfl (config_setDefaults (by decide) defaults keys s)
      fun t ht => (happlied t ht).resolve_right (by simp)
  | fetch =>
    obtain rfl := Option.some.inj hnext
    exact h.congr hcurrent le_rfl rfl rfl rfl fun _ ht => ht
  | respond result =>
    obtain rfl := Option.some.inj hnext
    exact h.congr hcurrent le_rfl rfl rfl rfl fun _ ht => ht
  | handle keys =>
    simp only [system, next] at hnext
    split at hnext
    · exact absurd hnext (by simp)
    · rename_i result results _
      obtain rfl := Option.some.inj hnext
      obtain ⟨-, -, heTag, heTagTime, -⟩ := handle_frame bundleIdentifier result keys
        { s with results := results }
      exact h.congr hcurrent le_rfl heTag heTagTime (config_handle_of_ne (by decide) result keys _)
        fun t ht => (happlied t ht).resolve_right (by simp)
  | save now =>
    obtain ⟨eTag, -, rfl⟩ := Option.map_eq_some_iff.mp hnext
    exact h.save (htime now rfl) hcurrent
  | activate now keys =>
    obtain rfl := Option.some.inj hnext
    exact h.activate (not_not.mp henabled.1) henabled.2 (htime now rfl) hcurrent
  | execute =>
    obtain ⟨store, hstore, rfl⟩ := Option.map_eq_some_iff.mp hnext
    exact h.congr hcurrent le_rfl rfl rfl (config_of_catchUp hstore .active)
      fun t ht => (happlied t ht).resolve_right (by simp)
  | restart =>
    obtain rfl := Option.some.inj hnext
    obtain ⟨hqueue, -⟩ := (EventSystem.step_restrict_iff.mp hserving).2
    exact h.congr hcurrent le_rfl rfl rfl (config_restart_of_drained h.current.kept hqueue .active)
      fun t ht => (happlied t ht).resolve_right (by simp)

theorem dated_of_run {events : List (Event P)}
    (hrun : (Timed content tag bundleIdentifier).Run ({}, 0) events (s, clock)) :
    Dated content tag bundleIdentifier s clock :=
  hrun.invariant (I := fun state => Dated content tag bundleIdentifier state.1 state.2)
    (fun _ _ _ h hstep => h.step hstep) dated_initial

/-- A step that meets the conditions, at a later time. -/
theorem timed_step {event : Event P}
    (hstep : (Serving content tag bundleIdentifier).Step s event s')
    (htime : ∀ t ∈ event.time, clock < t) :
    (Timed content tag bundleIdentifier).Step (s, clock) event (s', event.time.getD clock) :=
  EventSystem.step_clocked_iff.mpr ⟨hstep, htime, rfl⟩

theorem timed_firstSaved :
    (Timed (fun _ : Unit => some firstEntries) (fun _ => "v1") "app").Run ({}, 0)
      (firstEvents ++ [.save 1]) (firstSaved, 1) := by
  have hfirst : (Timed (fun _ : Unit => some firstEntries) (fun _ => "v1") "app").Run ({}, 0)
      firstEvents (firstHandled, 0) :=
    serving_firstHandled.clocked (by simp [firstEvents, Event.time]) 0
  refine hfirst.snoc (timed_step (serving_step ⟨Option.some_ne_none _, rfl⟩ trivial trivial) ?_)
  simp [Event.time]

/-- It is activated. -/
theorem timed_firstActivated :
    (Timed (fun _ : Unit => some firstEntries) (fun _ => "v1") "app").Step (firstSaved, 1)
      (.activate 2 ["json_data"]) (firstActivated, 2) := by
  refine timed_step (serving_step ⟨⟨not_not.mpr rfl, fetched_firstSaved⟩, rfl⟩ trivial trivial) ?_
  simp [Event.time]

/-- **An activation is never skipped wrongly.**  With a clock that goes forward, and
ETags that determine the content, what was fetched is active after every activation:
also after one that did nothing. -/
theorem activate_current {events : List (Event P)}
    (htag : ∀ v v', tag v = tag v' → content v = content v')
    (hrun : (Timed content tag bundleIdentifier).Run ({}, 0) events (s, clock)) {now : ℚ}
    (hstep : (Timed content tag bundleIdentifier).Step (s, clock) (.activate now keys)
      (s', clock')) :
    s'.config .active = s'.config .fetched := by
  have hdated := dated_of_run hrun
  obtain ⟨hserving, -⟩ := EventSystem.step_clocked_iff.mp hstep
  obtain ⟨hstoring, -⟩ := EventSystem.step_restrict_iff.mp hserving
  obtain ⟨⟨hbusy, henum⟩, hnext⟩ := (EventSystem.step_restrict_iff.mp hstoring).1
  obtain rfl := Option.some.inj hnext
  have hsaving : s.saving = none := not_not.mp hbusy
  have hactive := hdated.isVersion_activate hsaving henum now
  have hfetched := hdated.current.fetched hsaving
  have hsame : (s.activate bundleIdentifier now keys).config .fetched = s.config .fetched :=
    config_activate_of_ne (by decide) now keys s
  rw [hsame]
  exact hactive.eq htag hfetched

/-- The second activation is skipped. -/
theorem activate_current_skipped :
    firstActivated.AlreadyActivated ∧
      (firstActivated.activate "app" 3 ["json_data"]).config .active =
        (firstActivated.activate "app" 3 ["json_data"]).config .fetched := by
  have hsame : firstActivated.config .fetched = firstSaved.config .fetched :=
    config_activate_of_ne (by decide) 2 ["json_data"] firstSaved
  have hsecond : (Timed (fun _ : Unit => some firstEntries) (fun _ => "v1") "app").Step
      (firstActivated, 2) (.activate 3 ["json_data"])
      (firstActivated.activate "app" 3 ["json_data"], 3) := by
    refine timed_step (serving_step ⟨⟨?_, hsame ▸ fetched_firstSaved⟩, rfl⟩ trivial trivial) ?_
    · exact not_not.mpr (activate_frame "app" 2 ["json_data"] firstSaved).2.2.1
    · intro t ht
      obtain rfl := Option.some.inj ht
      norm_num
  refine ⟨.inr ?_, activate_current (fun _ _ _ => rfl) (timed_firstSaved.snoc timed_firstActivated)
    hsecond⟩
  rw [firstActivated, activate, if_neg not_alreadyActivated_firstSaved]
  show firstSaved.lastETagUpdateTime ≤ 2
  rw [lastETagUpdateTime_firstSaved]
  norm_num

end FIRRemoteConfig

end HolyWater
