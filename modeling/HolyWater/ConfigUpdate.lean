/-
What an activation would change.

`getConfigUpdateForNamespace` compares the fetched configuration and the active one,
key by key: by the texts of the values, and by the personalization metadata.

* `mem_getConfigUpdate_iff` — it finds the keys whose text or metadata differ;
* `getConfigUpdate_activate` — these are exactly the keys that the next activation
  changes, and after it nothing is left to change.
-/
import HolyWater.ServedConfig

namespace HolyWater

/-- `isEqualToString`, where either text may be missing. -/
def isEqualToString (text other : Option String) : Bool :=
  match text, other with
  | some text, some other => text = other
  | _, _ => false

namespace FIRRemoteConfig

variable {P V : Type} {bundleIdentifier : String} {s s' : FIRRemoteConfig P} {keys : List String}

/-- Values that are text, compared by their texts. -/
theorem texts_ne_iff (hkept : Kept bundleIdentifier s) {key : String} :
    s.texts .active key ≠ s.texts .fetched key ↔
      (key ∈ (s.config .fetched).keys ∧ ((s.config .active).lookup key = none ∨
        isEqualToString (s.texts .active key) (s.texts .fetched key) = false)) ∨
        (key ∈ (s.config .active).keys ∧ (s.config .fetched).lookup key = none) := by
  rw [Finmap.mem_keys, Finmap.mem_keys, ← Finmap.lookup_isSome, ← Finmap.lookup_isSome, texts,
    texts]
  rcases hactive : (s.config .active).lookup key with _ | active <;>
    rcases hfetched : (s.config .fetched).lookup key with _ | fetched
  · simp
  · obtain ⟨text, htext⟩ := stringValue_of_sound (hkept .fetched).seen_memory (by decide) hfetched
    simp [htext]
  · obtain ⟨text, htext⟩ := stringValue_of_sound (hkept .active).seen_memory (by decide) hactive
    simp [htext]
  · obtain ⟨text, htext⟩ := stringValue_of_sound (hkept .active).seen_memory (by decide) hactive
    obtain ⟨other, hother⟩ := stringValue_of_sound (hkept .fetched).seen_memory (by decide) hfetched
    simp [htext, hother, isEqualToString]

section Update

variable [DecidableEq P]

/-- The four loops: keys whose value is new or has another text, keys whose value is
gone, and the same for their metadata. -/
def getConfigUpdateForNamespace (s : FIRRemoteConfig P) : Finset String :=
  let fetchedConfig := s.config .fetched
  let activeConfig := s.config .active
  let fetchedP13n := s.fetchedPersonalization
  let activeP13n := s.activePersonalization
  (fetchedConfig.keys.filter fun key =>
      activeConfig.lookup key = none ∨
        isEqualToString ((activeConfig.lookup key).bind FIRRemoteConfigValue.stringValue)
          ((fetchedConfig.lookup key).bind FIRRemoteConfigValue.stringValue) = false) ∪
    (activeConfig.keys.filter fun key => fetchedConfig.lookup key = none) ∪
    (fetchedP13n.keys.filter fun key =>
      activeP13n.lookup key = none ∨ activeP13n.lookup key ≠ fetchedP13n.lookup key) ∪
    (activeP13n.keys.filter fun key => fetchedP13n.lookup key = none)

/-- Keys that are new, have another value or are gone are the keys that are looked up
differently. -/
theorem lookup_ne_iff {β : Type} [DecidableEq β] {dict dict' : NSDictionary β} {key : String} :
    dict.lookup key ≠ dict'.lookup key ↔
      (key ∈ dict'.keys ∧ (dict.lookup key = none ∨ dict.lookup key ≠ dict'.lookup key)) ∨
        (key ∈ dict.keys ∧ dict'.lookup key = none) := by
  rw [Finmap.mem_keys, Finmap.mem_keys, ← Finmap.lookup_isSome, ← Finmap.lookup_isSome]
  cases dict.lookup key <;> cases dict'.lookup key <;> simp

theorem mem_getConfigUpdate_iff (hkept : Kept bundleIdentifier s) (key : String) :
    key ∈ s.getConfigUpdateForNamespace ↔ s.texts .active key ≠ s.texts .fetched key ∨
      s.activePersonalization.lookup key ≠ s.fetchedPersonalization.lookup key := by
  rw [texts_ne_iff hkept, lookup_ne_iff, getConfigUpdateForNamespace]
  simp only [Finset.mem_union, Finset.mem_filter]
  exact or_assoc

end Update

/-! ### The metadata along runs -/

variable {content : V → Option (NSDictionary String)} {tag : V → String} {clock clock' : ℚ}

/-- The metadata is stored as it is in memory, and it is active when an activation was
later than the ETag; in the middle of a job that only says something when the job will
not bring another ETag. -/
structure Matched (s : FIRRemoteConfig P) : Prop where
  active : s.personalizationTable .active = s.activePersonalization
  fetched : s.personalizationTable .fetched = s.fetchedPersonalization
  activated : ∀ t, s.AppliedAt t → s.lastETagUpdateTime ≤ t →
    (∀ eTag, s.saving = some eTag → s.lastETag = eTag) →
      s.activePersonalization = s.fetchedPersonalization

theorem matched_initial : Matched ({} : FIRRemoteConfig P) :=
  ⟨rfl, rfl, fun _ _ _ _ => rfl⟩

/-- The step leaves the metadata alone, and brings no time. -/
theorem Matched.congr (h : Matched s)
    (htable : s'.personalizationTable = s.personalizationTable)
    (hactive : s'.activePersonalization = s.activePersonalization)
    (hfetched : s'.fetchedPersonalization = s.fetchedPersonalization)
    (happlied : ∀ t, s'.AppliedAt t → s'.lastETagUpdateTime ≤ t →
      (∀ eTag, s'.saving = some eTag → s'.lastETag = eTag) →
        s.AppliedAt t ∧ s.lastETagUpdateTime ≤ t ∧
          ∀ eTag, s.saving = some eTag → s.lastETag = eTag) : Matched s' where
  active := by rw [htable, hactive, h.active]
  fetched := by rw [htable, hfetched, h.fetched]
  activated t ht hle hsaving := by
    obtain ⟨ht', hle', hsaving'⟩ := happlied t ht hle hsaving
    rw [hactive, hfetched]
    exact h.activated t ht' hle' hsaving'

/-- Only an update has metadata. -/
theorem handleUpdatePersonalization_of_ne {response : FetchResponse P}
    (h : response.state ≠ some "UPDATE") (s : FIRRemoteConfig P) :
    s.handleUpdatePersonalization response = s := by
  rw [handleUpdatePersonalization, if_neg h]

/-- Stored or not, the metadata of an update is the same in the table. -/
theorem handleUpdatePersonalization_table (response : FetchResponse P) {s : FIRRemoteConfig P}
    (hactive : s.personalizationTable .active = s.activePersonalization)
    (hfetched : s.personalizationTable .fetched = s.fetchedPersonalization) :
    (s.handleUpdatePersonalization response).personalizationTable .active =
        (s.handleUpdatePersonalization response).activePersonalization ∧
      (s.handleUpdatePersonalization response).personalizationTable .fetched =
        (s.handleUpdatePersonalization response).fetchedPersonalization := by
  rw [handleUpdatePersonalization]
  split
  · split
    · exact ⟨hactive, hfetched⟩
    · exact ⟨by simpa using hactive, by simp⟩
  · exact ⟨hactive, hfetched⟩

/-- The job of an answer: metadata comes only with another ETag. -/
theorem Matched.handle (h : Matched s) {result : NetworkResult P} {v : V}
    (hanswer : Answers content tag v s.lastETag result) (hsaving : s.saving = none) :
    Matched (s.handle bundleIdentifier result keys) := by
  have hold : ∀ t, (s.handle bundleIdentifier result keys).AppliedAt t → s.AppliedAt t :=
    fun _ ht => appliedAt_of_handle ht
  have hnone : ∀ eTag, s.saving = some eTag → s.lastETag = eTag :=
    fun _ heTag => absurd (hsaving.symm.trans heTag) (by simp)
  obtain ⟨-, -, hlastETag, htime, -⟩ := handle_frame bundleIdentifier result keys s
  have hquiet : ∀ t, (s.handle bundleIdentifier result keys).AppliedAt t →
      (s.handle bundleIdentifier result keys).lastETagUpdateTime ≤ t →
      s.AppliedAt t ∧ s.lastETagUpdateTime ≤ t ∧
        ∀ eTag, s.saving = some eTag → s.lastETag = eTag :=
    fun t ht hle => ⟨hold t ht, htime ▸ hle, hnone⟩
  -- An answer with another ETag is going to be saved: until then nothing is claimed.
  have hother : ∀ response : FetchResponse P, s.lastETag ≠ some (tag v) →
      result = ⟨false, .config response, some (tag v)⟩ →
      Matched (s.handle bundleIdentifier result keys) := by
    rintro response hne rfl
    obtain ⟨hactive, hfetched⟩ := handleUpdatePersonalization_table response (s := s.update
      (s.store.memory.updateConfigContentWithResponse bundleIdentifier FIRNamespace response keys))
      h.active h.fetched
    exact ⟨hactive, hfetched, fun t _ _ hsame =>
      absurd (hlastETag.symm.trans (hsame _ rfl)) hne⟩
  cases hanswer with
  | failed body eTag => exact h.congr rfl rfl rfl fun t ht hle _ => hquiet t ht hle
  | noData eTag => exact h.congr rfl rfl rfl fun t ht hle _ => hquiet t ht hle
  | serverError eTag => exact h.congr rfl rfl rfl fun t ht hle _ => hquiet t ht hle
  | noChange response hstate _ =>
    have hsame := handleUpdatePersonalization_of_ne
      (by simp [hstate] : response.state ≠ some "UPDATE")
      (s.update (s.store.memory.updateConfigContentWithResponse bundleIdentifier FIRNamespace
        response keys))
    have htable := congrArg personalizationTable hsame
    have hactive := congrArg activePersonalization hsame
    have hfetched := congrArg fetchedPersonalization hsame
    exact h.congr htable hactive hfetched fun t ht hle _ => hquiet t ht hle
  | update response _ _ hne => exact hother response hne rfl
  | emptyConfig response _ _ hne => exact hother response hne rfl
  | noTemplate response _ _ hne => exact hother response hne rfl

theorem Matched.save (h : Matched s) (hdated : Dated content tag bundleIdentifier s clock)
    {now : ℚ} (hnow : clock < now) {eTag : Option String} (hsaving : s.saving = some eTag) :
    Matched (s.save bundleIdentifier now eTag) := by
  by_cases hother : s.lastETag = none ∨ s.lastETag ≠ eTag
  · have htime : (s.save bundleIdentifier now eTag).lastETagUpdateTime = now := by
      have hne : now ≠ 0 := (hdated.nonneg.trans_lt hnow).ne'
      simp only [FIRRemoteConfig.save]
      rw [if_pos hother]
      exact if_neg hne
    have hframe : (s.save bundleIdentifier now eTag).personalizationTable =
          s.personalizationTable ∧
        (s.save bundleIdentifier now eTag).activePersonalization = s.activePersonalization ∧
        (s.save bundleIdentifier now eTag).fetchedPersonalization = s.fetchedPersonalization := by
      simp only [FIRRemoteConfig.save]
      rw [if_pos hother]
      exact ⟨rfl, rfl, rfl⟩
    refine h.congr hframe.1 hframe.2.1 hframe.2.2 fun t ht hle _ => ?_
    rw [htime] at hle
    exact absurd (hnow.trans_le hle) (not_lt.mpr (hdated.applied t (appliedAt_of_save ht)))
  · have hsame : s.save bundleIdentifier now eTag =
        ({ s with saving := none } : FIRRemoteConfig P).updateMetadataTable bundleIdentifier := by
      simp only [FIRRemoteConfig.save]
      rw [if_neg hother]
    have heTag : s.lastETag = eTag := not_not.mp (not_or.mp hother).2
    refine h.congr ?_ ?_ ?_ fun t ht hle _ => ⟨appliedAt_of_save ht, ?_, fun other hcase => ?_⟩
    · rw [hsame]
      rfl
    · rw [hsame]
      rfl
    · rw [hsame]
      rfl
    · rw [hsame] at hle
      exact hle
    · exact heTag.trans (Option.some.inj (hsaving.symm.trans hcase))

theorem Matched.activate (h : Matched s) (hsaving : s.saving = none) (bundleIdentifier : String)
    (now : ℚ) (keys : List String) :
    Matched (s.activate bundleIdentifier now keys) ∧
      (s.activate bundleIdentifier now keys).activePersonalization = s.fetchedPersonalization ∧
      (s.activate bundleIdentifier now keys).fetchedPersonalization =
        s.fetchedPersonalization := by
  have hnone : ∀ eTag, s.saving = some eTag → s.lastETag = eTag :=
    fun _ heTag => absurd (hsaving.symm.trans heTag) (by simp)
  rw [FIRRemoteConfig.activate]
  split
  · rename_i hskip
    refine ⟨h, ?_, rfl⟩
    rcases hskip with hzero | hle
    · exact h.activated 0 (.inl rfl) hzero.le hnone
    · exact h.activated _ (.inr (.inl rfl)) hle hnone
  · refine ⟨⟨by simp [enqueue, update], ?_, fun _ _ _ _ => rfl⟩, rfl, rfl⟩
    simpa [enqueue, update] using h.fetched

theorem Matched.step (h : Matched s) (hdated : Dated content tag bundleIdentifier s clock)
    {event : Event P}
    (hstep : (Timed content tag bundleIdentifier).Step (s, clock) event (s', clock')) :
    Matched s' := by
  obtain ⟨hserving, htime, -⟩ := EventSystem.step_clocked_iff.mp hstep
  obtain ⟨hstoring, hserves⟩ := EventSystem.step_restrict_iff.mp hserving
  obtain ⟨henabled, hnext⟩ := (EventSystem.step_restrict_iff.mp hstoring).1
  -- Only an activation makes a time of application.
  have happlied := fun t ht => appliedAt_of_next (t := t) hnext ht
  cases event with
  | setDefaults defaults keys =>
    obtain rfl := Option.some.inj hnext
    exact h.congr rfl rfl rfl fun t ht hle hsaving =>
      ⟨(happlied t ht).resolve_right (by simp), hle, hsaving⟩
  | fetch =>
    obtain rfl := Option.some.inj hnext
    exact h.congr rfl rfl rfl fun t ht hle hsaving => ⟨ht, hle, hsaving⟩
  | respond result =>
    obtain rfl := Option.some.inj hnext
    exact h.congr rfl rfl rfl fun t ht hle hsaving => ⟨ht, hle, hsaving⟩
  | handle keys =>
    simp only [system, next] at hnext
    split at hnext
    · exact absurd hnext (by simp)
    · rename_i result results hresults
      obtain rfl := Option.some.inj hnext
      have hdropped : Matched { s with results := results } :=
        h.congr rfl rfl rfl fun t ht hle hsaving => ⟨ht, hle, hsaving⟩
      -- An answer is about the request of its phase.
      cases hdated.current.phase with
      | answered first v _ hone hsaving hanswer =>
        obtain ⟨rfl, rfl⟩ := List.cons.inj (hresults.symm.trans hone)
        exact hdropped.handle hanswer hsaving
      | idle _ hnone => exact absurd (hresults.symm.trans hnone) (by simp)
      | fetching _ hnone => exact absurd (hresults.symm.trans hnone) (by simp)
      | saving _ _ hnone => exact absurd (hresults.symm.trans hnone) (by simp)
  | save now =>
    obtain ⟨eTag, hsaving, rfl⟩ := Option.map_eq_some_iff.mp hnext
    exact h.save hdated (htime now rfl) hsaving
  | activate now keys =>
    obtain rfl := Option.some.inj hnext
    exact (h.activate (not_not.mp henabled.1) bundleIdentifier now keys).1
  | execute =>
    obtain ⟨store, hstore, rfl⟩ := Option.map_eq_some_iff.mp hnext
    exact h.congr rfl rfl rfl fun t ht hle hsaving =>
      ⟨(happlied t ht).resolve_right (by simp), hle, hsaving⟩
  | restart =>
    obtain rfl := Option.some.inj hnext
    refine h.congr rfl h.active h.fetched fun t ht hle _ =>
      ⟨(happlied t ht).resolve_right (by simp), hle, fun _ heTag => ?_⟩
    exact absurd ((not_not.mp hserves.2).symm.trans heTag) (by simp)

/-- **The update lists exactly what the next activation changes**: the keys whose text
or metadata are others after it; and after it the update is empty. -/
theorem getConfigUpdate_activate [DecidableEq P] {events : List (Event P)}
    (htag : ∀ v v', tag v = tag v' → content v = content v')
    (hrun : (Timed content tag bundleIdentifier).Run ({}, 0) events (s, clock)) {now : ℚ}
    (hstep : (Timed content tag bundleIdentifier).Step (s, clock) (.activate now keys)
      (s', clock')) :
    (∀ key, key ∈ s.getConfigUpdateForNamespace ↔ s.texts .active key ≠ s'.texts .active key ∨
      s.activePersonalization.lookup key ≠ s'.activePersonalization.lookup key) ∧
      s'.getConfigUpdateForNamespace = ∅ := by
  have hinvariant := hrun.invariant
    (I := fun state => Dated content tag bundleIdentifier state.1 state.2 ∧ Matched state.1)
    (fun _ _ _ h hstep => ⟨h.1.step hstep, h.2.step h.1 hstep⟩) ⟨dated_initial, matched_initial⟩
  obtain ⟨hdated, hmatched⟩ := hinvariant
  have hdated' := hdated.step hstep
  obtain ⟨hserving, -⟩ := EventSystem.step_clocked_iff.mp hstep
  obtain ⟨hstoring, -⟩ := EventSystem.step_restrict_iff.mp hserving
  obtain ⟨⟨hbusy, henum⟩, hnext⟩ := (EventSystem.step_restrict_iff.mp hstoring).1
  obtain rfl := Option.some.inj hnext
  have hsaving : s.saving = none := not_not.mp hbusy
  obtain ⟨-, hactiveP, hfetchedP⟩ := hmatched.activate hsaving bundleIdentifier now keys
  have hactive : (s.activate bundleIdentifier now keys).config .active = s.config .fetched :=
    (hdated.isVersion_activate hsaving henum now).eq htag (hdated.current.fetched hsaving)
  have hfetched : (s.activate bundleIdentifier now keys).config .fetched = s.config .fetched :=
    config_activate_of_ne (by decide) now keys s
  constructor
  · intro key
    rw [mem_getConfigUpdate_iff hdated.current.kept, texts_congr hactive, hactiveP]
  · refine Finset.eq_empty_of_forall_notMem fun key hkey => ?_
    rw [mem_getConfigUpdate_iff hdated'.current.kept, texts_congr hactive, texts_congr hfetched,
      hactiveP, hfetchedP] at hkey
    simp at hkey

theorem getConfigUpdate_activate_first :
    (∀ key, key ∈ firstSaved.getConfigUpdateForNamespace ↔
      firstSaved.texts .active key ≠ firstActivated.texts .active key ∨
      firstSaved.activePersonalization.lookup key ≠
        firstActivated.activePersonalization.lookup key) ∧
      firstActivated.getConfigUpdateForNamespace = ∅ :=
  getConfigUpdate_activate (fun _ _ _ => rfl) timed_firstSaved timed_firstActivated

end FIRRemoteConfig

end HolyWater
