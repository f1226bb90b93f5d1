/-
The answers the SDK gives to a fetch.

A job of the SDK's queue answers a fetch at once, or takes it to the network and
answers it later; the settings remember the last fetch and whether one is in
progress.

* `FetchAnswer.Reported` — an answer that is no success carries an error;
* `reported_fetcherCompletion` — whatever the network brings is reported;
* `fetchConfig_reported_iff` — what a fetch is answered at once is reported
  exactly when `MayFetch` holds: unless it is answered from the cache, no other
  fetch is in progress, or the last one is remembered as a success.
-/
import HolyWater.RemoteConfig
import Mathlib.Algebra.Order.Ring.Rat
import Mathlib.Tactic.Linarith

namespace HolyWater

/-- What a fetch is answered. -/
structure FetchAnswer where
  status : FetchStatus
  error : Option RemoteConfigError
  deriving DecidableEq, Repr

/-- The answer is a success, or carries an error. -/
def FetchAnswer.Reported (answer : FetchAnswer) : Prop :=
  answer.status ≠ .success → answer.error ≠ none

/-! ### What the SDK remembers -/

/-- What the SDK remembers of the fetches so far; times are in seconds, and 0 for
the last fetch when there was none. -/
structure RCNConfigSettings where
  lastFetchTimeInterval : ℚ := 0
  lastFetchStatus : FetchStatus := .noFetchYet
  isFetchInProgress : Bool := false
  exponentialBackoffRetryInterval : ℚ := 0
  exponentialBackoffThrottleEndTime : ℚ := 0
  deriving DecidableEq, Repr

namespace RCNConfigSettings

def RCNDefaultMinimumFetchInterval : ℚ := 43200

def kRCNExponentialBackoffMinimumInterval : ℚ := 60 * 2

def kRCNExponentialBackoffMaximumInterval : ℚ := 60 * 60 * 4

def hasMinimumFetchIntervalElapsed (minimumFetchInterval now : ℚ) (settings : RCNConfigSettings) :
    Bool :=
  if settings.lastFetchTimeInterval = 0 then true
  else minimumFetchInterval < now - settings.lastFetchTimeInterval

def shouldThrottle (now : ℚ) (settings : RCNConfigSettings) : Bool :=
  0 < settings.lastFetchTimeInterval ∧ settings.lastFetchStatus ≠ .success ∧
    0 < settings.exponentialBackoffThrottleEndTime - now

/-- The sign is random. -/
def updateExponentialBackoffTime (now : ℚ) (randomPlusMinusInterval : Bool)
    (settings : RCNConfigSettings) : RCNConfigSettings :=
  let retryInterval :=
    if settings.lastFetchStatus = .success then kRCNExponentialBackoffMinimumInterval
    else if settings.exponentialBackoffRetryInterval * 2 < kRCNExponentialBackoffMaximumInterval
      then settings.exponentialBackoffRetryInterval * 2
      else settings.exponentialBackoffRetryInterval
  let randomizedRetryInterval :=
    retryInterval + 1 / 2 * retryInterval * if randomPlusMinusInterval then 1 else -1
  { settings with
    exponentialBackoffRetryInterval := retryInterval
    exponentialBackoffThrottleEndTime := now + randomizedRetryInterval }

def updateMetadataWithFetchSuccessStatus (now : ℚ) (fetchSuccess : Bool)
    (settings : RCNConfigSettings) : RCNConfigSettings :=
  if fetchSuccess then
    { settings with lastFetchStatus := .success, lastFetchTimeInterval := now }
  else { settings with lastFetchStatus := .failure }

theorem hasMinimumFetchIntervalElapsed_iff {minimumFetchInterval now : ℚ}
    {settings : RCNConfigSettings} :
    settings.hasMinimumFetchIntervalElapsed minimumFetchInterval now = true ↔
      settings.lastFetchTimeInterval = 0 ∨
        minimumFetchInterval < now - settings.lastFetchTimeInterval := by
  rw [hasMinimumFetchIntervalElapsed]
  split <;> simp [*]

/-- Once the backoff is over nothing is refused. -/
theorem shouldThrottle_of_le {now : ℚ} {settings : RCNConfigSettings}
    (h : settings.exponentialBackoffThrottleEndTime ≤ now) :
    settings.shouldThrottle now = false := by
  rw [shouldThrottle, decide_eq_false_iff_not]
  rintro ⟨-, -, hpos⟩
  linarith

end RCNConfigSettings

/-! ### The fetch -/

/-- The body of a response: none, an error the server reports, or a configuration
(also one that turns out to be no JSON, which is only logged). -/
inductive ResponseData where
  | none
  | serverError
  | config
  deriving DecidableEq, Repr

/-- What the network task returns. -/
structure NetworkResponse where
  error : Bool
  statusCode : ℕ
  data : ResponseData
  deriving DecidableEq, Repr

namespace RCNConfigFetch

open RCNConfigSettings

/-- The fetch is refused until the backoff is over. -/
def answerThrottled (settings : RCNConfigSettings) : RCNConfigSettings × FetchAnswer :=
  ({ settings with lastFetchStatus := .throttled }, ⟨.throttled, some .throttled⟩)

/-- The job of a fetch: it answers at once, or goes to the network. -/
def fetchConfig (expirationDuration now : ℚ) (hasDeviceContextChanged : Bool)
    (settings : RCNConfigSettings) : RCNConfigSettings × Option FetchAnswer :=
  if !settings.hasMinimumFetchIntervalElapsed expirationDuration now &&
      !hasDeviceContextChanged then
    (settings, some ⟨.success, none⟩)
  -- The result of the fetch before the one in progress, and never an error.
  else if settings.isFetchInProgress then
    if 0 < settings.lastFetchTimeInterval then
      (settings, some ⟨settings.lastFetchStatus, none⟩)
    else (settings, some ⟨.failure, none⟩)
  else if settings.shouldThrottle now && !hasDeviceContextChanged then
    let (settings, answer) := answerThrottled settings
    (settings, some answer)
  else ({ settings with isFetchInProgress := true }, none)

/-- No token, no installation id, or no request: the fetch ends before it gets to
the network. -/
def requestFailed (settings : RCNConfigSettings) : RCNConfigSettings × FetchAnswer :=
  ({ settings with isFetchInProgress := false }, ⟨.failure, some .internalError⟩)

/-- The status codes after which the SDK backs off. -/
def triggersBackoff (statusCode : ℕ) : Bool :=
  statusCode = 429 ∨ statusCode = 500 ∨ statusCode = 503 ∨ statusCode = 504

def answerFailure (settings : RCNConfigSettings) : RCNConfigSettings × FetchAnswer :=
  ({ settings with lastFetchStatus := .failure }, ⟨.failure, some .internalError⟩)

/-- The job that handles what the network task returned. -/
def fetcherCompletion (now : ℚ) (randomPlusMinusInterval : Bool) (response : NetworkResponse)
    (settings : RCNConfigSettings) : RCNConfigSettings × FetchAnswer :=
  if response.error ∨ response.statusCode ≠ 200 then
    -- From here on the last fetch is remembered as failed.
    let settings := settings.updateMetadataWithFetchSuccessStatus now false
    if response.statusCode ≠ 200 ∧ triggersBackoff response.statusCode then
      let settings := settings.updateExponentialBackoffTime now randomPlusMinusInterval
      if settings.shouldThrottle now then answerThrottled settings else answerFailure settings
    else answerFailure settings
  else
    match response.data with
    | .none => (settings, ⟨.success, none⟩)
    -- Only a configuration updates what is remembered.
    | .serverError => (settings, ⟨.failure, some .internalError⟩)
    | .config => (settings.updateMetadataWithFetchSuccessStatus now true, ⟨.success, none⟩)

/-! ### Which answers are reported -/

/-- What was fetched last is too old, or was fetched for another device context. -/
def CacheExpired (expirationDuration now : ℚ) (hasDeviceContextChanged : Bool)
    (settings : RCNConfigSettings) : Prop :=
  settings.hasMinimumFetchIntervalElapsed expirationDuration now = true ∨
    hasDeviceContextChanged = true

/-- Unless the fetch is answered from the cache, no other one is in progress, or
the last one is remembered as a success. -/
def MayFetch (expirationDuration now : ℚ) (hasDeviceContextChanged : Bool)
    (settings : RCNConfigSettings) : Prop :=
  CacheExpired expirationDuration now hasDeviceContextChanged settings →
    settings.isFetchInProgress = true →
      0 < settings.lastFetchTimeInterval ∧ settings.lastFetchStatus = .success

theorem reported_requestFailed (settings : RCNConfigSettings) :
    (requestFailed settings).2.Reported := by
  intro _
  simp [requestFailed]

theorem reported_answerThrottled (settings : RCNConfigSettings) :
    (answerThrottled settings).2.Reported := by
  intro _
  simp [answerThrottled]

theorem reported_answerFailure (settings : RCNConfigSettings) :
    (answerFailure settings).2.Reported := by
  intro _
  simp [answerFailure]

theorem reported_fetcherCompletion (now : ℚ) (randomPlusMinusInterval : Bool)
    (response : NetworkResponse) (settings : RCNConfigSettings) :
    (fetcherCompletion now randomPlusMinusInterval response settings).2.Reported := by
  rw [fetcherCompletion]
  by_cases hfailed : response.error ∨ response.statusCode ≠ 200
  · rw [if_pos hfailed]
    dsimp only
    split
    · split
      · exact reported_answerThrottled _
      · exact reported_answerFailure _
    · exact reported_answerFailure _
  · rw [if_neg hfailed]
    cases response.data with
    | none => exact fun h => absurd rfl h
    | serverError => exact fun _ => by simp
    | config => exact fun h => absurd rfl h

section FetchConfig

variable {expirationDuration now : ℚ} {hasDeviceContextChanged : Bool}
  {settings : RCNConfigSettings}

theorem cacheExpired_of_lt
    (h : expirationDuration < now - settings.lastFetchTimeInterval) :
    CacheExpired expirationDuration now hasDeviceContextChanged settings :=
  .inl (hasMinimumFetchIntervalElapsed_iff.mpr (.inr h))

theorem not_cacheExpired_of_le (hfetched : settings.lastFetchTimeInterval ≠ 0)
    (h : now - settings.lastFetchTimeInterval ≤ expirationDuration) :
    ¬ CacheExpired expirationDuration now false settings := by
  rintro (helapsed | hchanged)
  · rcases hasMinimumFetchIntervalElapsed_iff.mp helapsed with hzero | hlt
    · exact hfetched hzero
    · exact absurd hlt (not_lt.mpr h)
  · exact absurd hchanged (by decide)

theorem fetchConfig_cached
    (hcached : ¬ CacheExpired expirationDuration now hasDeviceContextChanged settings) :
    fetchConfig expirationDuration now hasDeviceContextChanged settings =
      (settings, some ⟨.success, none⟩) := by
  rw [fetchConfig, if_pos]
  simpa [CacheExpired] using hcached

/-- Whoever fetches while a fetch is in progress is told how the one before that
went, and no error. -/
theorem fetchConfig_inProgress
    (hexpired : CacheExpired expirationDuration now hasDeviceContextChanged settings)
    (hbusy : settings.isFetchInProgress = true) :
    fetchConfig expirationDuration now hasDeviceContextChanged settings =
      (settings, some ⟨if 0 < settings.lastFetchTimeInterval then settings.lastFetchStatus
        else .failure, none⟩) := by
  rw [fetchConfig, if_neg, if_pos hbusy]
  · split <;> rfl
  · rcases hexpired with h | h <;> simp [h]

/-- With no fetch in progress, the fetch is refused or goes to the network. -/
theorem fetchConfig_idle
    (hexpired : CacheExpired expirationDuration now hasDeviceContextChanged settings)
    (hidle : settings.isFetchInProgress = false) :
    fetchConfig expirationDuration now hasDeviceContextChanged settings =
      if settings.shouldThrottle now && !hasDeviceContextChanged then
        ((answerThrottled settings).1, some (answerThrottled settings).2)
      else ({ settings with isFetchInProgress := true }, none) := by
  rw [fetchConfig, if_neg, if_neg (by simp [hidle])]
  rcases hexpired with h | h <;> simp [h]

theorem fetchConfig_network
    (hexpired : CacheExpired expirationDuration now hasDeviceContextChanged settings)
    (hidle : settings.isFetchInProgress = false) (hthrottle : settings.shouldThrottle now = false) :
    fetchConfig expirationDuration now hasDeviceContextChanged settings =
      ({ settings with isFetchInProgress := true }, none) := by
  rw [fetchConfig_idle hexpired hidle, if_neg (by simp [hthrottle])]

/-- An answer given at once is reported exactly when the fetch was in order. -/
theorem fetchConfig_reported_iff :
    (∀ answer, (fetchConfig expirationDuration now hasDeviceContextChanged settings).2 =
      some answer → answer.Reported) ↔
      MayFetch expirationDuration now hasDeviceContextChanged settings := by
  by_cases hexpired : CacheExpired expirationDuration now hasDeviceContextChanged settings
  · cases hbusy : settings.isFetchInProgress with
    | true =>
      -- The answer is the status of the fetch before, without an error.
      rw [fetchConfig_inProgress hexpired hbusy]
      constructor
      · intro h _ _
        have hreported := h _ rfl
        by_contra hlast
        refine hreported ?_ rfl
        show (if _ then _ else _) ≠ _
        split
        · rename_i htime
          exact fun hstatus => hlast ⟨htime, hstatus⟩
        · decide
      · intro h answer hanswer hstatus
        obtain ⟨htime, hsuccess⟩ := h hexpired hbusy
        obtain rfl := Option.some.inj hanswer
        rw [if_pos htime] at hstatus
        exact absurd hsuccess hstatus
    | false =>
      have hmay : MayFetch expirationDuration now hasDeviceContextChanged settings :=
        fun _ h => absurd (hbusy.symm.trans h) (by simp)
      refine iff_of_true (fun answer hanswer => ?_) hmay
      rw [fetchConfig_idle hexpired hbusy] at hanswer
      split at hanswer
      · obtain rfl := Option.some.inj hanswer
        exact reported_answerThrottled settings
      · exact absurd hanswer (by simp)
  · refine iff_of_true (fun answer hanswer hstatus => ?_) fun h => absurd h hexpired
    rw [fetchConfig_cached hexpired] at hanswer
    obtain rfl := Option.some.inj hanswer
    exact absurd rfl hstatus

end FetchConfig

end RCNConfigFetch

end HolyWater
