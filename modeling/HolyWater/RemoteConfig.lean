/-
The remote configuration as the app reads it.

`configValueForKey` looks a key up in the active configuration, then among the
registered defaults, then falls back to empty data; `getConfigValue` is the
manager's reading of it.  `fetchRemoteConfig` is what the manager does with the
answer to a fetch.
-/
import Mathlib.Data.List.Basic

namespace HolyWater

/-- The values of a configuration, by key. -/
abbrev Config := String → Option String

/-- The status of a fetch. -/
inductive FetchStatus where
  | noFetchYet
  | success
  | failure
  | throttled
  deriving DecidableEq, Repr

/-- The errors of the Remote Config domain. -/
inductive RemoteConfigError where
  | unknown
  | throttled
  | internalError
  deriving DecidableEq, Repr

/-- The text behind `key`: active value, default value or nothing. -/
def configValueForKey (activeConfig defaultConfig : Config) (key : String) : String :=
  match activeConfig key with
  | some value => value
  | none =>
    match defaultConfig key with
    | some value => value
    | none => ""

namespace FirebaseRemoteConfigManager

/-- The defaults registered when the manager is created. -/
def setupRemoteConfigDefaults : Config := fun key =>
  if key = "json_data" then some "JSON data"
  else if key = "details_carousel" then some "JSON data"
  else none

def getConfigValue (activeConfig : Config) (key : String) : String :=
  configValueForKey activeConfig setupRemoteConfigDefaults key

/-- What the manager does when a fetch is answered: whether it activates the
fetched configuration and saves its values, and the error it passes on. -/
def fetchRemoteConfig (status : FetchStatus) (error : Option RemoteConfigError) :
    Bool × Option RemoteConfigError :=
  if status = .success then (true, none) else (false, error)

end FirebaseRemoteConfigManager

end HolyWater
