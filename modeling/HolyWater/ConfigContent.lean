/-
The configurations of the SDK, in memory and in the database.

`RCNConfigContent` keeps the fetched, the active and the default configuration of
every namespace in memory.  The database keeps a table of each, as rows.  A change
of a configuration queues the deletion of all its rows, and then one insertion for
every entry.

* `holds_insertMainTable`, `holds_deleteRecordFromMainTable` — what the operations
  do to the configuration that a table holds;
* `writes_replaceConfig`, `writes_updateConfigContentWithResponse` — what a change
  of a configuration does to the tables: on the way they hold a part of the new
  configuration or all of the old one, and never a mixture.
-/
import HolyWater.Dictionary
import HolyWater.RemoteConfig
import HolyWater.ViewModels
import HolyWater.WriteBehind
import Mathlib.Algebra.Order.Ring.Rat

namespace HolyWater

/-! ### Values -/

/-- Where a value comes from, as the app may ask. -/
inductive FIRRemoteConfigSource where
  | remote
  | default
  | static
  deriving DecidableEq, Repr

structure FIRRemoteConfigValue where
  dataValue : ByteArray
  source : FIRRemoteConfigSource

/-- The string that the data represents in UTF-8, if it does. -/
def FIRRemoteConfigValue.stringValue (value : FIRRemoteConfigValue) : Option String :=
  String.fromUTF8? value.dataValue

/-- The configurations, by their tables. -/
inductive RCNDBSource where
  | active
  | default
  | fetched
  deriving DecidableEq, Repr

/-- What the values of a configuration are marked with. -/
def RCNDBSource.valueSource : RCNDBSource → FIRRemoteConfigSource
  | .default => .default
  | .active | .fetched => .remote

abbrev NamespaceToConfig := NSDictionary (NSDictionary FIRRemoteConfigValue)

/-- The entries as the values of a configuration. -/
def RCNDBSource.values (source : RCNDBSource) (entries : List (String × ByteArray)) :
    List (String × FIRRemoteConfigValue) :=
  entries.map fun entry => (entry.1, ⟨entry.2, source.valueSource⟩)

theorem RCNDBSource.map_fst_values (source : RCNDBSource) (entries : List (String × ByteArray)) :
    (source.values entries).map Prod.fst = entries.map Prod.fst := by
  rw [RCNDBSource.values, List.map_map]
  rfl

/-! ### The database -/

/-- What SQLite makes of a text that is bound as a C string: it ends at a NUL. -/
def bindString (value : String) : String :=
  String.ofList (value.toList.takeWhile fun c => c.toNat ≠ 0)

/-- The text is stored as it is. -/
def Storable (text : String) : Prop := bindString text = text

instance (text : String) : Decidable (Storable text) :=
  inferInstanceAs (Decidable (bindString text = text))

/-- A row of one of the main tables. -/
structure MainRow where
  bundleIdentifier : String
  configNamespace : String
  key : String
  value : ByteArray

/-- A row of the metadata table. -/
structure MetadataRow where
  bundleIdentifier : String
  configNamespace : String
  lastApplyTime : ℚ
  deriving DecidableEq, Repr

structure Database where
  main : RCNDBSource → List MainRow := fun _ => []
  metadata : List MetadataRow := []

/-- The operations on the database, each a single statement. -/
inductive DBOperation where
  | insertMainTable (source : RCNDBSource) (bundleIdentifier configNamespace key : String)
      (value : ByteArray)
  | deleteRecordFromMainTable (configNamespace bundleIdentifier : String) (source : RCNDBSource)
  | insertMetadataTable (bundleIdentifier configNamespace : String) (lastApplyTime : ℚ)
  | deleteRecord (bundleIdentifier configNamespace : String)
  | updateApplyTime (configNamespace : String) (lastApplyTime : ℚ)

/-- The main table that the operation works on. -/
def DBOperation.table : DBOperation → Option RCNDBSource
  | .insertMainTable source _ _ _ _ => some source
  | .deleteRecordFromMainTable _ _ source => some source
  | .insertMetadataTable _ _ _ | .deleteRecord _ _ | .updateApplyTime _ _ => none

/-- One row for every entry. -/
def insertions (bundleIdentifier configNamespace : String) (source : RCNDBSource)
    (entries : List (String × ByteArray)) : List DBOperation :=
  entries.map fun entry =>
    .insertMainTable source bundleIdentifier configNamespace entry.1 entry.2

namespace Database

/-- The rows of the one table change. -/
def setMain (source : RCNDBSource) (rows : List MainRow) (db : Database) : Database :=
  { db with main := Function.update db.main source rows }

/-- The statement is executed. -/
def execute (db : Database) : DBOperation → Database
  | .insertMainTable source bundleIdentifier configNamespace key value =>
    db.setMain source (db.main source ++
      [⟨bindString bundleIdentifier, bindString configNamespace, bindString key, value⟩])
  | .deleteRecordFromMainTable configNamespace bundleIdentifier source =>
    db.setMain source ((db.main source).filter fun row =>
      ¬ (row.bundleIdentifier = bindString bundleIdentifier ∧
        row.configNamespace = bindString configNamespace))
  | .insertMetadataTable bundleIdentifier configNamespace lastApplyTime =>
    { db with metadata := db.metadata ++
        [⟨bindString bundleIdentifier, bindString configNamespace, lastApplyTime⟩] }
  | .deleteRecord bundleIdentifier configNamespace =>
    { db with metadata := db.metadata.filter fun row =>
        ¬ (row.bundleIdentifier = bindString bundleIdentifier ∧
          row.configNamespace = bindString configNamespace) }
  -- The bundle is not asked for.
  | .updateApplyTime configNamespace lastApplyTime =>
    { db with metadata := db.metadata.map fun row =>
        if row.configNamespace = bindString configNamespace then
          { row with lastApplyTime := lastApplyTime }
        else row }

/-- A row that is loaded: its namespace gets a dictionary when it has none. -/
def loadRow (bundleIdentifier : String) (source : RCNDBSource)
    (namespaceToConfig : NamespaceToConfig) (row : MainRow) : NamespaceToConfig :=
  if row.bundleIdentifier = bindString bundleIdentifier then
    let config := (namespaceToConfig.lookup row.configNamespace).getD ∅
    namespaceToConfig.insert row.configNamespace
      (config.insert row.key ⟨row.value, source.valueSource⟩)
  else namespaceToConfig

def loadMainTable (bundleIdentifier : String) (source : RCNDBSource) (db : Database) :
    NamespaceToConfig :=
  (db.main source).foldl (loadRow bundleIdentifier source) ∅

/-- The time of the last activation, if there is a row. -/
def loadMetadataTable (bundleIdentifier configNamespace : String) (db : Database) : Option ℚ :=
  (db.metadata.find? fun row => row.bundleIdentifier = bindString bundleIdentifier ∧
    row.configNamespace = bindString configNamespace).map MetadataRow.lastApplyTime

@[simp] theorem main_setMain_self (source : RCNDBSource) (rows : List MainRow) (db : Database) :
    (db.setMain source rows).main source = rows := by
  simp [setMain]

theorem main_setMain_of_ne {source other : RCNDBSource} (h : other ≠ source)
    (rows : List MainRow) (db : Database) :
    (db.setMain source rows).main other = db.main other := by
  simp [setMain, h]

/-! ### What a table holds -/

/-- The configuration of the namespace that the table holds. -/
def holds (bundleIdentifier configNamespace : String) (source : RCNDBSource) (db : Database) :
    NSDictionary FIRRemoteConfigValue :=
  ((db.loadMainTable bundleIdentifier source).lookup configNamespace).getD ∅

section Holds

variable {bundleIdentifier configNamespace : String} {source : RCNDBSource}

/-- The rows of one namespace are loaded into its dictionary one after the other. -/
theorem lookup_foldl_loadRow (rows : List MainRow) (namespaceToConfig : NamespaceToConfig) :
    ((rows.foldl (loadRow bundleIdentifier source) namespaceToConfig).lookup
      configNamespace).getD ∅ =
      (rows.filter fun row => row.bundleIdentifier = bindString bundleIdentifier ∧
        row.configNamespace = configNamespace).foldl
        (fun config row => config.insert row.key ⟨row.value, source.valueSource⟩)
        ((namespaceToConfig.lookup configNamespace).getD ∅) := by
  induction rows generalizing namespaceToConfig with
  | nil => rfl
  | cons row rows ih =>
    rw [List.foldl_cons, ih]
    by_cases hbundle : row.bundleIdentifier = bindString bundleIdentifier
    · by_cases hnamespace : row.configNamespace = configNamespace
      · rw [List.filter_cons_of_pos (by simp [hbundle, hnamespace]), List.foldl_cons, loadRow,
          if_pos hbundle, hnamespace, Finmap.lookup_insert, Option.getD_some]
      · rw [List.filter_cons_of_neg (by simp [hnamespace]), loadRow, if_pos hbundle,
          Finmap.lookup_insert_of_ne _ (Ne.symm hnamespace)]
    · rw [List.filter_cons_of_neg (by simp [hbundle]), loadRow, if_neg hbundle]

theorem holds_eq_foldl (db : Database) :
    db.holds bundleIdentifier configNamespace source =
      ((db.main source).filter fun row => row.bundleIdentifier = bindString bundleIdentifier ∧
        row.configNamespace = configNamespace).foldl
        (fun config row => config.insert row.key ⟨row.value, source.valueSource⟩) ∅ := by
  rw [holds, loadMainTable, lookup_foldl_loadRow, Finmap.lookup_empty, Option.getD_none]

/-- Only what happens to the rows of its table matters. -/
theorem holds_congr {db db' : Database} (h : db'.main source = db.main source) :
    db'.holds bundleIdentifier configNamespace source =
      db.holds bundleIdentifier configNamespace source := by
  rw [holds_eq_foldl, holds_eq_foldl, h]

theorem holds_insertMainTable {key : String} (hnamespace : Storable configNamespace)
    (hkey : Storable key) (value : ByteArray) (db : Database) :
    (db.execute (.insertMainTable source bundleIdentifier configNamespace key value)).holds
      bundleIdentifier configNamespace source =
      (db.holds bundleIdentifier configNamespace source).insert key
        ⟨value, source.valueSource⟩ := by
  rw [holds_eq_foldl, holds_eq_foldl, execute, main_setMain_self, List.filter_append,
    List.foldl_append, hnamespace, hkey]
  simp

theorem holds_deleteRecordFromMainTable (hnamespace : Storable configNamespace) (db : Database) :
    (db.execute (.deleteRecordFromMainTable configNamespace bundleIdentifier source)).holds
      bundleIdentifier configNamespace source = ∅ := by
  rw [holds_eq_foldl, execute, main_setMain_self, hnamespace, List.filter_filter,
    List.filter_eq_nil_iff.mpr, List.foldl_nil]
  intro row _
  simp

/-- An operation on another table. -/
theorem holds_execute_of_table_ne {op : DBOperation} (h : op.table ≠ some source)
    (db : Database) : (db.execute op).holds bundleIdentifier configNamespace source =
      db.holds bundleIdentifier configNamespace source := by
  refine holds_congr ?_
  cases op with
  | insertMainTable other =>
    exact main_setMain_of_ne (fun heq => h (congrArg some heq.symm)) _ _
  | deleteRecordFromMainTable _ _ other =>
    exact main_setMain_of_ne (fun heq => h (congrArg some heq.symm)) _ _
  | insertMetadataTable => rfl
  | deleteRecord => rfl
  | updateApplyTime => rfl

/-- Rows inserted one after the other. -/
theorem holds_foldl_insertMainTable (hnamespace : Storable configNamespace)
    {entries : List (String × ByteArray)} (hkeys : ∀ entry ∈ entries, Storable entry.1)
    (db : Database) :
    ((insertions bundleIdentifier configNamespace source entries).foldl execute db).holds
      bundleIdentifier configNamespace source =
      (db.holds bundleIdentifier configNamespace source).insertAll (source.values entries) := by
  induction entries generalizing db with
  | nil => rfl
  | cons entry entries ih =>
    have hkey := hkeys entry List.mem_cons_self
    have hrest := ih fun entry hentry => hkeys entry (List.mem_cons_of_mem _ hentry)
    rw [insertions, List.map_cons, List.foldl_cons]
    exact (hrest _).trans (by rw [holds_insertMainTable hnamespace hkey]; rfl)

end Holds

end Database

/-! ### The configurations in memory -/

structure RCNConfigContent where
  activeConfig : NamespaceToConfig := ∅
  fetchedConfig : NamespaceToConfig := ∅
  defaultConfig : NamespaceToConfig := ∅

/-- A default value as the app registers it; what is no data is turned into text. -/
inductive DefaultValue where
  | data (value : ByteArray)
  | string (value : String)
  /-- A number, by its `stringValue`. -/
  | number (stringValue : String)
  /-- A date, formatted. -/
  | date (strValue : String)
  /-- An array or a dictionary, serialized. -/
  | json (value : ByteArray)
  /-- An object of another class. -/
  | other

/-- The data of a default value; without it the key is skipped. -/
def DefaultValue.valueData : DefaultValue → Option ByteArray
  | .data value => some value
  | .string value => dataUsingUTF8 value
  | .number stringValue => dataUsingUTF8 stringValue
  | .date strValue => dataUsingUTF8 strValue
  | .json value => some value
  | .other => none

/-- The response of the server; its entries, if it has any, are texts. -/
structure FetchResponse (P : Type) where
  state : Option String
  entries : NSDictionary String
  personalizationMetadata : Option (NSDictionary P)

namespace RCNConfigContent

def config (content : RCNConfigContent) : RCNDBSource → NamespaceToConfig
  | .active => content.activeConfig
  | .fetched => content.fetchedConfig
  | .default => content.defaultConfig

def setConfig (source : RCNDBSource) (config : NamespaceToConfig) (content : RCNConfigContent) :
    RCNConfigContent :=
  match source with
  | .active => { content with activeConfig := config }
  | .fetched => { content with fetchedConfig := config }
  | .default => { content with defaultConfig := config }

@[simp] theorem config_setConfig_self (source : RCNDBSource) (config : NamespaceToConfig)
    (content : RCNConfigContent) : (content.setConfig source config).config source = config := by
  cases source <;> rfl

theorem config_setConfig_of_ne {source other : RCNDBSource} (h : other ≠ source)
    (config : NamespaceToConfig) (content : RCNConfigContent) :
    (content.setConfig source config).config other = content.config other := by
  cases source <;> cases other <;> first | rfl | exact absurd rfl h

/-- The configuration of a namespace; there is nothing to read in it when the
namespace has none. -/
def configForNamespace (configNamespace : String) (source : RCNDBSource)
    (content : RCNConfigContent) : NSDictionary FIRRemoteConfigValue :=
  ((content.config source).lookup configNamespace).getD ∅

def loadConfigFromMainTable (bundleIdentifier : String) (db : Database) : RCNConfigContent where
  activeConfig := db.loadMainTable bundleIdentifier .active
  fetchedConfig := db.loadMainTable bundleIdentifier .fetched
  defaultConfig := db.loadMainTable bundleIdentifier .default

theorem configForNamespace_loadConfigFromMainTable (bundleIdentifier configNamespace : String)
    (source : RCNDBSource) (db : Database) :
    (loadConfigFromMainTable bundleIdentifier db).configForNamespace configNamespace source =
      db.holds bundleIdentifier configNamespace source := by
  cases source <;> rfl

/-! ### Changing a configuration -/

section Changes

variable (bundleIdentifier configNamespace : String)

/-- What `copyFromDictionary` and `handleUpdateState` have in common: the rows of the
namespace are deleted, and the entries go one by one into an empty dictionary and
into the table. -/
def replaceConfig (source : RCNDBSource) (entries : List (String × ByteArray))
    (content : RCNConfigContent) : RCNConfigContent × List DBOperation :=
  (content.setConfig source ((content.config source).insert configNamespace
    (NSDictionary.insertAll ∅ (source.values entries))),
  .deleteRecordFromMainTable configNamespace bundleIdentifier source ::
    insertions bundleIdentifier configNamespace source entries)

/-- `copyFromDictionary` with the registered defaults, enumerated as `keys`. -/
def copyDefaults (defaults : NSDictionary DefaultValue) (keys : List String)
    (content : RCNConfigContent) : RCNConfigContent × List DBOperation :=
  content.replaceConfig bundleIdentifier configNamespace .default
    (defaults.enumerate DefaultValue.valueData keys)

/-- `copyFromDictionary` with the fetched configuration, enumerated as `keys`; only
the data is copied. -/
def copyFetched (keys : List String) (content : RCNConfigContent) :
    RCNConfigContent × List DBOperation :=
  content.replaceConfig bundleIdentifier configNamespace .active
    ((content.configForNamespace configNamespace .fetched).enumerate
      (fun value => some value.dataValue) keys)

def handleNoChangeState (content : RCNConfigContent) : RCNConfigContent × List DBOperation :=
  match content.fetchedConfig.lookup configNamespace with
  | some _ => (content, [])
  | none => ({ content with fetchedConfig := content.fetchedConfig.insert configNamespace ∅ }, [])

def handleEmptyConfigState (content : RCNConfigContent) : RCNConfigContent × List DBOperation :=
  ({ content with fetchedConfig := content.fetchedConfig.insert configNamespace ∅ },
    [.deleteRecordFromMainTable configNamespace bundleIdentifier .fetched])

def handleNoTemplateState (content : RCNConfigContent) : RCNConfigContent × List DBOperation :=
  ({ content with fetchedConfig := content.fetchedConfig.erase configNamespace },
    [.deleteRecordFromMainTable configNamespace bundleIdentifier .fetched])

def handleUpdateState (entries : NSDictionary String) (keys : List String)
    (content : RCNConfigContent) : RCNConfigContent × List DBOperation :=
  content.replaceConfig bundleIdentifier configNamespace .fetched
    (entries.enumerate dataUsingUTF8 keys)

/-- A response whose state is missing or unknown changes nothing. -/
def updateConfigContentWithResponse {P : Type} (response : FetchResponse P) (keys : List String)
    (content : RCNConfigContent) : RCNConfigContent × List DBOperation :=
  match response.state with
  | none => (content, [])
  | some state =>
    if state = "NO_CHANGE" then content.handleNoChangeState configNamespace
    else if state = "EMPTY_CONFIG" then
      content.handleEmptyConfigState bundleIdentifier configNamespace
    else if state = "NO_TEMPLATE" then
      content.handleNoTemplateState bundleIdentifier configNamespace
    else if state = "UPDATE" then
      content.handleUpdateState bundleIdentifier configNamespace response.entries keys
    else (content, [])

end Changes

/-! ### What the changes do to the tables -/

section Writes

variable {bundleIdentifier configNamespace : String} {source : RCNDBSource}
  {content : RCNConfigContent} {entries : List (String × ByteArray)}

/-- The step from `content` to the outcome of a change, seen in the configuration
`source` of the namespace. -/
abbrev WritesConfig (bundleIdentifier configNamespace : String) (source : RCNDBSource)
    (content : RCNConfigContent) (changed : RCNConfigContent × List DBOperation) : Prop :=
  WriteBehind.Writes Database.execute (Database.holds bundleIdentifier configNamespace source)
    NSDictionary.IsPart (content.configForNamespace configNamespace source)
    (changed.1.configForNamespace configNamespace source) changed.2

theorem configForNamespace_replaceConfig (bundleIdentifier : String) (source : RCNDBSource)
    (entries : List (String × ByteArray)) (content : RCNConfigContent) :
    (content.replaceConfig bundleIdentifier configNamespace source entries).1.configForNamespace
      configNamespace source = NSDictionary.insertAll ∅ (source.values entries) := by
  rw [configForNamespace, replaceConfig, config_setConfig_self, Finmap.lookup_insert,
    Option.getD_some]

theorem configForNamespace_replaceConfig_of_ne (bundleIdentifier : String) {other : RCNDBSource}
    (h : other ≠ source) (entries : List (String × ByteArray)) (content : RCNConfigContent) :
    (content.replaceConfig bundleIdentifier configNamespace source entries).1.configForNamespace
      configNamespace other = content.configForNamespace configNamespace other := by
  rw [configForNamespace, replaceConfig, config_setConfig_of_ne h, configForNamespace]

/-- What an entry by entry copy of a dictionary looks like, as values. -/
theorem lookup_insertAll_values {β : Type} {dict : NSDictionary β} {keys : List String}
    (henum : dict.EnumeratedBy keys) (convert : β → Option ByteArray) (source : RCNDBSource)
    (key : String) :
    (NSDictionary.insertAll ∅ (source.values (dict.enumerate convert keys))).lookup key =
      ((dict.lookup key).bind convert).map fun data => ⟨data, source.valueSource⟩ := by
  have hvalues : source.values (dict.enumerate convert keys) = dict.enumerate
      (fun value => (convert value).map fun data => ⟨data, source.valueSource⟩) keys := by
    rw [RCNDBSource.values, NSDictionary.enumerate, NSDictionary.enumerate, List.map_filterMap]
    refine List.filterMap_congr fun k _ => ?_
    simp only [Option.map_bind, Function.comp_def, Option.map_map]
  rw [hvalues, henum.lookup_insertAll]
  cases dict.lookup key <;> rfl

/-- A deletion alone empties the configuration. -/
theorem writes_delete (bundleIdentifier : String) (source : RCNDBSource)
    (hnamespace : Storable configNamespace)
    (v : NSDictionary FIRRemoteConfigValue) :
    WriteBehind.Writes Database.execute (Database.holds bundleIdentifier configNamespace source)
      NSDictionary.IsPart v ∅
      [.deleteRecordFromMainTable configNamespace bundleIdentifier source] where
  all d _ := Database.holds_deleteRecordFromMainTable hnamespace d
  some d n hd := by
    rcases n with _ | n
    · exact .inl hd
    · refine .inr ?_
      rw [List.take_succ_cons, List.take_nil, List.foldl_cons, List.foldl_nil,
        Database.holds_deleteRecordFromMainTable hnamespace]
      exact NSDictionary.IsPart.refl ∅

/-- **Replacing a configuration never shows a mixture**: before the deletion the
table holds the old entries, and after it some of the new ones. -/
theorem writes_replaceConfig (hnamespace : Storable configNamespace)
    (hkeys : ∀ entry ∈ entries, Storable entry.1) (hnodup : (entries.map Prod.fst).Nodup)
    (source : RCNDBSource) (content : RCNConfigContent) (other : RCNDBSource) :
    WritesConfig bundleIdentifier configNamespace other content
      (content.replaceConfig bundleIdentifier configNamespace source entries) := by
  by_cases hother : other = source
  · subst hother
    rw [WritesConfig, configForNamespace_replaceConfig]
    -- After the deletion and `n` insertions the rows are the first `n` entries.
    have hafter : ∀ n (d : Database), ((insertions bundleIdentifier configNamespace other
        (entries.take n)).foldl Database.execute
          (d.execute (.deleteRecordFromMainTable configNamespace bundleIdentifier other))).holds
        bundleIdentifier configNamespace other =
          NSDictionary.insertAll ∅ ((other.values entries).take n) := by
      intro n d
      rw [Database.holds_foldl_insertMainTable hnamespace
          (fun entry hentry => hkeys entry (List.mem_of_mem_take hentry)),
        Database.holds_deleteRecordFromMainTable hnamespace, RCNDBSource.values,
        RCNDBSource.values, List.map_take]
    refine ⟨fun d _ => ?_, fun d n hd => ?_⟩
    · have hall := hafter entries.length d
      rwa [List.take_length, show entries.length = (other.values entries).length from
        (List.length_map ..).symm, List.take_length] at hall
    · -- Killed before the deletion, or after some of the insertions.
      rcases n with _ | n
      · exact .inl hd
      · refine .inr ?_
        rw [replaceConfig, List.take_succ_cons, List.foldl_cons, insertions, ← List.map_take]
        rw [show List.map _ (entries.take n) = insertions bundleIdentifier configNamespace other
          (entries.take n) from rfl, hafter]
        exact NSDictionary.isPart_insertAll_take
          ((other.map_fst_values entries).symm ▸ hnodup) n
  · rw [WritesConfig, configForNamespace_replaceConfig_of_ne bundleIdentifier hother]
    refine WriteBehind.Writes.of_frame fun op hop d => ?_
    refine Database.holds_execute_of_table_ne ?_ d
    rcases List.mem_cons.mp hop with rfl | hinsertion
    · exact fun h => hother (Option.some.inj h).symm
    · obtain ⟨entry, -, rfl⟩ := List.mem_map.mp hinsertion
      exact fun h => hother (Option.some.inj h).symm

variable {P : Type} {keys : List String}

theorem storable_of_mem_enumerate {β γ : Type} {dict : NSDictionary β} {convert : β → Option γ}
    (hkeys : ∀ key ∈ keys, Storable key) : ∀ entry ∈ dict.enumerate convert keys,
      Storable entry.1 :=
  fun _ hentry => hkeys _ (NSDictionary.mem_enumerate.mp hentry).1

theorem writes_copyDefaults (hnamespace : Storable configNamespace)
    {defaults : NSDictionary DefaultValue} (henum : defaults.EnumeratedBy keys)
    (hkeys : ∀ key ∈ keys, Storable key) (content : RCNConfigContent) (source : RCNDBSource) :
    WritesConfig bundleIdentifier configNamespace source content
      (content.copyDefaults bundleIdentifier configNamespace defaults keys) :=
  writes_replaceConfig hnamespace (storable_of_mem_enumerate hkeys) (henum.nodup_enumerate _)
    .default content source

theorem writes_copyFetched (hnamespace : Storable configNamespace)
    (henum : (content.configForNamespace configNamespace .fetched).EnumeratedBy keys)
    (hkeys : ∀ key ∈ keys, Storable key) (source : RCNDBSource) :
    WritesConfig bundleIdentifier configNamespace source content
      (content.copyFetched bundleIdentifier configNamespace keys) :=
  writes_replaceConfig hnamespace (storable_of_mem_enumerate hkeys) (henum.nodup_enumerate _)
    .active content source

/-- The fetched configuration is emptied, in memory and in the table. -/
theorem writes_of_emptied (hnamespace : Storable configNamespace) {config : NamespaceToConfig}
    (hconfig : (config.lookup configNamespace).getD ∅ = ∅) (content : RCNConfigContent)
    (source : RCNDBSource) :
    WritesConfig bundleIdentifier configNamespace source content
      ({ content with fetchedConfig := config },
        [.deleteRecordFromMainTable configNamespace bundleIdentifier .fetched]) := by
  by_cases hsource : source = .fetched
  · subst hsource
    have hempty := writes_delete bundleIdentifier .fetched hnamespace
      (content.configForNamespace configNamespace .fetched)
    rwa [← hconfig] at hempty
  · have hsame : ({ content with fetchedConfig := config } : RCNConfigContent).configForNamespace
        configNamespace source = content.configForNamespace configNamespace source := by
      cases source <;> first | rfl | exact absurd rfl hsource
    rw [WritesConfig, hsame]
    refine WriteBehind.Writes.of_frame fun op hop d => ?_
    obtain rfl := List.mem_singleton.mp hop
    refine Database.holds_execute_of_table_ne ?_ d
    exact fun h => hsource (Option.some.inj h).symm

/-- What a response does to the configurations of the namespace: nothing, or the
fetched one is emptied, or replaced. -/
theorem updateConfigContentWithResponse_cases (bundleIdentifier configNamespace : String)
    (response : FetchResponse P) (keys : List String) (content : RCNConfigContent) :
    ((response.state ≠ some "UPDATE" ∧ response.state ≠ some "EMPTY_CONFIG" ∧
        response.state ≠ some "NO_TEMPLATE") ∧
      (content.updateConfigContentWithResponse bundleIdentifier configNamespace response
        keys).2 = [] ∧
      ∀ source, (content.updateConfigContentWithResponse bundleIdentifier configNamespace response
        keys).1.configForNamespace configNamespace source =
          content.configForNamespace configNamespace source) ∨
    ((response.state = some "EMPTY_CONFIG" ∨ response.state = some "NO_TEMPLATE") ∧
      ∃ config : NamespaceToConfig, (config.lookup configNamespace).getD ∅ = ∅ ∧
        content.updateConfigContentWithResponse bundleIdentifier configNamespace response keys =
          ({ content with fetchedConfig := config },
            [.deleteRecordFromMainTable configNamespace bundleIdentifier .fetched])) ∨
    (response.state = some "UPDATE" ∧
      content.updateConfigContentWithResponse bundleIdentifier configNamespace response keys =
        content.replaceConfig bundleIdentifier configNamespace .fetched
          (response.entries.enumerate dataUsingUTF8 keys)) := by
  -- A namespace without a dictionary gets an empty one, which reads alike.
  have hnoChange : (content.handleNoChangeState configNamespace).2 = [] ∧
      ∀ source, (content.handleNoChangeState configNamespace).1.configForNamespace configNamespace
        source = content.configForNamespace configNamespace source := by
    rw [handleNoChangeState]
    split
    · exact ⟨rfl, fun _ => rfl⟩
    · rename_i hnone
      refine ⟨rfl, fun source => ?_⟩
      cases source with
      | active => rfl
      | default => rfl
      | fetched =>
        rw [configForNamespace, configForNamespace, config, config, Finmap.lookup_insert, hnone]
        rfl
  rw [updateConfigContentWithResponse]
  split
  · rename_i hstate
    exact .inl ⟨by simp [hstate], rfl, fun _ => rfl⟩
  · rename_i state hstate
    rw [hstate]
    split_ifs with h₁ h₂ h₃ h₄
    · exact .inl ⟨by simp [h₁], hnoChange⟩
    · refine .inr (.inl ⟨.inl (by rw [h₂]), _, ?_, rfl⟩)
      rw [Finmap.lookup_insert, Option.getD_some]
    · refine .inr (.inl ⟨.inr (by rw [h₃]), _, ?_, rfl⟩)
      rw [Finmap.lookup_erase, Option.getD_none]
    · exact .inr (.inr ⟨by rw [h₄], rfl⟩)
    · exact .inl ⟨by simp [h₂, h₃, h₄], rfl, fun _ => rfl⟩

/-- **Whatever the response says**, the tables never hold a mixture. -/
theorem writes_updateConfigContentWithResponse (hnamespace : Storable configNamespace)
    {response : FetchResponse P} (henum : response.entries.EnumeratedBy keys)
    (hkeys : ∀ key ∈ keys, Storable key) (content : RCNConfigContent) (source : RCNDBSource) :
    WritesConfig bundleIdentifier configNamespace source content
      (content.updateConfigContentWithResponse bundleIdentifier configNamespace response keys) := by
  rcases updateConfigContentWithResponse_cases bundleIdentifier configNamespace response keys
    content with ⟨-, hops, hsame⟩ | ⟨-, config, hempty, hchanged⟩ | ⟨-, hchanged⟩
  · rw [WritesConfig, hsame, hops]
    exact WriteBehind.Writes.of_frame fun op hop => absurd hop (by simp)
  · rw [hchanged]
    exact writes_of_emptied hnamespace hempty content source
  · rw [hchanged]
    exact writes_replaceConfig hnamespace (storable_of_mem_enumerate hkeys)
      (henum.nodup_enumerate _) .fetched content source

end Writes

/-! ### What the entries of a configuration are -/

section Sound

/-- The key can be stored, the value is marked with its source, and what comes from
the server is text. -/
def Sound (source : RCNDBSource) (dict : NSDictionary FIRRemoteConfigValue) : Prop :=
  ∀ key value, dict.lookup key = some value →
    Storable key ∧ value.source = source.valueSource ∧
      (source ≠ .default → ∃ text : String, value.dataValue = text.toUTF8)

variable (bundleIdentifier : String) {configNamespace : String} {P : Type}
  {content : RCNConfigContent} {keys : List String}

theorem sound_empty (source : RCNDBSource) : Sound source ∅ := by
  intro key value h
  rw [Finmap.lookup_empty] at h
  exact absurd h (by simp)

theorem Sound.of_isPart {source : RCNDBSource} {dict dict' : NSDictionary FIRRemoteConfigValue}
    (hpart : dict.IsPart dict') (h : Sound source dict') : Sound source dict :=
  fun key value hlookup => h key value (hpart key value hlookup)

theorem sound_replaceConfig {entries : List (String × ByteArray)} (other : RCNDBSource)
    (hkeys : ∀ entry ∈ entries, Storable entry.1)
    (htext : other ≠ .default → ∀ entry ∈ entries, ∃ text : String, entry.2 = text.toUTF8)
    (h : ∀ source, Sound source (content.configForNamespace configNamespace source))
    (source : RCNDBSource) :
    Sound source ((content.replaceConfig bundleIdentifier configNamespace other
      entries).1.configForNamespace configNamespace source) := by
  by_cases hsource : source = other
  · subst hsource
    rw [configForNamespace_replaceConfig]
    intro key value hlookup
    rcases NSDictionary.mem_of_lookup_insertAll hlookup with hempty | hmem
    · rw [Finmap.lookup_empty] at hempty
      exact absurd hempty (by simp)
    · obtain ⟨entry, hentry, heq⟩ := List.mem_map.mp hmem
      obtain ⟨rfl, rfl⟩ := Prod.mk.inj heq
      exact ⟨hkeys entry hentry, rfl, fun hdefault => htext hdefault entry hentry⟩
  · rw [configForNamespace_replaceConfig_of_ne bundleIdentifier hsource]
    exact h source

theorem sound_copyDefaults (defaults : NSDictionary DefaultValue)
    (hkeys : ∀ key ∈ keys, Storable key)
    (h : ∀ source, Sound source (content.configForNamespace configNamespace source))
    (source : RCNDBSource) :
    Sound source ((content.copyDefaults bundleIdentifier configNamespace defaults
      keys).1.configForNamespace configNamespace source) :=
  sound_replaceConfig bundleIdentifier .default (storable_of_mem_enumerate hkeys)
    (fun hne => absurd rfl hne) h source

theorem sound_copyFetched (hkeys : ∀ key ∈ keys, Storable key)
    (h : ∀ source, Sound source (content.configForNamespace configNamespace source))
    (source : RCNDBSource) :
    Sound source ((content.copyFetched bundleIdentifier configNamespace
      keys).1.configForNamespace configNamespace source) := by
  refine sound_replaceConfig bundleIdentifier .active (storable_of_mem_enumerate hkeys)
    (fun _ entry hentry => ?_) h source
  obtain ⟨-, value, hlookup, hdata⟩ := NSDictionary.mem_enumerate.mp hentry
  obtain ⟨text, htext⟩ := (h .fetched entry.1 value hlookup).2.2 (by decide)
  exact ⟨text, (Option.some.inj hdata).symm.trans htext⟩

theorem sound_updateConfigContentWithResponse (response : FetchResponse P)
    (hkeys : ∀ key ∈ keys, Storable key)
    (h : ∀ source, Sound source (content.configForNamespace configNamespace source))
    (source : RCNDBSource) :
    Sound source ((content.updateConfigContentWithResponse bundleIdentifier configNamespace
      response keys).1.configForNamespace configNamespace source) := by
  rcases updateConfigContentWithResponse_cases bundleIdentifier configNamespace response keys
    content with ⟨-, -, hsame⟩ | ⟨-, config, hempty, hchanged⟩ | ⟨-, hchanged⟩
  · rw [hsame]
    exact h source
  · rw [hchanged]
    cases source with
    | active => exact h .active
    | default => exact h .default
    | fetched =>
      rw [configForNamespace, RCNConfigContent.config, hempty]
      exact sound_empty .fetched
  · rw [hchanged]
    refine sound_replaceConfig bundleIdentifier .fetched (storable_of_mem_enumerate hkeys)
      (fun _ entry hentry => ?_) h source
    obtain ⟨-, text, -, hdata⟩ := NSDictionary.mem_enumerate.mp hentry
    exact ⟨text, (Option.some.inj hdata).symm⟩

end Sound

end RCNConfigContent

end HolyWater
