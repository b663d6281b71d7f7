import Runboard.Settings.Options

/-!
# `Runboard.Settings.Cache`: settings that are read once

The settings are read from the environment when they are first asked for and kept until they are
dropped; what happens to the environment in between does not show. A reading that fails is not kept.
Every reading that succeeds takes the next of the secrets that are drawn at random.
A kept setting may be assigned to without any check; the assignment lasts as long as the reading.
Assignments reach further than the settings: a name that belongs to nothing goes aside, and the
values by name, or those kept aside, can be replaced as a whole. Readings are numbered in the order
in which they are first shown.

## Contents

* `KeptSettings`, `KeptSettings.view`: a reading with what was assigned to it;
* `ViewFault`, `AssignFault`: assignments that do harm, and names that refuse them;
* `SettingsCache`, `SettingsCache.get`, `SettingsCache.drop`,
  `SettingsCache.setVariables`;
* `SettingsStep`, `SettingsAnswer`, `SettingsCache.step`, `SettingsCache.run`: sessions.
-/

namespace Runboard

/-! ## Kept settings -/

/-- A reading of the settings with what was assigned since. -/
structure KeptSettings where
  settings : Settings
  /-- The number of the reading among those that were shown, once it was. -/
  number? : Option Nat := none
  /-- The values by name. -/
  held : List (String × Json) := settings.fields
  /-- The values kept aside. -/
  aside : Json := .obj settings.extra
  /-- What was put in the place of the set of names that were given. -/
  givenNames? : Option Json := none

/-- What settings show: their values by name, the values kept aside, and what follows from them. -/
structure SettingsView where
  fields : List (String × Json)
  extra : List (String × Json)
  engineUrl : String
  corsOrigins : List String

/-- Why settings cannot be shown. Most faults name the kind of a value that was assigned. -/
inductive ViewFault where
  /-- A value stands where something is worked out. -/
  | replaced (kind : String)
  /-- A value that is no text stands where a list of origins should. -/
  | origins (kind : String)
  /-- A setting has no value. -/
  | missing (name : String)
  /-- What is kept aside has no parts under names. -/
  | noParts (kind : String)
  /-- What is kept aside cannot be listed. -/
  | notList (kind : String)
  /-- A part of what is kept aside is no name with a value. -/
  | notPair (place : Nat)
  /-- A part of what is kept aside is no pair. -/
  | notTwo (place parts : Nat)
  /-- What should be a name has parts of its own. -/
  | nameKind (kind : String)
  deriving DecidableEq, Repr

/-- How a fault is reported. -/
def ViewFault.message : ViewFault → String
  | .replaced kind => "'" ++ kind ++ "' object is not callable"
  | .origins kind => "'" ++ kind ++ "' object has no attribute 'split'"
  | .missing name => "'Settings' object has no attribute '" ++ name ++ "'"
  | .noParts "list" => "list indices must be integers or slices, not str"
  | .noParts "str" => "string indices must be integers, not 'str'"
  | .noParts kind => "'" ++ kind ++ "' object is not subscriptable"
  | .notList kind => "'" ++ kind ++ "' object is not iterable"
  | .notPair place =>
    "cannot convert dictionary update sequence element #" ++ toString place ++ " to a sequence"
  | .notTwo place parts =>
    "dictionary update sequence element #" ++ toString place ++ " has length " ++
      toString parts ++ "; 2 is required"
  | .nameKind kind => "unhashable type: '" ++ kind ++ "'"

/-- What settings show. -/
def Settings.view (s : Settings) : SettingsView :=
  { fields := s.fields, extra := s.extra, engineUrl := s.engineUrl, corsOrigins := s.corsOrigins }

namespace KeptSettings

/-- The names under which something is worked out from the settings. -/
def derivedNames : List String := ["get_database_url", "get_cors_origins"]

/-- The attributes of the class `Settings` and of `pydantic`'s `BaseModel`. A value assigned under one of
them is held by the instance and not among its extras, so it does not show. -/
def ownNames : List String :=
  [ "validate_secret_key", "validate_positive", "settings_customise_sources", "model_config",
    "model_construct", "model_copy", "model_dump", "model_dump_json", "model_json_schema",
    "model_parametrized_name", "model_post_init", "model_rebuild", "model_validate",
    "model_validate_json", "model_validate_strings", "model_computed_fields", "model_fields",
    "dict", "json", "parse_obj", "parse_raw", "parse_file", "from_orm", "construct", "copy",
    "schema", "schema_json", "validate", "update_forward_refs", "mro", "register" ]

/-- Whether a value assigned under a name goes aside. -/
def isAside (name : String) : Bool :=
  !(Settings.names.contains name || derivedNames.contains name || ownNames.contains name ||
    name.startsWith "_")

/-- The value of a setting: the one held under its name, else the one kept aside. -/
def value (k : KeptSettings) (name : String) : Except ViewFault Json :=
  match Fields.get? k.held name with
  | some v => .ok v
  | none =>
    match k.aside with
    | .null => .error (.missing name)
    | .obj fields =>
      match Fields.get? fields name with
      | some v => .ok v
      | none => .error (.missing name)
    | v => .error (.noParts v.kind)

/-- A name with its value, from the part of a list in some place. -/
def namedPart (place : Nat) (part : Json) : Except ViewFault (String × Json) :=
  match part.parts? with
  | none => .error (.notPair place)
  | some [.str name, v] => .ok (name, v)
  | some [.arr _, _] => .error (.nameKind "list")
  | some [.obj _, _] => .error (.nameKind "dict")
  | some [name, v] => .ok (name.display, v)
  | some parts => .error (.notTwo place parts.length)

/-- The parts of a list as named values; of equal names the last value counts. -/
def namedParts (fields : List (String × Json)) (place : Nat) :
    List Json → Except ViewFault (List (String × Json))
  | [] => .ok fields
  | part :: rest =>
    match namedPart place part with
    | .error f => .error f
    | .ok (name, v) => namedParts (Fields.put fields name v) (place + 1) rest

/-- The values kept aside, by name. What counts as absent holds none. -/
def extra (k : KeptSettings) : Except ViewFault (List (String × Json)) :=
  match k.aside with
  | .obj fields => .ok fields
  | v =>
    if !v.truthy then .ok []
    else
      match v.parts? with
      | none => .error (.notList v.kind)
      | some parts => namedParts [] 0 parts

/-- What is worked out under a name, unless a value is held there. -/
def derived {α : Type} (k : KeptSettings) (name : String) (value : Except ViewFault α) :
    Except ViewFault α :=
  match Fields.get? k.held name with
  | some v => .error (.replaced v.kind)
  | none => value

/-- The origins that follow from the settings. -/
def corsOrigins (k : KeptSettings) : Except ViewFault (List String) := do
  let listed ← k.value "cors_allowed_origins"
  let environment := (← k.value "environment").display
  match listed with
  | .str s => return Runboard.corsOrigins (some s) environment
  | v =>
    if v.truthy then .error (.origins v.kind)
    else return Runboard.corsOrigins none environment

/-- What kept settings show. -/
def view (k : KeptSettings) : Except ViewFault SettingsView := do
  let fields ← Settings.names.mapM fun name => return (name, ← k.value name)
  let extra ← k.extra
  let url ← k.derived "get_database_url"
    (return Runboard.engineUrl (← k.value "database_url").display)
  let origins ← k.derived "get_cors_origins" k.corsOrigins
  return { fields := fields, extra := extra, engineUrl := url, corsOrigins := origins }

end KeptSettings

/-- Why an assignment fails. -/
inductive AssignFault where
  /-- The name belongs to all settings together. -/
  | shared (name : String)
  /-- The name stands for something that can only be read. -/
  | readOnly (name : String)
  /-- The name stands for what settings are, which a value of the kind cannot be. -/
  | notClass (kind : String)
  /-- A value of the kind is assigned in place of the values by name. -/
  | notFields (kind : String)
  /-- What is kept aside takes no value under a name. -/
  | noParts (kind : String)
  /-- What was put in the place of the set of given names takes no name. -/
  | noMembers (kind : String)
  deriving DecidableEq, Repr

/-- How a fault is reported. -/
def AssignFault.message : AssignFault → String
  | .shared name =>
    "'" ++ name ++ "' is a ClassVar of `Settings` and cannot be set on an instance. " ++
      "If you want to set a value on the class, use `Settings." ++ name ++ " = value`."
  | .readOnly name => "property '" ++ name ++ "' of 'Settings' object has no setter"
  | .notClass kind => "__class__ must be set to a class, not '" ++ kind ++ "' object"
  | .notFields kind => "__dict__ must be set to a dictionary, not a '" ++ kind ++ "'"
  | .noParts "list" => "list indices must be integers or slices, not str"
  | .noParts kind => "'" ++ kind ++ "' object does not support item assignment"
  | .noMembers kind => "'" ++ kind ++ "' object has no attribute 'add'"

namespace KeptSettings

/-- The names that `pydantic` annotates as `ClassVar`: assigning to one of them on an instance raises. -/
def sharedNames : List String :=
  [ "__class_vars__", "__private_attributes__", "__signature__", "__pydantic_complete__",
    "__pydantic_core_schema__", "__pydantic_custom_init__", "__pydantic_decorators__",
    "__pydantic_generic_metadata__", "__pydantic_parent_namespace__", "__pydantic_post_init__",
    "__pydantic_root_model__", "__pydantic_serializer__", "__pydantic_validator__",
    "__pydantic_fields__", "__pydantic_setattr_handlers__", "__pydantic_computed_fields__" ]

/-- The properties without a setter. -/
def readOnlyNames : List String :=
  ["model_extra", "model_fields_set", "__fields__", "__fields_set__"]

/-- Puts a value aside under a name. -/
def putAside (k : KeptSettings) (name : String) (v : Json) :
    Option AssignFault × KeptSettings :=
  match k.aside with
  | .obj fields => (none, { k with aside := .obj (Fields.put fields name v) })
  | other => (some (.noParts other.kind), k)

/-- Holds a value under a name. -/
def hold (k : KeptSettings) (name : String) (v : Json) : KeptSettings :=
  { k with held := Fields.put k.held name v }

/-- Assigns to a name. The value of a setting is held even where its name cannot be added to the
names that were given. -/
def assign (k : KeptSettings) (name : String) (v : Json) : Option AssignFault × KeptSettings :=
  if sharedNames.contains name then (some (.shared name), k)
  else if readOnlyNames.contains name then (some (.readOnly name), k)
  else
    match name, v with
    | "__class__", v => (some (.notClass v.kind), k)
    | "__dict__", .obj fields => (none, { k with held := fields })
    | "__dict__", v => (some (.notFields v.kind), k)
    | "__pydantic_extra__", v => (none, { k with aside := v })
    | "__pydantic_fields_set__", v => (none, { k with givenNames? := some v })
    | name, v =>
      if isAside name then k.putAside name v
      else if Settings.names.contains name then
        (k.givenNames?.map fun names => .noMembers names.kind, k.hold name v)
      else (none, k.hold name v)

end KeptSettings

/-! ## The cache -/

/-- The environment with the reading that is kept, if there is one, and the number of readings that
were shown. -/
structure SettingsCache where
  environment : Environment
  /-- The secrets that are drawn at random, in turn. -/
  secrets : Nat → String
  /-- The number of readings that succeeded, and so of the secrets that were taken. -/
  readings : Nat := 0
  kept : Option KeptSettings := none
  shown : Nat := 0

namespace SettingsCache

/-- The kept settings, read from the environment if there are none. -/
def get (c : SettingsCache) : Checked SettingFault KeptSettings × SettingsCache :=
  match c.kept with
  | some k => (.ok k, c)
  | none =>
    match Settings.build (c.secrets c.readings) ⟨c.environment, []⟩ with
    | .ok s =>
      (.ok { settings := s },
        { c with readings := c.readings + 1, kept := some { settings := s } })
    | .faults fs => (.faults fs, c)

/-- Drops the kept settings. -/
def drop (c : SettingsCache) : SettingsCache := { c with kept := none }

/-- Sets and removes variables in turn, up to the first that cannot be set. -/
def setVariables (c : SettingsCache) (changes : List (String × Option Json)) :
    Option VariableFault × SettingsCache :=
  let (fault, environment) := c.environment.changeAll changes
  (fault, { c with environment := environment })

/-- Why kept settings cannot be answered. -/
inductive Fault where
  | settings (faults : List SettingFault)
  | view (fault : ViewFault)
  | assign (fault : AssignFault)

/-- What some settings show, with the number of their reading, which they are given if they have
none. They are kept. -/
def present (c : SettingsCache) (k : KeptSettings) :
    Except Fault (Nat × SettingsView) × SettingsCache :=
  let number := k.number?.getD c.shown
  let shown := if k.number?.isSome then c.shown else c.shown + 1
  let c := { c with kept := some { k with number? := some number }, shown := shown }
  match k.view with
  | .error f => (.error (.view f), c)
  | .ok view => (.ok (number, view), c)

/-- Shows the kept settings. -/
def look (c : SettingsCache) : Except Fault (Nat × SettingsView) × SettingsCache :=
  match c.get with
  | (.faults fs, c) => (.error (.settings fs), c)
  | (.ok k, c) => c.present k

/-- Assigns to the kept settings, and shows them if nothing stands against it. -/
def assign (c : SettingsCache) (name : String) (v : Json) :
    Except Fault (Nat × SettingsView) × SettingsCache :=
  match c.get with
  | (.faults fs, c) => (.error (.settings fs), c)
  | (.ok k, c) =>
    match k.assign name v with
    | (some f, k) => (.error (.assign f), { c with kept := some k })
    | (none, k) => c.present k

end SettingsCache

/-! ## Sessions -/

/-- A step of a session. -/
inductive SettingsStep where
  | setVariables (changes : List (String × Option Json))
  | drop
  | get
  | assign (name : String) (value : Json)

/-- What a step answers: nothing, why a variable cannot be set, or the kept settings as they are
after it. -/
inductive SettingsAnswer where
  | nothing
  | variable (fault : VariableFault)
  | settings (result : Except SettingsCache.Fault (Nat × SettingsView))

namespace SettingsCache

/-- Makes a step. -/
def step (c : SettingsCache) : SettingsStep → SettingsAnswer × SettingsCache
  | .setVariables changes =>
    let (fault, c) := c.setVariables changes
    (match fault with | some f => .variable f | none => .nothing, c)
  | .drop => (.nothing, c.drop)
  | .get => let (r, c) := c.look; (.settings r, c)
  | .assign name v => let (r, c) := c.assign name v; (.settings r, c)

/-- Makes the steps of a session in turn. -/
def run (c : SettingsCache) : List SettingsStep → List SettingsAnswer × SettingsCache
  | [] => ([], c)
  | s :: rest =>
    let (a, c) := c.step s
    let (as, c) := run c rest
    (a :: as, c)

/-! ## Small facts -/

/-- Settings that are kept are not read again. -/
theorem get_of_kept {cache : SettingsCache} (kept : cache.kept.isSome = true) :
    ∃ k, cache.get = (.ok k, cache) := by
  obtain ⟨k, hk⟩ := Option.isSome_iff_exists.1 kept
  exact ⟨k, by rw [get, hk]⟩

/-- Settings that were read are the ones that are read again. -/
theorem get_again {cache cache' : SettingsCache} {k : KeptSettings}
    (kept : cache.get = (.ok k, cache')) : cache'.get = (.ok k, cache') := by
  unfold get at kept
  split at kept
  · next k' held =>
    obtain ⟨same, rfl⟩ := Prod.mk.inj kept
    obtain rfl := Checked.ok.inj same
    rw [get, held]
  · split at kept
    · obtain ⟨same, rfl⟩ := Prod.mk.inj kept
      obtain rfl := Checked.ok.inj same
      rfl
    · cases (Prod.mk.inj kept).1

end SettingsCache

end Runboard
