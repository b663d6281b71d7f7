import Runboard.Settings.Basic

/-!
# `Runboard.Settings.Options`: options of the reading that cannot be followed

Most options of a reading take a value of any kind and make what they can of it. Some need a value
of a certain shape: the text before the names has to be a text, files have to be named by texts, and
the sources themselves can be given in place of the usual ones. The first option that cannot be
followed stops the reading before any setting is looked at.

## Contents

* `SourceFault`, `SourceFault.message`: why an option cannot be followed;
* `Sources.fault?`: the first fault of the options;
* `Settings.read`: the settings of some sources under their options.
-/

namespace Runboard

/-- Why an option cannot be followed. Most faults name the kind of a value. -/
inductive SourceFault where
  /-- A value is given for the settings themselves. -/
  | ownerGiven
  /-- A bound on nested names is no number. -/
  | noNumber (kind : String)
  /-- What should stand before the names has no length. -/
  | noLength (kind : String)
  /-- What should stand before the names cannot be joined to the name of a setting. -/
  | noName (setting : String)
  /-- Arguments of a command line are neither a list nor a flag. -/
  | noArguments (kind : String)
  /-- What should be a list of files, or of sources, is no list. -/
  | notList (kind : String)
  /-- A file is named by something else than a text. -/
  | noPath (kind : String)
  /-- What should be a pair has no parts. -/
  | noPair (kind : String)
  /-- What should be a pair has another number of parts. -/
  | notPair (parts : Nat)
  /-- A source is something that cannot be asked. -/
  | noSource (kind : String)
  deriving DecidableEq, Repr

/-- How a fault is reported. -/
def SourceFault.message : SourceFault → String
  | .ownerGiven => "BaseSettings.__init__() got multiple values for argument '__pydantic_self__'"
  | .noNumber kind => "unsupported operand type(s) for -: '" ++ kind ++ "' and 'int'"
  | .noLength kind => "object of type '" ++ kind ++ "' has no len()"
  | .noName setting =>
    "error getting value for field \"" ++ setting ++ "\" from source \"EnvSettingsSource\""
  | .noArguments kind =>
    "cli_parse_args must be a list or tuple of strings, received <class '" ++ kind ++ "'>"
  | .notList kind => "'" ++ kind ++ "' object is not iterable"
  | .noPath kind => "expected str, bytes or os.PathLike object, not " ++ kind
  | .noPair kind => "cannot unpack non-iterable " ++ kind ++ " object"
  | .notPair parts =>
    if parts < 2 then
      "not enough values to unpack (expected 2, got " ++ toString parts ++ ")"
    else "too many values to unpack (expected 2)"
  | .noSource kind => "'" ++ kind ++ "' object is not callable"

/-- The parts of a value: the elements of a list, the names of an object, the characters of a
text. -/
def Json.parts? : Json → Option (List Json)
  | .arr items => some items
  | .obj fields => some (fields.map (.str ·.1))
  | .str s => some (s.toList.map fun c => .str (String.ofList [c]))
  | _ => none

namespace Sources

/-- What is wrong with a value that names files. -/
def pathFault? : Json → Option SourceFault
  | .null => none
  | .str _ => none
  | v =>
    match v.parts? with
    | none => some (.notList v.kind)
    | some parts =>
      parts.findSome? fun
        | .str _ => none
        | part => some (.noPath part.kind)

/-- What is wrong with a bound on nested names. -/
def boundFault? : Json → Option SourceFault
  | .str s => if s = "" then none else some (.noNumber "str")
  | .arr items => if items.isEmpty then none else some (.noNumber "list")
  | .obj fields => if fields.isEmpty then none else some (.noNumber "dict")
  | _ => none

/-- What is wrong with a text before the names as soon as it is seen. -/
def leadFault? : Json → Option SourceFault
  | .bool _ => some (.noLength "bool")
  | .int _ => some (.noLength "int")
  | .float _ => some (.noLength "float")
  | _ => none

/-- What is wrong with a text before the names when the first name is made. -/
def joinFault? (s : Sources) : Option SourceFault :=
  match s.option "_env_prefix" with
  | .null => none
  | .str _ => none
  | _ => if s.leadApplies then Settings.names.head?.map .noName else none

/-- What is wrong with the arguments of a command line. A value equal to `false` stands for none. -/
def argumentFault? : Json → Option SourceFault
  | .int n => if n = 0 then none else some (.noArguments "int")
  | .float x => if x.isZero then none else some (.noArguments "float")
  | .str _ => some (.noArguments "str")
  | .obj _ => some (.noArguments "dict")
  | _ => none

/-- What is wrong with sources that are given in place of the usual ones. Only a pair whose first
part is empty can be followed. -/
def replacementFault? (v : Json) : Option SourceFault :=
  match v.parts? with
  | none => some (.noPair v.kind)
  | some [list, _] =>
    if !list.truthy then none
    else
      match list.parts? with
      | none => some (.notList list.kind)
      | some parts => parts.head?.map fun part => .noSource part.kind
  | some parts => some (.notPair parts.length)

/-- Whether other sources are given in place of the usual ones. -/
def isReplaced (s : Sources) : Bool :=
  match s.option "_build_sources" with
  | .null => false
  | _ => true

/-- The first fault of the options. -/
def fault? (s : Sources) : Option SourceFault :=
  if s.given.any (·.1 == "__pydantic_self__") then some .ownerGiven
  else if s.isReplaced then replacementFault? (s.option "_build_sources")
  else
    [ boundFault? (s.option "_env_nested_max_split"), leadFault? (s.option "_env_prefix"),
      pathFault? (s.option "_env_file"), argumentFault? (s.option "_cli_parse_args"),
      s.joinFault?, pathFault? (s.option "_secrets_dir") ].findSome? id

end Sources

/-- The settings of some sources, if the options can be followed. Sources given in place of the
usual ones leave every setting at its default. -/
def Settings.read (drawn : String) (s : Sources) :
    Except SourceFault (Checked SettingFault Settings) :=
  match s.fault? with
  | some f => .error f
  | none => .ok (Settings.build drawn (if s.isReplaced then ⟨[], []⟩ else s))

end Runboard
