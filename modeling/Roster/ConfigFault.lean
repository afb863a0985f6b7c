import Roster.Text.Quoted

/-! # Configuration faults

Why the settings of a project, a type manifest or a choice of sources cannot be used.
-/

namespace Roster

/-- Why a configuration cannot be used. -/
inductive ConfigFault where
  /-- The text of a file is no document. -/
  | malformedFile (name detail : String)
  -- Settings.
  | settingsNotMapping
  | notTexts (key : String)
  | entryNotText (key shown : String)
  | workersNotPositive
  | optionsNotMapping
  | optionNotScalar (key : String)
  | optionWithoutKey (pair : String)
  -- Manifests.
  | unreadableManifest (path detail : String)
  | noTypesList
  | entryNotMapping (index : Nat)
  | entryWithoutName (index : Nat)
  | declaredTwice (typeName : String)
  | packageNotText (typeName : String)
  | fieldsNotList (typeName : String)
  | extendsNotText (typeName : String)
  | extendsUnknown (typeName parent : String)
  -- Sources.
  | manifestPathMissing
  | unknownSource (name : String)
  | brokenPlugin (name detail : String)
  | notASource
  -- The command line.
  | projectNotFound (path : String)
  | workersArgument
  /-- A host's own wording. -/
  | stated (message : String)
  deriving DecidableEq, Repr

namespace ConfigFault

/-- The name of the settings file. -/
def settingsFile : String := ".fielder.yml"

/-- The code of configuration faults. -/
def code : String := "config-error"

/-- The wording of a fault. -/
def message : ConfigFault → String
  | .malformedFile name detail => "Failed to parse " ++ name ++ ": " ++ detail
  | .settingsNotMapping => settingsFile ++ " must contain a mapping at the root"
  | .notTexts key => key ++ " must be a string or a list of strings"
  | .entryNotText key shown => key ++ " entries must be strings, got " ++ shown
  | .workersNotPositive => "workers must be a positive integer"
  | .optionsNotMapping => "options must be a mapping of option names to values"
  | .optionNotScalar key => "Option " ++ key ++ " must be a scalar value"
  | .optionWithoutKey pair => "Invalid option " ++ Text.quoted pair ++ "; expected key=value"
  | .unreadableManifest path detail => "Unable to read type manifest " ++ path ++ ": " ++ detail
  | .noTypesList => "Type manifest must contain a 'types' list"
  | .entryNotMapping index => "Manifest entry #" ++ toString index ++ " must be a mapping"
  | .entryWithoutName index => "Manifest entry #" ++ toString index ++ " is missing a name"
  | .declaredTwice typeName => "Type " ++ typeName ++ " is declared more than once"
  | .packageNotText typeName => "Package of " ++ typeName ++ " must be a string"
  | .fieldsNotList typeName => "Fields of " ++ typeName ++ " must be a list"
  | .extendsNotText typeName => "'extends' of " ++ typeName ++ " must be a type name"
  | .extendsUnknown typeName parent =>
    "Type " ++ typeName ++ " extends unknown type " ++ parent
  | .manifestPathMissing => "The manifest discovery source needs a 'manifest' path"
  | .unknownSource name => "Unknown discovery source requested: " ++ name
  | .brokenPlugin name detail =>
    "Failed to load discovery entry point '" ++ name ++ "': " ++ detail
  | .notASource =>
    "Discovery entry point must be a TypeDiscovery or a factory taking the config"
  | .projectNotFound path => "Project path not found: " ++ path
  | .workersArgument => "--workers must be a positive integer"
  | .stated message => message

end ConfigFault
end Roster
