import PromptBook.Document.Variant
import PromptBook.Manager
import PromptBook.Yaml.Document

/-!
# Projects

A project may have a configuration in a YAML file of its own.  Everything it does not say has a
default, and a file that is not there says nothing.
-/

namespace PromptBook

open Files (Tree)

/-- Where templates are kept. -/
structure PromptsConfig where
  dir : String
  extensions : List String
  deriving DecidableEq, Inhabited

/-- Whether and how templates are cached. -/
structure CacheConfig where
  enabled : Bool
  capacity : Nat
  deriving DecidableEq, Inhabited

/-- What is checked, and how strictly. -/
structure ValidationConfig where
  onLoad : Bool
  strict : Bool
  requiredVariables : Bool
  deriving DecidableEq, Inhabited

/-- The backend: an echo, perhaps with a text before it. -/
structure BackendConfig where
  opening : Option String
  deriving DecidableEq, Inhabited

/-- How templates are executed. -/
structure ExecutionConfig where
  defaultModel : Option String
  backend : BackendConfig
  deriving DecidableEq, Inhabited

/-- The configuration of a project. -/
structure ProjectConfig where
  prompts : PromptsConfig
  cache : CacheConfig
  validation : ValidationConfig
  execution : ExecutionConfig
  deriving DecidableEq, Inhabited

/-- Why a configuration could not be loaded. -/
inductive ConfigError
  | yaml (failure : Yaml.Failure)
  | file (failure : Files.Failure)
  deriving DecidableEq, Inhabited

namespace ConfigError

/-- The error in words. -/
def message : ConfigError → String
  | yaml failure => failure.message
  | file failure => failure.message

end ConfigError

section Defaults

/-- How many templates are cached unless something else is said. -/
def Cache.defaultCapacity : Nat := 128

/-- The prompts of a project that says nothing about them. -/
def PromptsConfig.default : PromptsConfig := ⟨"prompts", Loader.defaultExtensions⟩

/-- The cache of a project that says nothing about it. -/
def CacheConfig.default : CacheConfig := ⟨true, Cache.defaultCapacity⟩

/-- The checks of a project that says nothing about them. -/
def ValidationConfig.default : ValidationConfig := ⟨true, false, true⟩

/-- The backend of a project that says nothing about it. -/
def BackendConfig.default : BackendConfig := ⟨none⟩

/-- The execution of a project that says nothing about it. -/
def ExecutionConfig.default : ExecutionConfig := ⟨none, .default⟩

/-- The configuration of a project that says nothing. -/
def ProjectConfig.default : ProjectConfig := ⟨.default, .default, .default, .default⟩

end Defaults

section Reading

open Document
open Yaml (Place)

/-- The path that a value spells. -/
def pathText (v : Place) : Decoded String :=
  match text? v with
  | some s => .ok s
  | none => unexpected v "path string"

/-- A size. -/
def size (v : Place) : Decoded Nat :=
  match spelled v with
  | .natural n => .ok n
  | _ => unexpected v "usize"

namespace PromptsConfig

/-- The prompts from a document. -/
def ofDocument (v : Place) : Decoded PromptsConfig := do
  let r ← record "struct PromptsConfig" false
    [field "dir" pathText, field "extensions" (Document.list string)] v
  .ok {
    dir := ← r.withDefault "dir" default.dir pathText
    extensions := ← r.withDefault "extensions" default.extensions (Document.list string) }

end PromptsConfig

namespace CacheConfig

/-- The cache from a document. -/
def ofDocument (v : Place) : Decoded CacheConfig := do
  let r ← record "struct CacheConfig" false [field "enabled" boolean, field "capacity" size] v
  .ok {
    enabled := ← r.withDefault "enabled" default.enabled boolean
    capacity := ← r.withDefault "capacity" default.capacity size }

end CacheConfig

namespace ValidationConfig

/-- The checks from a document. -/
def ofDocument (v : Place) : Decoded ValidationConfig := do
  let r ← record "struct ValidationConfig" false
    [field "onLoad" boolean, field "strict" boolean, field "requiredVariables" boolean] v
  .ok {
    onLoad := ← r.withDefault "onLoad" default.onLoad boolean
    strict := ← r.withDefault "strict" default.strict boolean
    requiredVariables := ← r.withDefault "requiredVariables" default.requiredVariables boolean }

end ValidationConfig

namespace BackendConfig

/-- The providers there are. -/
def providers : List (String × Unit) := [("echo", ())]

/-- The provider that a place names. -/
def provider (v : Place) : Decoded Unit :=
  variantName providers v

/-- The members beside the provider, which is looked at in passing and stands there once. -/
def otherMembers (named : Bool) :
    List (Place × Place) → Decoded (List (Yaml.Value × Yaml.Value))
  | [] => if named then .ok [] else mismatch (.missingField "provider")
  | (key, v) :: rest =>
    let name := (text? key).getD ""
    if name = "provider" ∧ key.ownTag? = none then
      if named then mismatch (.duplicateField name)
      else do
        inside (stepTo key name) (provider v)
        otherMembers true rest
    else do
      let x ← key.untaggedValue
      let y ← inside (stepTo key name) v.untaggedValue
      let others ← otherMembers named rest
      .ok ((x, y) :: others)

/-- The field that a key names, if it is a number: by its place among the fields. -/
def fieldOfKey (key : Yaml.Value) : Decoded Yaml.Value :=
  match key with
  | .natural 0 => .ok (.string "prefix")
  | .natural n => mismatch (.range (.natural n) "field index 0 <= i < 1")
  | key => .ok key

/-- The members of an echo with names for keys, up to the first key that names nothing. -/
def namedMembers :
    List (Yaml.Value × Yaml.Value) → List (Yaml.Value × Yaml.Value) × Decoded Unit
  | [] => ([], .ok ())
  | (key, v) :: rest =>
    match fieldOfKey key with
    | .ok key =>
      let (named, outcome) := namedMembers rest
      ((key, v) :: named, outcome)
    | .error fault => ([], .error fault)

/-- The fields with names for keys, up to the first key that names nothing. -/
def named : Tagged Yaml.Value Unit → Tagged Yaml.Value Unit × Decoded Unit
  | .members _ entries =>
    let (entries, outcome) := namedMembers entries
    (.members () entries, outcome)
  | .items _ values => (.items () values, .ok ())

/-- The backend of its fields. -/
def ofFields (fields : Tagged Yaml.Value Unit) : Decoded BackendConfig := do
  let (fields, outcome) := named fields
  let r ← fields.record "BackendConfig::Echo" true [field "prefix" (optional string)]
  outcome
  .ok ⟨← r.optional "prefix" string⟩

/-- The fields of a backend beside its provider. -/
def tagged (v : Place) : Decoded (Tagged Yaml.Value Unit) :=
  let what := "internally tagged enum BackendConfig"
  if v.ownTag?.isSome then mismatch (.kind .tagged what)
  else match v.target, members? v, items? v with
    | .mapping .., some entries, _ => do .ok (.members () (← otherMembers false entries))
    | .sequence .., _, some (name :: values) => do
      inside (.item 0) (provider name)
      .ok (.items () (← itemsFrom Place.untaggedValue 1 values))
    | .sequence .., _, _ => mismatch (.missingField "provider")
    | _, _, _ => unexpected v what

/-- The backend from the member of a document.  What is wrong with the fields is said of the record
that the member is in. -/
def ofMember (step : Step) (v : Place) : Decoded BackendConfig := do
  let fields ← inside step (tagged v)
  (ofFields fields).mapError fun fault => { fault with path := [] }

end BackendConfig

namespace ExecutionConfig

/-- The execution from a document. -/
def ofDocument (v : Place) : Decoded ExecutionConfig := do
  let r ← record "struct ExecutionConfig" false [
    field "defaultModel" (optional string),
    ("backend", fun step v => (BackendConfig.ofMember step v).map fun _ => ())] v
  let backend ← match r.members.lookup "backend" with
    | some v => BackendConfig.ofMember (.member "backend") v
    | none => .ok .default
  .ok { defaultModel := ← r.optional "defaultModel" string, backend }

end ExecutionConfig

namespace ProjectConfig

/-- The configuration from a document. -/
def ofDocument (v : Place) : Decoded ProjectConfig := do
  let r ← record "struct ProjectConfig" false [
    field "prompts" PromptsConfig.ofDocument,
    field "cache" CacheConfig.ofDocument,
    field "validation" ValidationConfig.ofDocument,
    field "execution" ExecutionConfig.ofDocument] v
  .ok {
    prompts := ← r.withDefault "prompts" .default PromptsConfig.ofDocument
    cache := ← r.withDefault "cache" .default CacheConfig.ofDocument
    validation := ← r.withDefault "validation" .default ValidationConfig.ofDocument
    execution := ← r.withDefault "execution" .default ExecutionConfig.ofDocument }

/-- The configuration that a text states. -/
def ofText (s : String) : Except Yaml.Failure ProjectConfig :=
  match Yaml.Stream.ofText? s with
  | none => .error .unreadable
  | some stream =>
    match ofDocument (Place.root stream.root) with
    | .ok config => if stream.followed then .error .severalDocuments else .ok config
    | .error fault =>
      if (Yaml.Value.ofRoot? stream.root).isNone then .error .unreadable
      else
        let inside := !fault.path.isEmpty || !Yaml.Stream.beginsWithRoot s
        .error (.unfit (fault.placed Yaml.wording) inside)

end ProjectConfig

end Reading

section Loading

namespace ProjectConfig

/-- The directory with what belongs to a project as a whole. -/
def directory : String := ".prism"

/-- The path of the configuration of a project. -/
def path (root : String) : String :=
  Path.join (Path.join root directory) "config.yaml"

/-- The configuration in the file at a path. -/
def load (files : Tree) (path : String) : Except ConfigError ProjectConfig :=
  if !files.isThere path then .ok .default
  else do
    let text ← (files.readText path).mapError .file
    (ofText text).mapError .yaml

end ProjectConfig

/-- What is to be different from the configuration of a project. -/
structure ConfigOverrides where
  promptsDir : Option String
  strict : Option Bool
  defaultModel : Option String
  deriving DecidableEq, Inhabited

namespace ConfigOverrides

/-- Nothing. -/
def none : ConfigOverrides := ⟨.none, .none, .none⟩

end ConfigOverrides

namespace ManagerConfig

/-- The set-up of a manager for a project. -/
def ofProject (root : String) (project : ProjectConfig) (changes : ConfigOverrides) :
    ManagerConfig where
  promptsDir := changes.promptsDir.getD (Path.join root project.prompts.dir)
  extensions := project.prompts.extensions
  cacheEnabled := project.cache.enabled
  cacheCapacity := project.cache.capacity
  validateOnLoad := project.validation.onLoad
  strict := changes.strict.getD project.validation.strict
  validateVariables := project.validation.requiredVariables
  defaultModel := changes.defaultModel.or project.execution.defaultModel

end ManagerConfig

namespace BackendConfig

/-- The backend itself. -/
def build (c : BackendConfig) : Backend :=
  .echo c.opening

end BackendConfig

end Loading

section Writing

namespace ProjectConfig

/-- A configuration as JSON. -/
def toJson (c : ProjectConfig) : Json :=
  .object [
    ("prompts", .object [
      ("dir", .string c.prompts.dir),
      ("extensions", .texts c.prompts.extensions)]),
    ("cache", .object [
      ("enabled", .bool c.cache.enabled),
      ("capacity", .nat c.cache.capacity)]),
    ("validation", .object [
      ("onLoad", .bool c.validation.onLoad),
      ("strict", .bool c.validation.strict),
      ("requiredVariables", .bool c.validation.requiredVariables)]),
    ("execution", .ofFields [
      ("defaultModel", c.execution.defaultModel.map .string),
      ("backend", some (.ofFields [
        ("provider", some (.string "echo")),
        ("prefix", c.execution.backend.opening.map .string)]))])]

end ProjectConfig

namespace ManagerConfig

/-- The set-up of a manager as JSON. -/
def toJson (c : ManagerConfig) : Json :=
  .ofFields [
    ("prompts_dir", some (.string c.promptsDir)),
    ("extensions", some (.texts c.extensions)),
    ("cache_enabled", some (.bool c.cacheEnabled)),
    ("cache_capacity", some (.nat c.cacheCapacity)),
    ("validate_on_load", some (.bool c.validateOnLoad)),
    ("strict", some (.bool c.strict)),
    ("validate_variables", some (.bool c.validateVariables)),
    ("default_model", c.defaultModel.map .string)]

end ManagerConfig

end Writing

end PromptBook
