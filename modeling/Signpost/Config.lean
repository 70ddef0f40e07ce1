import Signpost.Files.Tree
import Signpost.Navigator.Basic
import Signpost.Toml.Reader
import Signpost.Toml.Writer

/-! The settings file of a project, `keyflow.toml`.

Fields that are missing have their defaults, and unknown fields are ignored. Relative directories are
seen from the directory of the file. -/

namespace Signpost

structure Config where
  mode : Mode := .blocking
  density : Density := .full
  /-- How often a required command is launched before it counts as failed; zero is no limit. -/
  retryLimit : Nat := 25
  defaultBlock : String := "main"
  documentsDirectory : String := "documents"
  dataDirectory : String := "data"
  /-- How many seconds a workflow may take. -/
  workflowTimeout : Nat := 30
  /-- How many bytes of each output of a workflow are kept. -/
  outputLimit : Nat := 100000
  /-- The roles of the local user. -/
  roles : List String := []
  /-- How many keys one walk dispatches; zero is no limit. -/
  maxSteps : Nat := 1000
deriving DecidableEq, Repr, Inhabited

inductive ConfigFlaw where
  | emptyBlock
  | invalidBlock
  | zeroTimeout
  | zeroLimit
  | emptyRole
deriving DecidableEq, Repr, Inhabited

def ConfigFlaw.message : ConfigFlaw → String
  | emptyBlock => "default_block must be non-empty"
  | invalidBlock => "default_block must not contain '.' or '/'"
  | zeroTimeout => "workflow_timeout_secs must be > 0"
  | zeroLimit => "workflow_output_limit_bytes must be > 0"
  | emptyRole => "roles must not contain empty names"

inductive ConfigError where
  | file (fault : FileFault)
  | malformed (path : String)
  | invalid (path : String) (flaw : ConfigFlaw)
deriving DecidableEq, Repr, Inhabited

def ConfigError.chain : ConfigError → List String
  | file fault => fault.chain
  | malformed path => ["parse " ++ path, "not a settings file"]
  | invalid path flaw => ["validate " ++ path, flaw.message]

namespace Config

def fileName : String := "keyflow.toml"

def flaw? (config : Config) : Option ConfigFlaw :=
  if Text.blank config.defaultBlock then some .emptyBlock
  else if config.defaultBlock.toList.any (fun c => c == '.' || c == '/') then some .invalidBlock
  else if config.workflowTimeout = 0 then some .zeroTimeout
  else if config.outputLimit = 0 then some .zeroLimit
  else if config.roles.any Text.blank then some .emptyRole
  else none

def fieldOr {α β : Type} (read : β → Option α) (default : α) (fields : List (String × β))
    (name : String) : Option α :=
  match fields.lookup name with
  | none => some default
  | some value => read value

/-- How the settings are written: a choice among names, a text, a list of texts or a count of so
many bits. -/
structure Spelling (β : Type) where
  choice? : β → Option String
  text? : β → Option String
  texts? : β → Option (List String)
  count? : Nat → β → Option Nat

def fileSpelling : Spelling Toml.Datum :=
  ⟨Toml.Datum.choice?, Toml.Datum.text?, Toml.Datum.texts?, Toml.Datum.natural?⟩

def recordSpelling : Spelling Value where
  choice? := Value.text?
  text? := Value.text?
  texts? value := value.items?.bind (·.mapM Value.text?)
  count? bits value := value.natural?.bind fun n => if n < Nat.pow 2 bits then some n else none

def ofSpelling? {β : Type} (w : Spelling β) (fields : List (String × β)) : Option Config := do
  let base : Config := {}
  let mode ← fieldOr (fun v => (w.choice? v).bind Mode.ofName?) base.mode fields "mode"
  let density ← fieldOr (fun v => (w.choice? v).bind Density.ofName?) base.density fields "density"
  let retryLimit ← fieldOr (w.count? 32) base.retryLimit fields "required_retry_limit"
  let defaultBlock ← fieldOr w.text? base.defaultBlock fields "default_block"
  let documentsDirectory ← fieldOr w.text? base.documentsDirectory fields "documents_dir"
  let dataDirectory ← fieldOr w.text? base.dataDirectory fields "data_dir"
  let workflowTimeout ← fieldOr (w.count? 64) base.workflowTimeout fields "workflow_timeout_secs"
  let outputLimit ← fieldOr (w.count? 64) base.outputLimit fields "workflow_output_limit_bytes"
  let roles ← fieldOr w.texts? base.roles fields "roles"
  let maxSteps ← fieldOr (w.count? 32) base.maxSteps fields "max_steps"
  return ⟨mode, density, retryLimit, defaultBlock, documentsDirectory, dataDirectory,
    workflowTimeout, outputLimit, roles, maxSteps⟩

def ofFields? (fields : Fields) : Option Config := ofSpelling? recordSpelling fields

/-- The settings with absolute directories, seen from `root`. -/
def resolve (config : Config) (root : String) : Config :=
  { config with
    documentsDirectory := Path.join root config.documentsDirectory
    dataDirectory := Path.join root config.dataDirectory }

def load (tree : FileTree) (path : String) : Except ConfigError Config :=
  if !tree.has path then .ok {}
  else match tree.readText path with
    | .error e => .error (.file (.read path e))
    | .ok text =>
        match (Toml.fields? text).bind (ofSpelling? fileSpelling) with
        | none => .error (.malformed path)
        | some config =>
            match config.flaw? with
            | some flaw => .error (.invalid path flaw)
            | none => .ok config

def text (config : Config) : String :=
  let line (name value : String) : String := name ++ " = " ++ value ++ "\n"
  line "mode" (Toml.writeText config.mode.name) ++
    line "density" (Toml.writeText config.density.name) ++
    line "required_retry_limit" (toString config.retryLimit) ++
    line "default_block" (Toml.writeText config.defaultBlock) ++
    line "documents_dir" (Toml.writeText config.documentsDirectory) ++
    line "data_dir" (Toml.writeText config.dataDirectory) ++
    line "workflow_timeout_secs" (toString config.workflowTimeout) ++
    line "workflow_output_limit_bytes" (toString config.outputLimit) ++
    line "roles" (Toml.writeTexts config.roles) ++
    line "max_steps" (toString config.maxSteps) ++ "\n"

/-- Writes a settings file, unless a setting is flawed. The chain of messages of a failure comes
with the tree it leaves. -/
def write (config : Config) (tree : FileTree) (path : String) : Except (List String) Unit × FileTree :=
  match config.flaw? with
  | some flaw => (.error [flaw.message], tree)
  | none =>
      match tree.writeAtomic path config.text with
      | (some fault, tree) => (.error fault.chain, tree)
      | (none, tree) => (.ok (), tree)

def toValue (config : Config) : Value :=
  .obj [("mode", .str config.mode.name), ("density", .str config.density.name),
    ("required_retry_limit", .nat config.retryLimit), ("default_block", .str config.defaultBlock),
    ("documents_dir", .str config.documentsDirectory), ("data_dir", .str config.dataDirectory),
    ("workflow_timeout_secs", .nat config.workflowTimeout),
    ("workflow_output_limit_bytes", .nat config.outputLimit),
    ("roles", .arr (config.roles.map .str)), ("max_steps", .nat config.maxSteps)]

def settings (config : Config) : Settings := ⟨config.density, config.retryLimit, config.defaultBlock⟩

end Config

end Signpost
