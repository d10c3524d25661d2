/-
Settings.

Settings have defaults; a file gives some of them, the environment overrides those, and the
command line overrides both. `override` is one layer of the environment: it names the settings
that it changed also when a later word is no flag. `check` says when settings can be used.
-/

import Podkeeper.Failure
import Podkeeper.Json.Build
import Podkeeper.Settings.Address
import Podkeeper.Text.Blank
import Podkeeper.Yaml.Decode

namespace Podkeeper

open Wire Wire.Source

structure Settings where
  /-- The directory below which volumes are written. -/
  dataRoot : String
  /-- Where requests are listened for. -/
  bindAddress : String
  /-- Where the engine is; its usual place if not given. -/
  dockerHost : Option String
  /-- All containers of a pod are started, and not the first one only. -/
  allContainers : Bool
  verbose : Bool
  errorsOnly : Bool
deriving DecidableEq, Repr

namespace Settings

/-- The settings that hold where nothing else is said. -/
def default : Settings := ⟨".", "0.0.0.0:4000", none, false, false, false⟩

instance : Inhabited Settings := ⟨default⟩

/-! ### Files -/

variable {N : Type} {m : Type → Type} [Monad m] [Source N m]

/-- Settings; other names than theirs are refused. -/
def read : N → m Settings :=
  record .strict "ProviderConfig" <|
    mk <$> .optional "data_root" default.dataRoot (textCalled "path string")
      <*> .optional "bind_address" default.bindAddress text
      <*> .optional "docker_host" default.dockerHost (option text)
      <*> .optional "provision_all_containers" default.allContainers flag
      <*> .optional "verbose_logging" default.verbose flag
      <*> .optional "errors_only_logging" default.errorsOnly flag

/-- The settings under the names that they have in a file. -/
def encode (s : Settings) : Json.Value := .object [
  ("data_root", .text s.dataRoot),
  ("bind_address", .text s.bindAddress),
  ("docker_host", (s.dockerHost.map .text).getD .null),
  ("provision_all_containers", .flag s.allContainers),
  ("verbose_logging", .flag s.verbose),
  ("errors_only_logging", .flag s.errorsOnly)]

/-- The settings of a file's text. -/
def ofYaml (bytes : Bytes) : Except Failure Settings :=
  (Yaml.decode read bytes).mapError fun e =>
    match e.message? with
    | some reason => .config (.unreadable reason)
    | none => .config .malformed

/-! ### The environment -/

/-- The names of the entries of the environment that count. -/
def environmentNames : List String := [
  "MAGIKLINK_DATA_ROOT", "MAGIKLINK_BIND_ADDRESS", "MAGIKLINK_DOCKER_HOST",
  "MAGIKLINK_PROVISION_ALL", "MAGIKLINK_VERBOSE"]

/-- The words for yes and no. -/
def flag? (word : String) : Option Bool :=
  if ["1", "true", "yes", "on"].contains word then some true
  else if ["0", "false", "no", "off", ""].contains word then some false
  else none

/-- The flag that an entry of the environment stands for; blanks around it and the case of its
letters do not count. -/
def readFlag (setting value : String) : Except Failure Bool :=
  let word := (Blank.trim value).toLower
  match flag? word with
  | some b => .ok b
  | none => .error (.config (.notAFlag setting word))

/-- Takes the flag that the environment gives for a setting. -/
def overrideFlag (env : String → Option String) (setting : String)
    (set : Bool → Settings → Settings) (s : Settings) : Except Failure Settings :=
  match env setting with
  | none => .ok s
  | some value => (readFlag setting value).map (set · s)

/-- Takes the texts that the environment gives; an empty engine address means none. -/
def overrideTexts (env : String → Option String) (s : Settings) : Settings :=
  let host : Option String :=
    match env "MAGIKLINK_DOCKER_HOST" with
    | none => s.dockerHost
    | some h => if h = "" then none else some h
  { s with
    dataRoot := (env "MAGIKLINK_DATA_ROOT").getD s.dataRoot
    bindAddress := (env "MAGIKLINK_BIND_ADDRESS").getD s.bindAddress
    dockerHost := host }

/-- Takes what the environment gives, in order up to the first word that is no flag. -/
def override (env : String → Option String) (s : Settings) : Settings × Except Failure Unit :=
  let s := overrideTexts env s
  match overrideFlag env "MAGIKLINK_PROVISION_ALL" (fun b s => { s with allContainers := b }) s with
  | .error e => (s, .error e)
  | .ok s =>
    match overrideFlag env "MAGIKLINK_VERBOSE" (fun b s => { s with verbose := b }) s with
    | .error e => (s, .error e)
    | .ok s => (s, .ok ())

/-! ### Use -/

def socketAddress (s : Settings) : Except Failure Address :=
  match Address.parse? s.bindAddress with
  | some address => .ok address
  | none => .error (.config (.bindAddress s.bindAddress))

def check (s : Settings) : Except Failure Unit := do
  let _ ← s.socketAddress
  if s.verbose && s.errorsOnly then throw (.config .twoLevels)
  if s.dataRoot = "" then throw (.config .noDataRoot)

/-- The least level of messages that are shown. -/
def level (s : Settings) : String :=
  if s.verbose then "debug" else if s.errorsOnly then "error" else "info"

end Settings

end Podkeeper
