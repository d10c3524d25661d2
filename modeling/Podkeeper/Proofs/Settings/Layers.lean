import Podkeeper.Proofs.Outcomes
import Podkeeper.Proofs.Text.Trimming
import Podkeeper.Proofs.Yaml.Naturality
import Podkeeper.Settings.Startup

/-!
Layers of settings.

A file says something about some settings and nothing about the others; `Layer` keeps the two
apart, which `Settings` does not, since there the defaults stand for what is missing. Loading a file
is reading its layer and putting the defaults in (`load_eq_ok_iff`), and what is in force is for
each setting the word of the first of four that has one: the command line, the environment, the file
and the defaults (`merged`). `in_force_exactly` says so for every start of the program, and when a
start fails.
-/

namespace Podkeeper

open Wire Yaml Yaml.Cursor

namespace Settings

/-! ### The layer of a file -/

/-- What a file says about each setting, if it says anything. -/
structure Layer where
  dataRoot : Option String
  bindAddress : Option String
  /-- A file may also say that the engine is at its usual place, which is the default. -/
  dockerHost : Option String
  allContainers : Option Bool
  verbose : Option Bool
  errorsOnly : Option Bool
deriving DecidableEq, Repr

namespace Layer

/-- Nothing is said. -/
def silent : Layer := ⟨none, none, none, none, none, none⟩

def fields : Record Cursor Yaml.Reading Layer :=
  mk <$> said "data_root" (Source.textCalled "path string")
    <*> said "bind_address" Source.text
    <*> .optional "docker_host" none (Source.option Source.text)
    <*> said "provision_all_containers" Source.flag
    <*> said "verbose_logging" Source.flag
    <*> said "errors_only_logging" Source.flag

def read (c : Cursor) : Yaml.Reading Layer := Source.record .strict "ProviderConfig" fields c

/-- The settings that a layer gives on top of the defaults. -/
def settings (file : Layer) : Settings where
  dataRoot := file.dataRoot.getD default.dataRoot
  bindAddress := file.bindAddress.getD default.bindAddress
  dockerHost := file.dockerHost
  allContainers := file.allContainers.getD default.allContainers
  verbose := file.verbose.getD default.verbose
  errorsOnly := file.errorsOnly.getD default.errorsOnly

end Layer

/-- Settings are read as their layer is. -/
theorem read_eq (c : Cursor) : Settings.read c = Layer.settings <$> Layer.read c := by
  show record .strict "ProviderConfig" _ c = _ <$> record .strict "ProviderConfig" Layer.fields c
  apply record_of_isMade
  constructor
  · rfl
  intro cell
  simp only [Layer.fields, surveyed_map, surveyed_seq, surveyed_optional cell _ default.dataRoot,
    surveyed_optional cell _ default.bindAddress, surveyed_optional cell _ default.allContainers,
    surveyed_optional cell _ default.verbose, surveyed_optional cell _ default.errorsOnly,
    functor_norm]
  rfl

/-- The bytes of a file are a text that says what a layer says. -/
structure IsText (bytes : Bytes) (file : Layer) : Prop where
  utf8 : (Utf8.decode? bytes).isSome
  yaml : Yaml.decode Layer.read bytes = .ok file

theorem ofYaml_eq_ok_iff {bytes : Bytes} {s : Settings} :
    ofYaml bytes = .ok s ↔ ∃ file, Yaml.decode Layer.read bytes = .ok file ∧ s = file.settings := by
  have layered : Yaml.decode Settings.read bytes =
      Layer.settings <$> Yaml.decode Layer.read bytes := by
    rw [← decode_map, ← funext read_eq]
  rw [ofYaml, layered]
  cases Yaml.decode Layer.read bytes with
  | error e => simp [Except.mapError]
  | ok file => simp [Except.mapError, eq_comm]

/-- Loading a file is reading its layer and putting the defaults in. -/
theorem load_eq_ok_iff {path : String} {contents : Except String Bytes} {s : Settings} :
    load path contents = .ok s ↔
      ∃ bytes file, contents = .ok bytes ∧ IsText bytes file ∧ s = file.settings := by
  cases contents with
  | error reason => simp [load]
  | ok bytes =>
    by_cases utf8 : (Utf8.decode? bytes).isSome
    · rw [load, if_pos utf8, ofYaml_eq_ok_iff]
      constructor
      · rintro ⟨file, yaml, rfl⟩
        exact ⟨bytes, file, rfl, ⟨utf8, yaml⟩, rfl⟩
      · rintro ⟨_, file, ⟨⟩, text, rfl⟩
        exact ⟨file, text.yaml, rfl⟩
    · rw [load, if_neg utf8]
      constructor
      · nofun
      · rintro ⟨_, file, ⟨⟩, text, rfl⟩
        exact absurd text.utf8 utf8

/-- What the file that is named on the command line says; nothing if there is none. -/
inductive FileGives (files : String → Except String Bytes) : Option String → Layer → Prop where
  | unnamed : FileGives files none .silent
  | named {path : String} {bytes : Bytes} {file : Layer} (contents : files path = .ok bytes)
      (text : IsText bytes file) : FileGives files (some path) file

/-- The file that is named cannot be loaded. -/
def FileFails (files : String → Except String Bytes) (config : Option String) : Prop :=
  ∃ path, config = some path ∧ ∃ e, load path (files path) = .error e

/-! ### Words of the environment -/

/-- The words for a flag. -/
def flagWords : Bool → List String
  | true => ["1", "true", "yes", "on"]
  | false => ["0", "false", "no", "off", ""]

theorem flag?_eq_some_iff {word : String} {b : Bool} :
    flag? word = some b ↔ word ∈ flagWords b := by
  have unambiguous : ∀ word ∈ flagWords true, word ∉ flagWords false := by decide
  unfold flag?
  split
  next listed =>
    have yes : word ∈ flagWords true := List.contains_iff_mem.1 listed
    cases b <;> simp [yes, unambiguous word yes]
  next unlisted =>
    have notYes : word ∉ flagWords true := fun yes => unlisted (List.contains_iff_mem.2 yes)
    split
    next listed =>
      have no : word ∈ flagWords false := List.contains_iff_mem.1 listed
      cases b <;> simp [no, notYes]
    next unlisted =>
      have notNo : word ∉ flagWords false := fun no => unlisted (List.contains_iff_mem.2 no)
      cases b <;> simp [notNo, notYes]

/-- A text is a word for a flag in any case, with blanks around it or without. -/
def IsWordFor (b : Bool) (value : String) : Prop :=
  ∃ word, Blank.IsTrimmed value.toList word ∧ (String.ofList word).toLower ∈ flagWords b

theorem readFlag_eq_ok_iff {setting value : String} {b : Bool} :
    readFlag setting value = .ok b ↔ IsWordFor b value := by
  have same : IsWordFor b value ↔ (Blank.trim value).toLower ∈ flagWords b := by
    constructor
    · rintro ⟨word, trimmed, listed⟩
      rw [Blank.trim, Blank.trimChars_eq_iff.2 trimmed]
      exact listed
    · intro listed
      exact ⟨_, Blank.isTrimmed_trimChars _, listed⟩
  rw [same, ← flag?_eq_some_iff, readFlag]
  cases flag? (Blank.trim value).toLower <;> simp

/-- The flag that the environment has for a setting, if it has one. -/
inductive FlagGives (env : String → Option String) (setting : String) : Option Bool → Prop where
  | unset (absent : env setting = none) : FlagGives env setting none
  | word {value : String} {b : Bool} (present : env setting = some value)
      (means : IsWordFor b value) : FlagGives env setting (some b)

/-- What the environment has for a setting is no word for a flag. -/
def FlagFails (env : String → Option String) (setting : String) : Prop :=
  ∃ value, env setting = some value ∧ ∀ b, ¬ IsWordFor b value

variable {env : String → Option String} {setting : String}

theorem flag_gives_or_fails (env : String → Option String) (setting : String) :
    (∃ flag, FlagGives env setting flag) ∨ FlagFails env setting := by
  cases present : env setting with
  | none => exact .inl ⟨none, .unset present⟩
  | some value =>
    by_cases word : ∃ b, IsWordFor b value
    · obtain ⟨b, means⟩ := word
      exact .inl ⟨some b, .word present means⟩
    · exact .inr ⟨value, present, fun b means => word ⟨b, means⟩⟩

theorem overrideFlag_of_gives {flag : Option Bool} (given : FlagGives env setting flag)
    (set : Bool → Settings → Settings) (s : Settings) :
    overrideFlag env setting set s = .ok (flag.elim s (set · s)) := by
  cases given with
  | unset absent => simp only [overrideFlag, absent, Option.elim]
  | word present means =>
    simp only [overrideFlag, present, readFlag_eq_ok_iff.2 means, Option.elim]
    rfl

theorem overrideFlag_of_fails (fails : FlagFails env setting)
    (set : Bool → Settings → Settings) (s : Settings) :
    ∃ e, overrideFlag env setting set s = .error e := by
  obtain ⟨value, present, noWord⟩ := fails
  cases outcome : readFlag setting value with
  | ok b => exact absurd (readFlag_eq_ok_iff.1 outcome) (noWord b)
  | error e =>
    refine ⟨e, ?_⟩
    simp only [overrideFlag, present, outcome]
    rfl

/-- The environment with flags that are words. -/
theorem override_of_gives {all verbose : Option Bool}
    (allGiven : FlagGives env "MAGIKLINK_PROVISION_ALL" all)
    (verboseGiven : FlagGives env "MAGIKLINK_VERBOSE" verbose) (s : Settings) :
    override env s = (
      { overrideTexts env s with
        allContainers := all.getD s.allContainers
        verbose := verbose.getD s.verbose }, .ok ()) := by
  simp only [override, overrideFlag_of_gives allGiven, overrideFlag_of_gives verboseGiven]
  cases all <;> cases verbose <;> rfl

theorem override_of_fails (fails : FlagFails env "MAGIKLINK_PROVISION_ALL" ∨
    FlagFails env "MAGIKLINK_VERBOSE") (s : Settings) : ∃ e, (override env s).2 = .error e := by
  have atFirst (first : FlagFails env "MAGIKLINK_PROVISION_ALL") :
      ∃ e, (override env s).2 = .error e := by
    obtain ⟨e, failed⟩ := overrideFlag_of_fails first
      (fun b s => { s with allContainers := b }) (overrideTexts env s)
    exact ⟨e, by simp only [override, failed]⟩
  rcases fails with first | second
  · exact atFirst first
  rcases flag_gives_or_fails env "MAGIKLINK_PROVISION_ALL" with ⟨all, given⟩ | first
  · obtain ⟨e, failed⟩ := overrideFlag_of_fails second (fun b s => { s with verbose := b })
      (all.elim (overrideTexts env s) fun b => { overrideTexts env s with allContainers := b })
    exact ⟨e, by simp only [override, overrideFlag_of_gives given, failed]⟩
  · exact atFirst first

/-! ### Settings that can be used -/

structure IsUsable (s : Settings) : Prop where
  address : (Address.parse? s.bindAddress).isSome
  root : s.dataRoot ≠ ""
  level : ¬ (s.verbose = true ∧ s.errorsOnly = true)

theorem isUsable_iff_check {s : Settings} : s.IsUsable ↔ s.check = .ok () := by
  have address : (Address.parse? s.bindAddress).isSome ↔
      ∃ address, s.socketAddress = .ok address := by
    rw [socketAddress]
    cases Address.parse? s.bindAddress <;> simp
  have parts : s.IsUsable ↔ (∃ address, s.socketAddress = .ok address) ∧
      ¬ (s.verbose = true ∧ s.errorsOnly = true) ∧ s.dataRoot ≠ "" := by
    rw [← address]
    exact ⟨fun usable => ⟨usable.address, usable.level, usable.root⟩,
      fun ⟨address, level, root⟩ => ⟨address, root, level⟩⟩
  rw [parts, check, bind_eq_ok, exists_and_right]
  apply and_congr_right
  intro _
  rw [← Bool.and_eq_true]
  by_cases level : (s.verbose && s.errorsOnly) = true
  · simp [level, throw, throwThe, MonadExceptOf.throw, bind, Except.bind]
  · by_cases root : s.dataRoot = ""
    · simp [level, root, throw, throwThe, MonadExceptOf.throw]
    · simp [level, root, pure, Except.pure]

/-! ### All layers -/

/-- Where the engine is: an empty word of the environment counts, since it takes back what the file
says. -/
def mergedHost (argument environment file : Option String) : Option String :=
  match argument, environment with
  | some host, _ => some host
  | none, some host => if host = "" then none else some host
  | none, none => file

/-- For each setting the first word for it: that of the command line, of the environment, whose
flags are given here, of the file or of the defaults. -/
def merged (a : Arguments) (env : String → Option String) (all verbose : Option Bool)
    (file : Layer) : Settings where
  dataRoot := (a.dataRoot.or ((env "MAGIKLINK_DATA_ROOT").or file.dataRoot)).getD default.dataRoot
  bindAddress :=
    (a.bind.or ((env "MAGIKLINK_BIND_ADDRESS").or file.bindAddress)).getD default.bindAddress
  dockerHost := mergedHost a.dockerHost (env "MAGIKLINK_DOCKER_HOST") file.dockerHost
  allContainers := a.allContainers || (all.or file.allContainers).getD default.allContainers
  verbose :=
    if a.verbose then true
    else if a.errorsOnly then false
    else (verbose.or file.verbose).getD default.verbose
  errorsOnly :=
    if a.verbose then false
    else if a.errorsOnly then true
    else file.errorsOnly.getD default.errorsOnly

/-- A command line that is taken does not ask for more messages and for fewer. -/
theorem one_level_of_parse {words : List String} {a : Arguments}
    (accepted : Arguments.parse words = .ok a) : ¬ (a.verbose = true ∧ a.errorsOnly = true) := by
  obtain ⟨p, -, rest⟩ := bind_eq_ok.1 accepted
  obtain ⟨q, -, given⟩ := bind_eq_ok.1 rest
  intro both
  rw [← Bool.and_eq_true] at both
  split at given
  · simp at given
  next single =>
    obtain rfl := Except.ok.inj given
    exact single both

variable {files : String → Except String Bytes} {a : Arguments} {file : Layer}
  {all verbose : Option Bool}

/-- The settings of the file, or the defaults. -/
def opening (files : String → Except String Bytes) (config : Option String) :
    Except Startup.Failed Settings :=
  match config with
  | none => pure default
  | some path => (load path (files path)).mapError (⟨.load path, ·⟩)

/-- The environment and the command line, and the check of what they make. -/
def finishing (env : String → Option String) (a : Arguments) (s : Settings) :
    Except Startup.Failed Settings := do
  let (s, applied) := s.override env
  applied.mapError (⟨.override, ·⟩)
  let s := s.withArguments a
  s.check.mapError (⟨.check, ·⟩)
  return s

theorem layered_eq : layered files env a = opening files a.config >>= finishing env a := by
  unfold layered opening
  cases a.config <;> rfl

theorem opening_of_gives {config : Option String} (given : FileGives files config file) :
    opening files config = .ok file.settings := by
  cases given with
  | unnamed => rfl
  | named contents text =>
    rw [opening, load_eq_ok_iff.2 ⟨_, file, contents, text, rfl⟩]
    rfl

theorem opening_of_fails {config : Option String} (fails : FileFails files config) :
    ∃ f, opening files config = .error f := by
  obtain ⟨path, rfl, e, failed⟩ := fails
  exact ⟨⟨.load path, e⟩, by rw [opening, failed]; rfl⟩

theorem file_gives_or_fails (files : String → Except String Bytes) (config : Option String) :
    (∃ file, FileGives files config file) ∨ FileFails files config := by
  cases config with
  | none => exact .inl ⟨.silent, .unnamed⟩
  | some path =>
    cases loaded : load path (files path) with
    | ok s =>
      obtain ⟨bytes, file, contents, text, -⟩ := load_eq_ok_iff.1 loaded
      exact .inl ⟨file, .named contents text⟩
    | error e => exact .inr ⟨path, rfl, e, loaded⟩

/-- The layers above the file leave of each setting the first word for it. -/
theorem withArguments_eq_merged (oneLevel : ¬ (a.verbose = true ∧ a.errorsOnly = true)) :
    withArguments a { overrideTexts env file.settings with
        allContainers := all.getD file.settings.allContainers
        verbose := verbose.getD file.settings.verbose } =
      merged a env all verbose file := by
  have orElse {α : Type} (upper lower : Option α) (d : α) :
      upper.getD (lower.getD d) = (upper.or lower).getD d := by
    cases upper <;> rfl
  have host : a.dockerHost.or (overrideTexts env file.settings).dockerHost =
      mergedHost a.dockerHost (env "MAGIKLINK_DOCKER_HOST") file.dockerHost := by
    simp only [mergedHost, overrideTexts]
    cases a.dockerHost <;> cases env "MAGIKLINK_DOCKER_HOST" <;> rfl
  have texts : withArguments a { overrideTexts env file.settings with
        allContainers := all.getD file.settings.allContainers
        verbose := verbose.getD file.settings.verbose } = 
      let s : Settings := { merged a env all verbose file with
        verbose := (verbose.or file.verbose).getD default.verbose
        errorsOnly := file.errorsOnly.getD default.errorsOnly }
      if a.errorsOnly then { s with verbose := false, errorsOnly := true }
      else if a.verbose then { s with verbose := true, errorsOnly := false }
      else s := by
    simp only [withArguments, host, merged, ← orElse]
    rfl
  rw [texts]
  cases quiet : a.errorsOnly <;> cases loud : a.verbose
  · simp [merged, quiet, loud]
  · simp [merged, loud]
  · simp [merged, quiet, loud]
  · exact absurd ⟨loud, quiet⟩ oneLevel

theorem finishing_of_gives (oneLevel : ¬ (a.verbose = true ∧ a.errorsOnly = true))
    (allGiven : FlagGives env "MAGIKLINK_PROVISION_ALL" all)
    (verboseGiven : FlagGives env "MAGIKLINK_VERBOSE" verbose) :
    finishing env a file.settings = (do
      (merged a env all verbose file).check.mapError (⟨.check, ·⟩)
      return merged a env all verbose file) := by
  rw [← withArguments_eq_merged oneLevel, finishing, override_of_gives allGiven verboseGiven]
  rfl

/-- A start has all its layers: what the file gives, and the flags of the environment. -/
structure AreLayers (files : String → Except String Bytes) (env : String → Option String)
    (a : Arguments) (file : Layer) (all verbose : Option Bool) : Prop where
  file : FileGives files a.config file
  all : FlagGives env "MAGIKLINK_PROVISION_ALL" all
  verbose : FlagGives env "MAGIKLINK_VERBOSE" verbose

/-- A layer is missing: the file cannot be loaded, or a flag of the environment is no word for
one. -/
def LacksLayer (files : String → Except String Bytes) (env : String → Option String)
    (a : Arguments) : Prop :=
  FileFails files a.config ∨
    FlagFails env "MAGIKLINK_PROVISION_ALL" ∨ FlagFails env "MAGIKLINK_VERBOSE"

theorem has_or_lacks_layers (files : String → Except String Bytes) (env : String → Option String)
    (a : Arguments) :
    (∃ file all verbose, AreLayers files env a file all verbose) ∨ LacksLayer files env a := by
  rcases file_gives_or_fails files a.config with ⟨file, fileGiven⟩ | fails
  · rcases flag_gives_or_fails env "MAGIKLINK_PROVISION_ALL" with ⟨all, allGiven⟩ | fails
    · rcases flag_gives_or_fails env "MAGIKLINK_VERBOSE" with ⟨verbose, verboseGiven⟩ | fails
      · exact .inl ⟨file, all, verbose, fileGiven, allGiven, verboseGiven⟩
      · exact .inr (.inr (.inr fails))
    · exact .inr (.inr (.inl fails))
  · exact .inr (.inl fails)

/-- If all layers are there, only the check can still fail. -/
theorem layered_of_layers (oneLevel : ¬ (a.verbose = true ∧ a.errorsOnly = true))
    (layers : AreLayers files env a file all verbose) :
    ((merged a env all verbose file).IsUsable →
      layered files env a = .ok (merged a env all verbose file)) ∧
    (¬ (merged a env all verbose file).IsUsable → ∃ f, layered files env a = .error f) := by
  rw [layered_eq, opening_of_gives layers.file, ok_bind,
    finishing_of_gives oneLevel layers.all layers.verbose, isUsable_iff_check]
  constructor
  · intro checked
    rw [checked]
    rfl
  · intro refused
    cases outcome : (merged a env all verbose file).check with
    | ok u => exact absurd outcome refused
    | error e => exact ⟨_, rfl⟩

theorem layered_of_lacks (lacks : LacksLayer files env a) :
    ∃ f, layered files env a = .error f := by
  rw [layered_eq]
  cases opened : opening files a.config with
  | error f => exact ⟨f, rfl⟩
  | ok s =>
    rcases lacks with file | flag
    · obtain ⟨f, failed⟩ := opening_of_fails file
      rw [opened] at failed
      nomatch failed
    · obtain ⟨e, failed⟩ := override_of_fails flag s
      exact ⟨⟨.override, e⟩, by simp only [ok_bind, finishing, failed]; rfl⟩

/-- The settings in force are exactly those that the layers make together, if they can be used; and
there are none exactly if the file cannot be loaded, a flag of the environment is no word for one,
or what the layers make together cannot be used. -/
theorem in_force_exactly {words : List String} {a : Arguments}
    (accepted : Arguments.parse words = .ok a) (files : String → Except String Bytes)
    (env : String → Option String) :
    (∀ s, layered files env a = .ok s ↔ ∃ file all verbose,
      AreLayers files env a file all verbose ∧ s = merged a env all verbose file ∧ s.IsUsable) ∧
    ((∃ f, layered files env a = .error f) ↔
      LacksLayer files env a ∨ ∃ file all verbose,
        AreLayers files env a file all verbose ∧ ¬ (merged a env all verbose file).IsUsable) := by
  have oneLevel := one_level_of_parse accepted
  constructor
  · intro s
    constructor
    · intro outcome
      rcases has_or_lacks_layers files env a with ⟨file, all, verbose, layers⟩ | lacks
      · obtain ⟨succeeds, fails⟩ := layered_of_layers oneLevel layers
        by_cases usable : (merged a env all verbose file).IsUsable
        · obtain rfl := Except.ok.inj (outcome.symm.trans (succeeds usable))
          exact ⟨file, all, verbose, layers, rfl, usable⟩
        · obtain ⟨f, failed⟩ := fails usable
          nomatch outcome.symm.trans failed
      · obtain ⟨f, failed⟩ := layered_of_lacks lacks
        nomatch outcome.symm.trans failed
    · rintro ⟨file, all, verbose, layers, rfl, usable⟩
      exact (layered_of_layers oneLevel layers).1 usable
  · constructor
    · rintro ⟨f, failed⟩
      rcases has_or_lacks_layers files env a with ⟨file, all, verbose, layers⟩ | lacks
      · refine .inr ⟨file, all, verbose, layers, fun usable => ?_⟩
        nomatch failed.symm.trans ((layered_of_layers oneLevel layers).1 usable)
      · exact .inl lacks
    · rintro (lacks | ⟨file, all, verbose, layers, unusable⟩)
      · exact layered_of_lacks lacks
      · exact (layered_of_layers oneLevel layers).2 unusable

/-- A start where every layer has a word: the address is that of the command line, all containers
are wanted by the environment, which also takes the engine of the file back, and the directory is
that of the file. -/
theorem in_force_of_four_layers :
    Arguments.parse ["-v", "--config", "settings.yaml", "--bind=127.0.0.1:80"] =
      .ok ⟨some "settings.yaml", some "127.0.0.1:80", none, none, false, true, false⟩ ∧
    layered (fun _ => .ok (Utf8.ofString "data_root: /srv\ndocker_host: tcp://engine:1\n"))
        (fun setting =>
          List.lookup setting [("MAGIKLINK_DOCKER_HOST", ""), ("MAGIKLINK_PROVISION_ALL", " Yes ")])
        ⟨some "settings.yaml", some "127.0.0.1:80", none, none, false, true, false⟩ =
      .ok ⟨"/srv", "127.0.0.1:80", none, true, true, false⟩ := by
  have accepted : Arguments.parse ["-v", "--config", "settings.yaml", "--bind=127.0.0.1:80"] =
      .ok ⟨some "settings.yaml", some "127.0.0.1:80", none, none, false, true, false⟩ := by rfl
  have usable : IsUsable ⟨"/srv", "127.0.0.1:80", none, true, true, false⟩ :=
    ⟨by decide +kernel, by decide, by decide⟩
  have wanted : IsWordFor true " Yes " := ⟨_, Blank.isTrimmed_trimChars _, by decide +kernel⟩
  exact ⟨accepted, ((in_force_exactly accepted _ _).1 _).2
    ⟨⟨some "/srv", none, some "tcp://engine:1", none, none, none⟩, some true, none,
      ⟨.named rfl ⟨by decide +kernel, by decide +kernel⟩, .word rfl wanted, .unset rfl⟩, rfl,
      usable⟩⟩

end Settings

end Podkeeper
