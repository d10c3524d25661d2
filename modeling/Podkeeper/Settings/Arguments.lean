/-
The command line.

An argument names a setting, whose value follows it or stands behind an equals sign, or is a
switch. Short switches may be written together. A value that follows its setting is taken when
the next setting or switch comes; that is why of two mistakes the later one may be reported.
-/

import Podkeeper.Settings.Basic

namespace Podkeeper

structure Arguments where
  config : Option String
  bind : Option String
  dataRoot : Option String
  dockerHost : Option String
  allContainers : Bool
  verbose : Bool
  errorsOnly : Bool
deriving DecidableEq, Repr

namespace Arguments

def none : Arguments := ⟨.none, .none, .none, .none, false, false, false⟩

/-- Why a command line is not taken. -/
inductive Misuse where
  /-- A value is missing, or empty where it must not be. -/
  | badValue
  | unknown
  /-- A switch has a value. -/
  | surplusValue
  /-- An argument is given twice, or two exclude each other. -/
  | conflict
  /-- The command line asks for help, or for the version. -/
  | help
  | version
deriving DecidableEq, Repr

def Misuse.message : Misuse → String
  | .badValue => "error: a value is missing or cannot be used"
  | .unknown => "error: unexpected argument"
  | .surplusValue => "error: unexpected value"
  | .conflict => "error: an argument cannot be used here"
  | .help =>
    "Usage: podkeeper [OPTIONS]\n\n" ++
    "  -c, --config <FILE>       settings file\n" ++
    "      --bind <ADDRESS>      where requests are listened for\n" ++
    "      --data-root <DIR>     where volumes are written\n" ++
    "      --docker-host <HOST>  where the engine is\n" ++
    "      --all-containers      start all containers of a pod\n" ++
    "  -v, --verbose             show debug messages\n" ++
    "      --errors-only         show errors only\n" ++
    "  -h, --help                show this text\n" ++
    "  -V, --version             show the version"
  | .version => "podkeeper 0.1.0"

/-- The exit code of a program that is misused; to ask for help or for the version is no misuse. -/
def Misuse.exitCode : Misuse → UInt32
  | .help | .version => 0
  | _ => 2

inductive Named where
  | config
  | bind
  | dataRoot
  | dockerHost
deriving DecidableEq, Repr

inductive Switch where
  | allContainers
  | verbose
  | errorsOnly
  | help
  | version
deriving DecidableEq, Repr

abbrev Argument := Named ⊕ Switch

/-- The argument with a long name. -/
def long? (name : String) : Option Argument :=
  match name with
  | "config" => some (.inl .config)
  | "bind" => some (.inl .bind)
  | "data-root" => some (.inl .dataRoot)
  | "docker-host" => some (.inl .dockerHost)
  | "all-containers" => some (.inr .allContainers)
  | "verbose" => some (.inr .verbose)
  | "errors-only" => some (.inr .errorsOnly)
  | "help" => some (.inr .help)
  | "version" => some (.inr .version)
  | _ => .none

/-- The argument with a short name. -/
def short? (c : Char) : Option Argument :=
  match c with
  | 'c' => some (.inl .config)
  | 'v' => some (.inr .verbose)
  | 'h' => some (.inr .help)
  | 'V' => some (.inr .version)
  | _ => .none

/-! ### Taking arguments -/

/-- Takes a value that was not given before. -/
def fresh (old : Option String) (value : String) : Except Misuse (Option String) :=
  if old.isSome then .error .conflict else .ok (some value)

/-- Takes the value of a path, which must not be empty. -/
def freshPath (old : Option String) (value : String) : Except Misuse (Option String) := do
  let new ← fresh old value
  if value = "" then .error .badValue else .ok new

def put (a : Arguments) : Named → String → Except Misuse Arguments
  | .config, value => do .ok { a with config := ← freshPath a.config value }
  | .bind, value => do .ok { a with bind := ← fresh a.bind value }
  | .dataRoot, value => do .ok { a with dataRoot := ← freshPath a.dataRoot value }
  | .dockerHost, value => do .ok { a with dockerHost := ← fresh a.dockerHost value }

def turn (a : Arguments) : Switch → Except Misuse Arguments
  | .allContainers =>
    if a.allContainers then .error .conflict else .ok { a with allContainers := true }
  | .verbose => if a.verbose then .error .conflict else .ok { a with verbose := true }
  | .errorsOnly => if a.errorsOnly then .error .conflict else .ok { a with errorsOnly := true }
  | .help => .error .help
  | .version => .error .version

/-- A command line under way: what it gave so far, the named argument whose value is due or was
not taken yet, and whether only operands follow. -/
structure Parsing where
  given : Arguments
  due : Option (Named × Option String)
  onlyOperands : Bool

namespace Parsing

/-- Takes the value that is due. -/
def settle (p : Parsing) : Except Misuse Parsing :=
  match p.due with
  | .none => .ok p
  | some (_, .none) => .error .badValue
  | some (name, some value) => do .ok { p with given := ← p.given.put name value, due := .none }

/-- A named argument, with the value that is attached to it. -/
def named (p : Parsing) (name : Named) (value : Option String) : Except Misuse Parsing := do
  let p ← p.settle
  match value with
  | some value => .ok { p with given := ← p.given.put name value }
  | .none => .ok { p with due := some (name, .none) }

def switched (p : Parsing) (s : Switch) : Except Misuse Parsing := do
  let p ← p.settle
  .ok { p with given := ← p.given.turn s }

/-- Short arguments written together; what follows a named one is its value. -/
def cluster (p : Parsing) : List Char → Except Misuse Parsing
  | [] => .ok p
  | c :: cs =>
    match short? c with
    | .none => .error .unknown
    | some (.inr s) => do cluster (← p.switched s) cs
    | some (.inl name) =>
      match cs with
      | [] => p.named name .none
      | '=' :: cs => p.named name (some (.ofList cs))
      | cs => p.named name (some (.ofList cs))

/-- A long argument, with what is behind its equals sign. -/
def long (p : Parsing) (name : String) (value : Option String) : Except Misuse Parsing :=
  match long? name, value with
  | .none, _ => .error .unknown
  | some (.inl name), value => p.named name value
  | some (.inr _), some _ => .error .surplusValue
  | some (.inr s), .none => p.switched s

/-- A word that is no argument: the value that is due, or an operand, and there are none. -/
def operand (p : Parsing) (word : String) : Except Misuse Parsing :=
  match p.onlyOperands, p.due with
  | false, some (name, .none) => .ok { p with due := some (name, some word) }
  | _, _ => .error .unknown

def take (p : Parsing) (word : String) : Except Misuse Parsing :=
  if p.onlyOperands then p.operand word
  else
    match word.toList with
    | ['-', '-'] => .ok { p with onlyOperands := true }
    | '-' :: '-' :: cs =>
      let name := cs.takeWhile (· ≠ '=')
      let value := match cs.drop name.length with
        | _ :: rest => some (String.ofList rest)
        | [] => .none
      p.long (.ofList name) value
    | '-' :: c :: cs => p.cluster (c :: cs)
    | _ => p.operand word

end Parsing

/-- The arguments of a command line. -/
def parse (words : List String) : Except Misuse Arguments := do
  let p ← words.foldlM Parsing.take ⟨none, .none, false⟩
  let p ← p.settle
  if p.given.verbose && p.given.errorsOnly then .error .conflict else .ok p.given

end Arguments

end Podkeeper
