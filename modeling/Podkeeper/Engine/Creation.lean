/-
Descriptions of containers to be made.

The engine takes a container's words one by one, its variables as `name=value` and its mounts as
`host:path` with an absolute host side. What was declared word by word is taken over as it is; a
line alone is split at its blanks, and an empty line leaves the choice to the image.
-/

import Podkeeper.Files.Path
import Podkeeper.Json.Build
import Podkeeper.Lifecycle.Program
import Podkeeper.Text.Blank

namespace Podkeeper.Engine

/-! ### Mounts -/

/-- What stands before the first colon, and what stands behind it. -/
def splitColon? : List Char → Option (List Char × List Char)
  | [] => none
  | ':' :: rest => some ([], rest)
  | c :: rest => (splitColon? rest).map fun (host, target) => (c :: host, target)

/-- Puts a relative host side under a root. Without a colon there is no host side. -/
def anchorMount (root spec : String) : String :=
  match splitColon? spec.toList with
  | some (host, target) =>
    let host := String.ofList host
    if Path.isAbsolute host then spec else Path.join root host ++ ":" ++ .ofList target
  | none => spec

/-! ### Creations -/

/-- What the engine is told about a container that it makes. -/
structure Creation where
  image : String
  /-- Replaces the command of the image. -/
  entrypoint : Option (List String)
  /-- Replaces the arguments of the image. -/
  arguments : Option (List String)
  env : List String
  labels : KeyMap String
  mounts : List String
deriving DecidableEq, Repr

namespace Creation

/-- The words that were declared, or those of a line. -/
def words (declared : List String) (line : String) : Option (List String) :=
  let words := if declared.isEmpty then Blank.words line else declared
  if words.isEmpty then none else some words

/-- The creation that a request asks for; mounts are relative to the data root. -/
def ofRequest (root : String) (r : RunRequest) : Creation where
  image := r.image
  entrypoint := words r.commandWords r.command
  arguments := words r.argWords r.args
  env := r.env.map fun (name, value) => name ++ "=" ++ value
  labels := .ofList r.labels
  mounts := r.mounts.map (anchorMount root)

open Json.Value in
/-- The creation as the engine reads it. -/
def encode (c : Creation) : Json.Value := record [
  member "Image" (.text c.image),
  given "Entrypoint" .texts c.entrypoint,
  given "Cmd" .texts c.arguments,
  member "Env" (.texts c.env),
  member "Labels" (ofMap .text c.labels),
  member "HostConfig" (record [
    member "AutoRemove" (.flag false),
    nonEmptyList "Binds" .text c.mounts])]

end Creation

end Podkeeper.Engine
