/-
Building JSON objects.

The fields of a record become members in the order of the fields; a field without a value leaves
no member.
-/

import Podkeeper.Json.Value

namespace Podkeeper.Json.Value

/-- A member that may be left out. -/
abbrev Member? := Option (String × Value)

/-- An object of the members that are there. -/
def record (members : List Member?) : Value := .object (members.filterMap id)

/-- A member that is always there. -/
def member (name : String) (v : Value) : Member? := some (name, v)

/-- A member that is there when the field has a value. -/
def given {α : Type} (name : String) (write : α → Value) (v : Option α) : Member? :=
  v.map fun a => (name, write a)

/-- A list member, left out when empty. -/
def nonEmptyList {α : Type} (name : String) (write : α → Value) (as : List α) : Member? :=
  if as.isEmpty then none else some (name, .list (as.map write))

def ofMap {α : Type} (write : α → Value) (m : KeyMap α) : Value :=
  .object (m.entries.map fun e => (e.1, write e.2))

/-- A map member, left out when empty. -/
def nonEmptyMap {α : Type} (name : String) (write : α → Value) (m : KeyMap α) : Member? :=
  if m.isEmpty then none else some (name, ofMap write m)

/-- A text member, left out when empty. -/
def nonEmptyText (name : String) (s : String) : Member? :=
  if s = "" then none else some (name, .text s)

end Podkeeper.Json.Value
