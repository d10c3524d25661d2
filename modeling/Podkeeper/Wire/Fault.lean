/-
Faults of well-formed text.

A text can be read without trouble and still not describe the value that is wanted: something
else stands there, a field is missing or given twice, a name is not one of those that are known.
`Fault` lists these causes, and `Fault.message` is their one wording.
-/

import Podkeeper.Text.Quoted

namespace Podkeeper.Wire

/-- What stands where something else is wanted. -/
inductive Found where
  /-- The word for no value. -/
  | null
  /-- No value, in a format without a word for it. -/
  | unit
  | flag (value : Bool)
  | whole (value : Int)
  /-- A whole number of more than 64 bits. -/
  | wide (value : Int)
  /-- A number with a fraction or an exponent, as it is written out. -/
  | fraction (written : String)
  | text (value : String)
  | sequence
  | mapping
  /-- A value that carries a tag. -/
  | tagged
deriving DecidableEq, Repr

/-- The wording of what was found. -/
def Found.message : Found → String
  | .null => "null"
  | .unit => "unit value"
  | .flag value => s!"boolean `{value}`"
  | .whole value => s!"integer `{value}`"
  | .wide value => s!"integer `{value}` as " ++ if value < 0 then "i128" else "u128"
  | .fraction written => s!"floating point `{written}`"
  | .text value => "string " ++ Quoted.quote value
  | .sequence => "sequence"
  | .mapping => "map"
  | .tagged => "enum"

/-- Why well-formed text does not describe the value that is wanted. -/
inductive Fault where
  /-- Something of another kind stands there. -/
  | mismatch (found : Found) (expected : String)
  /-- The kind is right and the value is not. -/
  | value (found : Found) (expected : String)
  /-- A sequence has too few or too many elements. -/
  | length (count : Nat) (expected : String)
  | missing (field : String)
  | duplicate (field : String)
  | unknownField (name : String) (known : List String)
  | unknownVariant (name : String) (known : List String)
  /-- No alternative of an untagged choice fits. -/
  | noAlternative (choice : String)
  /-- The parts are well formed and do not make a value together. -/
  | refused (reason : String)
deriving DecidableEq, Repr

/-- A name between grave accents. -/
def named (name : String) : String := s!"`{name}`"

/-- The wording of what would have been right: one name, two, or a list. -/
def oneOf : List String → String
  | [a] => named a
  | [a, b] => named a ++ " or " ++ named b
  | names => "one of " ++ ", ".intercalate (names.map named)

def Fault.message : Fault → String
  | .mismatch found expected => s!"invalid type: {found.message}, expected {expected}"
  | .value found expected => s!"invalid value: {found.message}, expected {expected}"
  | .length count expected => s!"invalid length {count}, expected {expected}"
  | .missing field => "missing field " ++ named field
  | .duplicate field => "duplicate field " ++ named field
  | .unknownField name known => s!"unknown field {named name}, expected {oneOf known}"
  | .unknownVariant name known => s!"unknown variant {named name}, expected {oneOf known}"
  | .noAlternative choice => s!"data did not match any variant of untagged enum {choice}"
  | .refused reason => reason

end Podkeeper.Wire
