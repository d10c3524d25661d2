/-
Reading JSON text.

The reader takes one symbol after the other. It remembers where it stands and, innermost first,
the lists and objects that are still open; nesting costs nothing and has no limit. When the text
stops being JSON the rest is not looked at: everything that is open is closed with the cause.
`read` gives the tree of any bytes.
-/

import Podkeeper.Json.Node
import Podkeeper.Text.Digit

namespace Podkeeper.Json

/-! ### Blanks -/

/-- The four blanks between tokens. -/
def isSpace (c : Char) : Bool := c = ' ' || c = '\n' || c = '\t' || c = '\r'

/-! ### Numbers under way -/

/-- What a number has so far come to. -/
inductive Phase where
  /-- A sign, and a digit must follow. -/
  | sign
  /-- A zero, and no digit may follow. -/
  | zero
  | whole
  /-- A point, and a digit must follow. -/
  | point
  | fraction
  /-- The letter of the exponent. -/
  | mark
  /-- The sign of the exponent, and a digit must follow. -/
  | markSign
  | power
deriving DecidableEq, Repr

/-- A number under way; digits stand last first. -/
structure Draft where
  phase : Phase
  negative : Bool
  whole : List Nat
  fraction : List Nat
  below : Bool
  power : List Nat
deriving Repr

/-- What a number does with the next character. -/
inductive Take where
  | more (d : Draft)
  | complete
  | bad

namespace Draft

/-- A number that begins with a digit or a sign. -/
def start (c : Char) : Option Draft :=
  if c = '-' then some ⟨.sign, true, [], [], false, []⟩
  else (Digit.value? c).map fun d => ⟨if d = 0 then .zero else .whole, false, [d], [], false, []⟩

/-- What may follow digits: a point, unless there was one, or an exponent. -/
def extend (d : Draft) (pointAllowed : Bool) (c : Char) : Take :=
  if pointAllowed ∧ c = '.' then .more { d with phase := .point }
  else if c = 'e' ∨ c = 'E' then .more { d with phase := .mark }
  else .complete

def take (d : Draft) (c : Char) : Take :=
  match d.phase, Digit.value? c with
  | .sign, some v => .more { d with phase := if v = 0 then .zero else .whole, whole := [v] }
  | .zero, some _ => .bad
  | .whole, some v => .more { d with whole := v :: d.whole }
  | .point, some v | .fraction, some v =>
    .more { d with phase := .fraction, fraction := v :: d.fraction }
  | .mark, some v | .markSign, some v | .power, some v =>
    .more { d with phase := .power, power := v :: d.power }
  | .mark, none =>
    if c = '+' then .more { d with phase := .markSign }
    else if c = '-' then .more { d with phase := .markSign, below := true }
    else .bad
  | .sign, none | .point, none | .markSign, none => .bad
  | .zero, none | .whole, none => d.extend true c
  | .fraction, none => d.extend false c
  | .power, none => .complete

/-- The number is complete if it ends here. -/
def canEnd (d : Draft) : Bool :=
  match d.phase with
  | .zero | .whole | .fraction | .power => true
  | .sign | .point | .mark | .markSign => false

/-- The numeral of a complete number. -/
def numeral (d : Draft) : Numeral :=
  ⟨d.negative, d.whole.reverse, d.fraction.reverse,
    if d.phase = .power then some ⟨d.below, d.power.reverse⟩ else none⟩

end Draft

/-! ### Where the reader stands -/

/-- How far an escape has come. -/
inductive Escape where
  | none
  | slash
  /-- So many hexadecimal digits were read, with this value. -/
  | digits (count value : Nat)
  /-- Among four bytes one is no digit; so many of the four are still to come. -/
  | wrong (missing : Nat)
deriving DecidableEq, Repr

/-- Where the reader stands. -/
inductive Place where
  /-- A value begins here. -/
  | value
  | listStart
  | afterItem
  | afterListComma
  | objectStart
  | afterMember
  | afterObjectComma
  /-- Within a key or a text; its pieces stand last first. -/
  | text (isKey : Bool) (pieces : List Piece) (escape : Escape)
  | afterKey (key : Spelling)
  /-- Within a word, of which these letters must follow. -/
  | word (rest : List Char) (node : Node)
  | number (d : Draft)
  /-- The tree is complete. -/
  | done (root : Node)
  /-- More than blanks follows the tree. -/
  | surplus (root : Node)
  /-- The text stopped being JSON. -/
  | stopped (root : Node)

/-- A list or an object that is open, what it holds so far last first. -/
inductive Frame where
  | list (items : List Node)
  | object (members : List (Spelling × Node))
  /-- An object whose next value is under way. -/
  | member (members : List (Spelling × Node)) (key : Spelling)
  /-- An object that began with something else than a text for a key. -/
  | keyless

/-- The reader: where it stands, and what is open around it. -/
structure Reader where
  place : Place
  frames : List Frame

namespace Reader

/-- The innermost object waits for the value of a key. -/
def openMember (key : Spelling) : List Frame → List Frame
  | .object members :: frames => .member members key :: frames
  | frames => frames

/-! ### Stopping -/

/-- Puts a part that was not completed into what is open around it. -/
def enclose (cause : Cause) (part : Node) : List Frame → Node
  | [] => part
  | .list items :: frames => enclose cause (.list (part :: items).reverse (some cause)) frames
  | .member members key :: frames =>
    enclose cause (.object ((key, part) :: members).reverse (some cause)) frames
  | .object members :: frames => enclose cause (.object members.reverse (some cause)) frames
  | .keyless :: frames => enclose .key (.keyless part) frames

/-- Stops at a value that is broken. -/
def stopValue (frames : List Frame) (cause : Cause) : Node :=
  enclose cause (.broken cause) frames

/-- Stops between the parts of the innermost list or object. -/
def stopBetween (frames : List Frame) (cause : Cause) : Node :=
  match frames with
  | [] => .broken cause
  | .list items :: frames => enclose cause (.list items.reverse (some cause)) frames
  | .object members :: frames => enclose cause (.object members.reverse (some cause)) frames
  | frames => stopValue frames cause

/-- Stops within a key or a text. -/
def stopText (frames : List Frame) (isKey : Bool) (pieces : List Piece) (ending : TextEnd) :
    Node :=
  let spelling : Spelling := ⟨pieces.reverse, ending⟩
  let cause := Cause.text (ending.complaint?.getD .endInText)
  if isKey then enclose cause (.broken cause) (openMember spelling frames)
  else enclose cause (.text spelling) frames

/-! ### Going on -/

def complete (node : Node) : List Frame → Reader
  | [] => ⟨.done node, []⟩
  | .list items :: frames => ⟨.afterItem, .list (node :: items) :: frames⟩
  | .member members key :: frames => ⟨.afterMember, .object ((key, node) :: members) :: frames⟩
  | .object members :: frames => ⟨.afterMember, .object members :: frames⟩
  | .keyless :: frames => ⟨.stopped (enclose .key (.keyless node) frames), []⟩

/-- Closes the innermost list or object. -/
def close : List Frame → Reader
  | .list items :: frames => complete (.list items.reverse none) frames
  | .object members :: frames => complete (.object members.reverse none) frames
  | frames => ⟨.stopped (stopBetween frames .value), []⟩

def begin (frames : List Frame) (c : Char) : Reader :=
  if c = '"' then ⟨.text false [] .none, frames⟩
  else if c = '[' then ⟨.listStart, .list [] :: frames⟩
  else if c = '\x7b' then ⟨.objectStart, .object [] :: frames⟩
  else if c = 'n' then ⟨.word ['u', 'l', 'l'] .null, frames⟩
  else if c = 't' then ⟨.word ['r', 'u', 'e'] (.flag true), frames⟩
  else if c = 'f' then ⟨.word ['a', 'l', 's', 'e'] (.flag false), frames⟩
  else
    match Draft.start c with
    | some d => ⟨.number d, frames⟩
    | none => ⟨.stopped (stopValue frames .value), []⟩

/-- Takes a character that is no blank, outside of texts, words and numbers. -/
def between (place : Place) (frames : List Frame) (c : Char) : Reader :=
  match place with
  | .value => begin frames c
  | .listStart => if c = ']' then close frames else begin frames c
  | .afterListComma =>
    if c = ']' then ⟨.stopped (stopBetween frames .listTrailing), []⟩ else begin frames c
  | .afterItem =>
    if c = ',' then ⟨.afterListComma, frames⟩
    else if c = ']' then close frames
    else ⟨.stopped (stopBetween frames .listComma), []⟩
  | .objectStart =>
    if c = '\x7d' then close frames
    else if c = '"' then ⟨.text true [] .none, frames⟩
    else begin (.keyless :: frames.tail) c
  | .afterObjectComma =>
    if c = '"' then ⟨.text true [] .none, frames⟩
    else if c = '\x7d' then ⟨.stopped (stopBetween frames .objectTrailing), []⟩
    else ⟨.stopped (stopBetween frames .key), []⟩
  | .afterMember =>
    if c = ',' then ⟨.afterObjectComma, frames⟩
    else if c = '\x7d' then close frames
    else ⟨.stopped (stopBetween frames .objectComma), []⟩
  | .afterKey key =>
    let frames := openMember key frames
    if c = ':' then ⟨.value, frames⟩ else ⟨.stopped (stopValue frames .colon), []⟩
  | .done root | .surplus root => ⟨.surplus root, []⟩
  | place => ⟨place, frames⟩

/-- The closing quote of a key or a text. -/
def endText (frames : List Frame) (isKey : Bool) (pieces : List Piece) : Reader :=
  let spelling : Spelling := ⟨pieces.reverse, .quote⟩
  if isKey then ⟨.afterKey spelling, frames⟩ else complete (.text spelling) frames

/-- The character that an escape letter stands for. -/
def letter? (c : Char) : Option Char :=
  if c = '"' ∨ c = '\\' ∨ c = '/' then some c
  else if c = 'b' then some '\x08'
  else if c = 'f' then some '\x0c'
  else if c = 'n' then some '\n'
  else if c = 'r' then some '\r'
  else if c = 't' then some '\t'
  else none

/-- Takes so many bytes of the four that hold a wrong digit. -/
def skipWrong (frames : List Frame) (isKey : Bool) (pieces : List Piece) (missing width : Nat) :
    Reader :=
  if missing ≤ width then ⟨.stopped (stopText frames isKey pieces .badDigit), []⟩
  else ⟨.text isKey pieces (.wrong (missing - width)), frames⟩

/-- Takes a character within a key or a text. -/
def within (frames : List Frame) (isKey : Bool) (pieces : List Piece) (escape : Escape)
    (c : Char) : Reader :=
  match escape with
  | .none =>
    if c = '"' then endText frames isKey pieces
    else if c = '\\' then ⟨.text isKey pieces .slash, frames⟩
    else if c.toNat < 0x20 then ⟨.stopped (stopText frames isKey pieces .control), []⟩
    else ⟨.text isKey (.plain c :: pieces) .none, frames⟩
  | .slash =>
    if c = 'u' then ⟨.text isKey pieces (.digits 0 0), frames⟩
    else
      match letter? c with
      | some e => ⟨.text isKey (.escaped e :: pieces) .none, frames⟩
      | none => ⟨.stopped (stopText frames isKey pieces .badEscape), []⟩
  | .digits count value =>
    match Digit.hex? c with
    | some v =>
      if count = 3 then ⟨.text isKey (.unit (value * 16 + v) :: pieces) .none, frames⟩
      else ⟨.text isKey pieces (.digits (count + 1) (value * 16 + v)), frames⟩
    | none => skipWrong frames isKey pieces (4 - count) (Utf8.width c)
  | .wrong missing => skipWrong frames isKey pieces missing (Utf8.width c)

/-- Takes a character where one stands between tokens. -/
def stepBetween (r : Reader) (c : Char) : Reader :=
  if isSpace c then r else between r.place r.frames c

def stepChar (r : Reader) (c : Char) : Reader :=
  match r.place with
  | .text isKey pieces escape => within r.frames isKey pieces escape c
  | .word [] node => stepBetween (complete node r.frames) c
  | .word (w :: rest) node =>
    if c = w then
      if rest.isEmpty then complete node r.frames else ⟨.word rest node, r.frames⟩
    else ⟨.stopped (stopValue r.frames .word), []⟩
  | .number d =>
    match d.take c with
    | .more d => ⟨.number d, r.frames⟩
    | .complete => stepBetween (complete (.number d.numeral) r.frames) c
    | .bad => ⟨.stopped (stopValue r.frames .number), []⟩
  | .stopped _ => r
  | _ => stepBetween r c

/-- Takes bytes that are no character: a stray piece of a text, and nothing that could stand
elsewhere. -/
def stepStray (r : Reader) (bytes : Bytes) : Reader :=
  match r.place with
  | .text isKey pieces .none => ⟨.text isKey (.stray :: pieces) .none, r.frames⟩
  | .text isKey pieces .slash => ⟨.stopped (stopText r.frames isKey pieces .badEscape), []⟩
  | .text isKey pieces (.digits count _) =>
    skipWrong r.frames isKey pieces (4 - count) bytes.length
  | .text isKey pieces (.wrong missing) => skipWrong r.frames isKey pieces missing bytes.length
  | _ => r.stepChar '\uFFFD'

def step (r : Reader) : Symbol → Reader
  | .char c => r.stepChar c
  | .stray bytes => r.stepStray bytes

/-- What the text has come to when the input ends outside of a number. -/
def finishBetween (r : Reader) : Document :=
  match r.place with
  | .done root | .stopped root => ⟨root, false⟩
  | .surplus root => ⟨root, true⟩
  | .value => ⟨stopValue r.frames .valueEnd, false⟩
  | .listStart | .afterItem => ⟨stopBetween r.frames .listEnd, false⟩
  | .afterListComma => ⟨stopBetween r.frames .listCommaEnd, false⟩
  | .objectStart | .afterMember => ⟨stopBetween r.frames .objectEnd, false⟩
  | .afterObjectComma => ⟨stopBetween r.frames .objectCommaEnd, false⟩
  | .text isKey pieces _ => ⟨stopText r.frames isKey pieces .inputEnd, false⟩
  | .afterKey key => ⟨stopValue (openMember key r.frames) .objectEnd, false⟩
  | .word _ _ => ⟨stopValue r.frames .wordEnd, false⟩
  | .number _ => ⟨stopValue r.frames .numberEnd, false⟩

/-- What the text has come to when the input ends here. The end completes a number. -/
def finish (r : Reader) : Document :=
  match r.place with
  | .number d =>
    if d.canEnd then (complete (.number d.numeral) r.frames).finishBetween else r.finishBetween
  | _ => r.finishBetween

/-- The reader at the beginning of a text. -/
def start : Reader := ⟨.value, []⟩

end Reader

def read (bytes : Bytes) : Document :=
  ((Utf8.symbols bytes).foldl Reader.step .start).finish

end Podkeeper.Json
