/-
JSON text as a tree.

A tree keeps what a text says as it is written, and where it stops being JSON. Texts keep their
escapes and numbers their digits, because what is wrong with them counts only where they are
wanted: a value that nobody asks for may hold half a surrogate pair or a number beyond all
bounds. A list or an object that was not closed keeps the cause, and so does everything around
it. One cause can have two wordings, for a value that is wanted and for one that is skipped.
-/

import Podkeeper.Json.Value
import Podkeeper.Text.Utf8

namespace Podkeeper.Json

/-! ### Complaints -/

/-- What a reader says about a text that is not JSON, or that holds a value it cannot take. -/
inductive Complaint where
  | endInList | endInObject | endInText | endInValue
  | colonWanted | listCommaWanted | objectCommaWanted | wordWanted | valueWanted | keyWanted
  | badEscape | badNumber | numberRange | badCharacter | control | loneSurrogate | halfEscape
  | trailingComma | trailingText | tooDeep
deriving DecidableEq, Repr

def Complaint.message : Complaint → String
  | .endInList => "EOF while parsing a list"
  | .endInObject => "EOF while parsing an object"
  | .endInText => "EOF while parsing a string"
  | .endInValue => "EOF while parsing a value"
  | .colonWanted => "expected `:`"
  | .listCommaWanted => "expected `,` or `]`"
  | .objectCommaWanted => "expected `,` or `\x7d`"
  | .wordWanted => "expected ident"
  | .valueWanted => "expected value"
  | .keyWanted => "key must be a string"
  | .badEscape => "invalid escape"
  | .badNumber => "invalid number"
  | .numberRange => "number out of range"
  | .badCharacter => "invalid unicode code point"
  | .control => "control character (\\u0000-\\u001F) found while parsing a string"
  | .loneSurrogate => "lone leading surrogate in hex escape"
  | .halfEscape => "unexpected end of hex escape"
  | .trailingComma => "trailing comma"
  | .trailingText => "trailing characters"
  | .tooDeep => "recursion limit exceeded"

/-- The text was not wrong, but ended too early. -/
def Complaint.isEnd : Complaint → Bool
  | .endInList | .endInObject | .endInText | .endInValue => true
  | _ => false

/-! ### Texts -/

/-- A piece of a text as it is written. -/
inductive Piece where
  | plain (c : Char)
  /-- A character after a backslash. -/
  | escaped (c : Char)
  /-- Four hexadecimal digits after `\u`: a UTF-16 unit. -/
  | unit (value : Nat)
  /-- Bytes that are no character. -/
  | stray
deriving DecidableEq, Repr

/-- What ends a text. -/
inductive TextEnd where
  | quote
  /-- The input ends first. -/
  | inputEnd
  /-- A control character stands unescaped. -/
  | control
  /-- No escape begins with the character after a backslash. -/
  | badEscape
  /-- Something else than a hexadecimal digit stands among the four after `\u`. -/
  | badDigit
deriving DecidableEq, Repr

/-- A text as it is written. -/
structure Spelling where
  pieces : List Piece
  ending : TextEnd
deriving DecidableEq, Repr

/-- The complaint about a text that is not closed. -/
def TextEnd.complaint? : TextEnd → Option Complaint
  | .quote => none
  | .inputEnd => some .endInText
  | .control => some .control
  | .badEscape | .badDigit => some .badEscape

/-- The complaint about a leading surrogate that no trailing one follows: it depends on what
stands in its place. -/
def TextEnd.complaintAfterSurrogate : TextEnd → Complaint
  | .inputEnd => .endInText
  | .badDigit => .badEscape
  | .quote | .control | .badEscape => .halfEscape

/-- Reads pieces into characters (last first). A stray byte counts only when the closing quote
has been reached. -/
def Spelling.readFrom (acc : List Char) (sound : Bool) (ending : TextEnd) :
    List Piece → Except Complaint String
  | [] =>
    match ending.complaint? with
    | some complaint => .error complaint
    | none => if sound then .ok (.ofList acc.reverse) else .error .badCharacter
  | .plain c :: rest | .escaped c :: rest => readFrom (c :: acc) sound ending rest
  | .stray :: rest => readFrom acc false ending rest
  | .unit n :: rest =>
    if 0xDC00 ≤ n ∧ n ≤ 0xDFFF then .error .loneSurrogate
    else if n < 0xD800 ∨ 0xDBFF < n then readFrom (.ofNat n :: acc) sound ending rest
    else
      match rest with
      | [] => .error ending.complaintAfterSurrogate
      | .unit m :: rest =>
        if 0xDC00 ≤ m ∧ m ≤ 0xDFFF then
          readFrom (.ofNat ((n - 0xD800) * 0x400 + (m - 0xDC00) + 0x10000) :: acc) sound ending rest
        else .error .loneSurrogate
      | _ :: _ => .error .halfEscape

/-- The text that a spelling stands for. -/
def Spelling.text (s : Spelling) : Except Complaint String :=
  readFrom [] true s.ending s.pieces

/-! ### Numbers -/

structure Power where
  negative : Bool
  digits : List Nat
deriving DecidableEq, Repr

/-- A number as it is written: the digits before the point, those after it and the exponent. -/
structure Numeral where
  negative : Bool
  whole : List Nat
  fraction : List Nat
  power : Option Power
deriving DecidableEq, Repr

namespace Numeral

/-- The digits that 64 bits can hold, as a number, and how many digits are left over. -/
def takeDigits (n : Nat) : List Nat → Nat × Nat
  | [] => (n, 0)
  | d :: ds =>
    if n * 10 + d ≤ 18446744073709551615 then takeDigits (n * 10 + d) ds else (n, ds.length + 1)

/-- The greatest exponent that is read. -/
def maxPower : Nat := 2147483647

def natOf (digits : List Nat) : Nat := digits.foldl (fun n d => n * 10 + d) 0

/-- An exponent within its bounds. -/
def clampPower (e : Int) : Int := max (-2147483648) (min e maxPower)

/-- A double, or the complaint that there is none so great. -/
def double (negative : Bool) (significand : Nat) (power : Int) : Except Complaint Number :=
  match Double.ofDecimal negative significand power with
  | some x => .ok (.real x)
  | none => .error .numberRange

/-- The number that a numeral stands for. A numeral without fraction and exponent is whole if it
fits 64 bits, all others are doubles, and so is a negative zero. Of a fraction and of a whole
part only the digits count that 64 bits can hold. -/
def number (n : Numeral) : Except Complaint Number :=
  let (significand, left) := takeDigits 0 n.whole
  match n.fraction, n.power with
  | [], none =>
    if left ≠ 0 then double n.negative significand left
    else if n.negative then
      if significand = 0 ∨ 9223372036854775808 < significand then double true significand 0
      else .ok (.whole (-significand))
    else .ok (.whole significand)
  | fraction, power =>
    let (significand, unread) := takeDigits significand fraction
    let shift : Int := left - (fraction.length - unread : Nat)
    match power with
    | none => double n.negative significand shift
    | some p =>
      let e := natOf p.digits
      if maxPower < e then
        if significand ≠ 0 ∧ !p.negative then .error .numberRange
        else .ok (.real (.zero n.negative))
      else double n.negative significand (clampPower (if p.negative then shift - e else shift + e))

end Numeral

/-! ### Trees -/

/-- Why a text stops being JSON. -/
inductive Cause where
  /-- The input ends where a value must begin. -/
  | valueEnd
  /-- Something else stands where a value must begin. -/
  | value
  /-- The input ends within `null`, `true` or `false`. -/
  | wordEnd
  /-- Another letter stands within `null`, `true` or `false`. -/
  | word
  /-- The input ends within a number. -/
  | numberEnd
  /-- Something else than a digit stands within a number. -/
  | number
  /-- A text is not closed. -/
  | text (complaint : Complaint)
  /-- The input ends after `[` or after an item. -/
  | listEnd
  /-- The input ends after a comma in a list. -/
  | listCommaEnd
  /-- Something else than a comma or a bracket stands after an item. -/
  | listComma
  /-- A bracket stands after a comma. -/
  | listTrailing
  /-- The input ends within an object and not within a value. -/
  | objectEnd
  /-- The input ends after a comma in an object. -/
  | objectCommaEnd
  /-- Something else than a comma or a brace stands after a member. -/
  | objectComma
  /-- A brace stands after a comma. -/
  | objectTrailing
  /-- A key is not a text. -/
  | key
  /-- Something else than a colon stands after a key. -/
  | colon
deriving DecidableEq, Repr

/-- The wording where the value is wanted. -/
def Cause.wanted : Cause → Complaint
  | .valueEnd | .wordEnd | .numberEnd | .listCommaEnd | .objectCommaEnd => .endInValue
  | .value => .valueWanted
  | .word => .wordWanted
  | .number => .badNumber
  | .text complaint => complaint
  | .listEnd => .endInList
  | .listComma => .listCommaWanted
  | .listTrailing | .objectTrailing => .trailingComma
  | .objectEnd => .endInObject
  | .objectComma => .objectCommaWanted
  | .key => .keyWanted
  | .colon => .colonWanted

/-- The wording where the value is skipped. -/
def Cause.skipped : Cause → Complaint
  | .numberEnd => .badNumber
  | .listTrailing => .valueWanted
  | .objectTrailing => .keyWanted
  | .objectCommaEnd => .endInObject
  | cause => cause.wanted

inductive Node where
  | null
  | flag (b : Bool)
  | number (n : Numeral)
  | text (s : Spelling)
  /-- A list, and why it is not closed. -/
  | list (items : List Node) (stop : Option Cause)
  /-- An object, and why it is not closed. -/
  | object (members : List (Spelling × Node)) (stop : Option Cause)
  /-- An object whose first key is no text; what stands there instead. -/
  | keyless (first : Node)
  /-- No value. -/
  | broken (cause : Cause)
deriving Repr, Inhabited

/-- The complaint about a tree whose value is skipped. -/
def Node.skip? : Node → Option Complaint
  | .null | .flag _ | .number _ => none
  | .text s => s.ending.complaint?
  | .list _ stop | .object _ stop => stop.map Cause.skipped
  | .keyless _ => some .keyWanted
  | .broken cause => some cause.skipped

/-- All that a text holds: a tree, and whether more than blanks follow it. -/
structure Document where
  root : Node
  surplus : Bool
deriving Repr

end Podkeeper.Json
