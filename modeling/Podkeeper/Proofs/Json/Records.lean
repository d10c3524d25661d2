import Podkeeper.Proofs.Json.Decoding

/-!
What a record was read from.

An object may hold anything, and be broken. A record that skips what it does not know is read from
it exactly if the object is sound and each field finds its value (`record_eq_ok_iff`). A field
finds its value in the one node that stands under its name, and where none does it takes its
default, if it has one.
-/

namespace Podkeeper.Wire.Placed

variable {ε α β : Type} {x : Placed ε α} {a : α} {b : β}

theorem forget_eq_ok : x.forget = .ok a ↔ x = .value a := by
  cases x <;> simp [forget]

theorem map_eq_value {f : α → β} : f <$> x = .value b ↔ ∃ a, x = .value a ∧ f a = b := by
  change both (.value f) x = _ ↔ _
  cases x <;> simp [both]

theorem seq_eq_value {f : Placed ε (α → β)} :
    f <*> x = .value b ↔ ∃ g a, f = .value g ∧ x = .value a ∧ g a = b := by
  change both f x = _ ↔ _
  cases f with
  | value g => cases x <;> simp [both]
  | failure i e =>
      cases x with
      | value a => simp [both]
      | failure j e' =>
          rw [both]
          split <;> simp

theorem seqLeft_eq_value {y : Placed ε β} :
    x <* y = .value a ↔ x = .value a ∧ ∃ b, y = .value b := by
  change Function.const β <$> x <*> y = _ ↔ _
  rw [seq_eq_value]
  constructor
  · rintro ⟨g, b, first, second, rfl⟩
    obtain ⟨a, found, rfl⟩ := map_eq_value.1 first
    exact ⟨found, b, second⟩
  · rintro ⟨first, b, second⟩
    exact ⟨_, b, map_eq_value.2 ⟨a, first, rfl⟩, second, rfl⟩

end Podkeeper.Wire.Placed

namespace Podkeeper.Json

open Wire

variable {α β : Type} {label : Label} {members : List (Spelling × Node)} {stop : Option Cause}

/-! ### Members -/

/-- The nodes that members have for a field. -/
def nodesFor (label : Label) (members : List (Spelling × Node)) : List Node :=
  (members.filter fun m => m.1.text.toOption.any label.covers).map (·.2)

theorem filter_numbered (label : Label) (members : List (Spelling × Node)) :
    ((numbered members).filter (·.isFor label)).map (·.node) = nodesFor label members := by
  rw [numbered, nodesFor]
  generalize 0 = first
  induction members generalizing first with
  | nil => rfl
  | cons m members ih =>
      have key : Member.isFor label ⟨first, complain m.1.text, m.2⟩ =
          m.1.text.toOption.any label.covers := by
        rw [Member.isFor]
        cases m.1.text <;> rfl
      simp only [List.map_cons, List.zipIdx_cons, List.filter_cons, key]
      cases m.1.text.toOption.any label.covers <;> simpa using ih (first + 1)

/-- An object can be read as far as its fields can: it is closed, its keys can be read, and what is
skipped in it is JSON. -/
def Sound (known : String → Bool) (members : List (Spelling × Node)) (stop : Option Cause) : Prop :=
  stop = none ∧ ∀ m ∈ members, ∃ key, m.1.text = .ok key ∧ (known key = false → m.2.skip? = none)

theorem rest_eq_value {known : String → Bool} :
    rest known none (numbered members) stop = .value () ↔ Sound known members stop := by
  have sound (m : Spelling × Node) (place : Nat) :
      strayFailure known none ⟨place, complain m.1.text, m.2⟩ = none ↔
        ∃ key, m.1.text = .ok key ∧ (known key = false → m.2.skip? = none) := by
    cases m.1.text with
    | error e => simp [strayFailure, complain]
    | ok key => cases known key <;> simp [strayFailure, complain]
  have strays : (numbered members).findSome? (strayFailure known none) = none ↔
      ∀ m ∈ members, ∃ key, m.1.text = .ok key ∧ (known key = false → m.2.skip? = none) := by
    rw [numbered, List.findSome?_eq_none_iff, List.forall_mem_map]
    constructor
    · intro all m member
      obtain ⟨i, bound, rfl⟩ := List.mem_iff_getElem.1 member
      exact (sound _ i).1 (all (members[i], i) (List.mk_mem_zipIdx_iff_getElem?.2 (by simp)))
    · intro all m indexed
      exact (sound _ _).2 (all m.1 (List.fst_mem_of_mem_zipIdx indexed))
  rw [rest, Sound, ← strays]
  cases (numbered members).findSome? (strayFailure known none) with
  | some failure => simp
  | none => cases stop <;> simp [Placed.placeAt, closed]

/-! ### Fields -/

/-- What a cursor has among members for the fields of a record. -/
def readAmong (c : Cursor) (members : List (Spelling × Node)) {β : Type} (_ : Nat) (label : Label)
    (default : Option β) (read : Cursor → Except Refusal β) : Placed Refusal β :=
  (cellOf c (numbered members) label).read default read

/-- The fields of a record are found as `a` among members. -/
def Finds (c : Cursor) (members : List (Spelling × Node)) (r : Record Cursor (Except Refusal) α)
    (a : α) : Prop :=
  r.build (readAmong c members) = .value a

variable {c : Cursor} {read : Cursor → Except Refusal α} {a : α}

/-- A field is found in the only node for it, and as its default where there is none. -/
theorem finds_field {default : Option α} :
    Finds c members (.field label default read) a ↔
      nodesFor label members = [] ∧ default = some a ∨
        ∃ n, nodesFor label members = [n] ∧ read (c.down n) = .ok a := by
  have nodes := filter_numbered label members
  change (cellOf c (numbered members) label).read default read = _ ↔ _
  rw [← nodes, cellOf]
  cases (numbered members).filter fun m => m.isFor label with
  | nil => cases default <;> simp [Cell.read]
  | cons m again =>
      cases again with
      | nil => cases found : read (c.down m.node) <;> simp [Cell.read, found]
      | cons m' again => cases found : read (c.down m.node) <;> simp [Cell.read, found]

theorem finds_map {r : Record Cursor (Except Refusal) α} {f : α → β} {b : β} :
    Finds c members (f <$> r) b ↔ ∃ a, Finds c members r a ∧ f a = b :=
  Placed.map_eq_value

theorem finds_seq {r : Record Cursor (Except Refusal) (α → β)}
    {s : Record Cursor (Except Refusal) α} {b : β} :
    Finds c members (r <*> s) b ↔
      ∃ f a, Finds c members r f ∧ Finds c members s a ∧ f a = b :=
  Placed.seq_eq_value

/-- The node is the word for no value. -/
def Node.isNull : Node → Bool
  | .null => true
  | _ => false

theorem option_eq (read : Cursor → Except Refusal α) (c : Cursor) :
    Source.option read c = if c.node.isNull then .ok none else (read c).map some := by
  obtain ⟨depth, n⟩ := c
  cases n <;> rfl

/-- The nodes for a field that are a value. -/
def valuesFor (name : String) (members : List (Spelling × Node)) : List Node :=
  (nodesFor ⟨name, []⟩ members).filter fun n => !n.isNull

/-- A field that may be absent stands under its name once at most, and is there unless the word for
no value is. -/
theorem finds_maybe {name : String} {a : Option α} :
    Finds c members (Source.maybe name read) a ↔
      (nodesFor ⟨name, []⟩ members).length ≤ 1 ∧
        (valuesFor name members = [] ∧ a = none ∨
          ∃ n b, valuesFor name members = [n] ∧ read (c.down n) = .ok b ∧ a = some b) := by
  rw [Source.maybe, Record.optional, finds_field, valuesFor]
  rcases nodesFor ⟨name, []⟩ members with _ | ⟨n, _ | ⟨n', again⟩⟩
  · simp [eq_comm]
  · cases blank : n.isNull with
    | true => simp [option_eq, Cursor.down, blank, eq_comm (a := a)]
    | false =>
        have filled : (c.down n).node.isNull = false := blank
        cases found : read (c.down n) <;>
          simp [option_eq, filled, found, blank, Except.map, eq_comm (a := a)]
  · simp

/-! ### Records -/

/-- A record that skips what it does not know is read from an object that is sound and in which its
fields are found. -/
theorem record_eq_ok_iff {style : Style} (skips : style.closed = false) {name : String}
    {r : Record Cursor (Except Refusal) α} {k : Nat} :
    Source.record style name r ⟨k + 1, .object members stop⟩ = .ok a ↔
      Finds ⟨k + 1, .object members stop⟩ members r a ∧ Sound r.knows members stop := by
  change Cursor.record style name r _ = _ ↔ _
  simp only [Cursor.record, Cursor.enter, Nat.add_one_ne_zero, if_false, ok_bind,
    Cursor.recordOfMembers, skips, Bool.false_eq_true]
  rw [Placed.forget_eq_ok, Placed.seqLeft_eq_value, ← rest_eq_value]
  refine and_congr_right fun _ => ⟨?_, fun sound => ⟨(), sound⟩⟩
  rintro ⟨⟨⟩, sound⟩
  exact sound

theorem mismatch_ne_ok (n : Node) (expected : String) : n.mismatch expected ≠ .ok a := by
  rw [Node.mismatch]
  cases n.found <;> nofun

/-- Whatever a record is read from, its value is made of fields. -/
theorem exists_build_of_record {style : Style} {name : String}
    {r : Record Cursor (Except Refusal) α} (found : Source.record style name r c = .ok a) :
    ∃ readField : {β : Type} → Nat → Label → Option β → (Cursor → Except Refusal β) →
      Placed Refusal β, r.build readField = .value a := by
  change Cursor.record style name r c = _ at found
  rw [Cursor.record] at found
  split at found
  · obtain ⟨-, -, found⟩ := bind_eq_ok.1 found
    exact ⟨_, (Placed.seqLeft_eq_value.1 (Placed.forget_eq_ok.1 found)).1⟩
  · obtain ⟨-, -, found⟩ := bind_eq_ok.1 found
    cases found
  · split at found
    · exact absurd found (mismatch_ne_ok _ _)
    · obtain ⟨-, -, found⟩ := bind_eq_ok.1 found
      exact ⟨_, (Placed.seqLeft_eq_value.1 (Placed.forget_eq_ok.1 found)).1⟩
  · exact absurd found (mismatch_ne_ok _ _)

/-! ### Parts and whole texts -/

theorem checked_eq_ok {make : α → Except String β} {b : β} :
    Source.checked read make c = .ok b ↔ ∃ a, read c = .ok a ∧ make a = .ok b := by
  rw [Source.checked, bind_eq_ok]
  refine exists_congr fun a => and_congr_right fun _ => ?_
  cases make a with
  | error e => simp [Source.refuse]
  | ok b' => simp [pure, Except.pure]

theorem decode_eq_ok {bytes : Bytes} :
    decode read bytes = .ok a ↔
      read ⟨maxDepth, (Json.read bytes).root⟩ = .ok a ∧ (Json.read bytes).surplus = false := by
  rw [decode, bind_eq_ok]
  cases (Json.read bytes).surplus <;> simp

end Podkeeper.Json
