import Podkeeper.Json.Build
import Podkeeper.Json.Decode
import Podkeeper.Proofs.Json.Reading
import Podkeeper.Proofs.Outcomes

/-!
What is written as JSON is decoded again.

`Decodes read v a` says that a reading of values finds `a` in the tree of the value `v`, wherever
`v` is not nested too deep. There is one lemma for each question that a reader asks of a source,
and one for each kind of field of a record.
-/

namespace Podkeeper.Json

open Wire

namespace Value

/-! ### Depth -/

mutual

/-- How many lists and objects enclose each other in a value. -/
def nesting : Value → Nat
  | .null | .flag _ | .number _ | .text _ => 0
  | .list items => itemsNesting items + 1
  | .object members => membersNesting members + 1

def itemsNesting : List Value → Nat
  | [] => 0
  | v :: vs => max v.nesting (itemsNesting vs)

def membersNesting : List (String × Value) → Nat
  | [] => 0
  | (_, v) :: ms => max v.nesting (membersNesting ms)

end

theorem itemsNesting_le {vs : List Value} {d : Nat} :
    itemsNesting vs ≤ d ↔ ∀ v ∈ vs, v.nesting ≤ d := by
  induction vs with
  | nil => simp [itemsNesting]
  | cons v vs ih => rw [itemsNesting, Nat.max_le, ih, List.forall_mem_cons]

theorem membersNesting_le {ms : List (String × Value)} {d : Nat} :
    membersNesting ms ≤ d ↔ ∀ m ∈ ms, m.2.nesting ≤ d := by
  induction ms with
  | nil => simp [membersNesting]
  | cons m ms ih => rw [membersNesting, Nat.max_le, ih, List.forall_mem_cons]

theorem nesting_list_le {items : List Value} {d : Nat} :
    nesting (.list items) ≤ d ↔ ∃ k, d = k + 1 ∧ ∀ v ∈ items, v.nesting ≤ k := by
  cases d with
  | zero => simp [nesting]
  | succ k => simp [nesting, itemsNesting_le]

theorem nesting_object_le {members : List (String × Value)} {d : Nat} :
    nesting (.object members) ≤ d ↔ ∃ k, d = k + 1 ∧ ∀ m ∈ members, m.2.nesting ≤ k := by
  cases d with
  | zero => simp [nesting]
  | succ k => simp [nesting, membersNesting_le]

/-! ### Numbers -/

mutual

/-- The numbers in a value. -/
def numbers : Value → List Number
  | .null | .flag _ | .text _ => []
  | .number n => [n]
  | .list items => itemsNumbers items
  | .object members => membersNumbers members

def itemsNumbers : List Value → List Number
  | [] => []
  | v :: vs => v.numbers ++ itemsNumbers vs

def membersNumbers : List (String × Value) → List Number
  | [] => []
  | (_, v) :: ms => v.numbers ++ membersNumbers ms

end

theorem numbers_list (items : List Value) : numbers (.list items) = items.flatMap numbers := by
  rw [numbers]
  induction items with
  | nil => rfl
  | cons v vs ih => rw [itemsNumbers, ih, List.flatMap_cons]

theorem numbers_object (members : List (String × Value)) :
    numbers (.object members) = members.flatMap fun m => m.2.numbers := by
  rw [numbers]
  induction members with
  | nil => rfl
  | cons m ms ih => rw [membersNumbers, ih, List.flatMap_cons]

/-- No number in the value has a fraction or an exponent. -/
def Whole (v : Value) : Prop := ∀ x, .real x ∉ v.numbers

/-- The number has no fraction and no exponent. -/
def isWhole : Number → Bool
  | .whole _ => true
  | .real _ => false

instance (v : Value) : Decidable v.Whole :=
  decidable_of_iff (v.numbers.all isWhole = true) <| by
    rw [List.all_eq_true]
    constructor
    · exact fun all x there => nomatch all (.real x) there
    · intro whole n there
      cases n with
      | whole n => rfl
      | real x => exact absurd there (whole x)

end Value

/-- The value is the word for no value. -/
def Value.isNull : Value → Bool
  | .null => true
  | _ => false

@[simp] theorem Value.isNull_whole (n : Int) : (Value.whole n).isNull = false := rfl

/-! ### Values -/

/-- A reading finds `a` in the tree of `v`, unless `v` is nested too deep. -/
def Decodes {α : Type} (read : Cursor → Except Refusal α) (v : Value) (a : α) : Prop :=
  ∀ depth, v.nesting ≤ depth → read ⟨depth, v.node⟩ = .ok a

/-- The text of a value is taken as its tree, and nothing else stands there. -/
theorem decode_bytes_eq {α : Type} (read : Cursor → Except Refusal α) (v : Value) :
    decode read v.bytes = read ⟨maxDepth, v.node⟩ := by
  rw [decode, read_bytes]
  cases read ⟨maxDepth, v.node⟩ <;> rfl

theorem decode_bytes {α : Type} {read : Cursor → Except Refusal α} {v : Value} {a : α}
    (decodes : Decodes read v a) (flat : v.nesting ≤ maxDepth) : decode read v.bytes = .ok a := by
  rw [decode_bytes_eq, decodes maxDepth flat]

namespace Decodes

variable {α β : Type} {read : Cursor → Except Refusal α} {v : Value} {a : α}

theorem text (s : String) : Decodes Source.text (.text s) s := by
  intro depth _
  change complain (spelling s).text = _
  rw [text_spelling, complain]

theorem flag (b : Bool) : Decodes Source.flag (.flag b) b := fun _ _ => rfl

theorem whole {range : Range} {n : Int} (holds : range.holds n = true)
    (inRange : (Number.whole n).InRange) : Decodes (Source.whole range) (.whole n) n := by
  intro depth _
  change Cursor.whole range ⟨depth, .number (Numeral.ofInt n)⟩ = _
  simp only [Cursor.whole, Numeral.number_ofInt inRange, complain, ok_bind, holds, if_true]

theorem map (decodes : Decodes read v a) (f : α → β) :
    Decodes (fun c => do return f (← read c)) v (f a) := by
  intro depth flat
  dsimp only
  rw [decodes depth flat, ok_bind]
  rfl

theorem checked {make : α → Except String β} {b : β} (decodes : Decodes read v a)
    (made : make a = .ok b) : Decodes (Source.checked read make) v b := by
  intro depth flat
  rw [Source.checked, decodes depth flat, ok_bind, made]
  rfl

theorem option (decodes : Decodes read v a) (filled : v.isNull = false) :
    Decodes (Source.option read) v (some a) := by
  intro depth flat
  have there : Cursor.option read ⟨depth, v.node⟩ = (read ⟨depth, v.node⟩).map some := by
    cases v <;> first | rfl | cases filled
  change Cursor.option read ⟨depth, v.node⟩ = _
  rw [there, decodes depth flat]
  rfl

/-- A word that stands for a value. -/
theorem word {known : List String} {value? : String → Option α} {default : α} {s : String}
    (among : s ∈ known) (stands : value? s = some a) :
    Decodes (Source.word known value? default) (.text s) a := by
  intro depth _
  have chosen : Cursor.choice known ⟨depth, .text (spelling s)⟩ = .ok s := by
    simp only [Cursor.choice, text_spelling, complain, ok_bind, List.contains_iff_mem.2 among,
      if_true]
  have asked : Source.choice known (⟨depth, (Value.text s).node⟩ : Cursor) = .ok s := chosen
  rw [Source.word, asked, ok_bind, stands]
  rfl

/-! ### Lists and maps -/

theorem readItems_map {write : α → Value} {c : Cursor} {as : List α}
    (reads : ∀ a ∈ as, read (c.down (write a).node) = .ok a) (before : List α) :
    readItems c read before (as.map fun a => (write a).node) = .ok (before.reverse ++ as) := by
  induction as generalizing before with
  | nil => simp [readItems]
  | cons a as ih =>
      rw [List.map_cons, readItems, reads a List.mem_cons_self, ok_bind,
        ih fun b member => reads b (List.mem_cons_of_mem a member)]
      simp

theorem readMembers_map {write : α → Value} {c : Cursor} {as : List (String × α)}
    (reads : ∀ e ∈ as, read (c.down (write e.2).node) = .ok e.2) (before : List (String × α)) :
    readMembers c read before (as.map fun e => (spelling e.1, (write e.2).node)) =
      .ok (before.reverse ++ as) := by
  induction as generalizing before with
  | nil => simp [readMembers]
  | cons e as ih =>
      rw [List.map_cons, readMembers, text_spelling, complain, ok_bind,
        reads e List.mem_cons_self, ok_bind,
        ih fun b member => reads b (List.mem_cons_of_mem e member)]
      simp

theorem sequence {write : α → Value} {as : List α} (decodes : ∀ a ∈ as, Decodes read (write a) a) :
    Decodes (Source.sequence read) (.list (as.map write)) as := by
  intro depth flat
  obtain ⟨k, rfl, inner⟩ := Value.nesting_list_le.1 flat
  have node : (Value.list (as.map write)).node = .list (as.map fun a => (write a).node) none := by
    rw [Value.node, Value.nodes_eq_map, List.map_map]
    rfl
  have items (n : Node) : readItems ⟨k + 1, n⟩ read [] (as.map fun a => (write a).node) = .ok as :=
    readItems_map (fun a member => decodes a member k (inner _ (List.mem_map_of_mem member))) []
  change Cursor.sequence read _ = _
  rw [node]
  simp only [Cursor.sequence, Cursor.enter, Nat.add_one_ne_zero, if_false, ok_bind, items, closed]

theorem mapping {write : α → Value} {as : List (String × α)}
    (decodes : ∀ e ∈ as, Decodes read (write e.2) e.2) :
    Decodes (Source.mapping read) (.object (as.map fun e => (e.1, write e.2))) as := by
  intro depth flat
  obtain ⟨k, rfl, inner⟩ := Value.nesting_object_le.1 flat
  have node : (Value.object (as.map fun e => (e.1, write e.2))).node =
      .object (as.map fun e => (spelling e.1, (write e.2).node)) none := by
    rw [Value.node, Value.memberNodes_eq_map, List.map_map]
    rfl
  have members (n : Node) : readMembers ⟨k + 1, n⟩ read []
      (as.map fun e => (spelling e.1, (write e.2).node)) = .ok as :=
    readMembers_map (fun e member => decodes e member k (inner _ (List.mem_map_of_mem member))) []
  change Cursor.mapping read _ = _
  rw [node]
  simp only [Cursor.mapping, Cursor.enter, Nat.add_one_ne_zero, if_false, ok_bind, members,
    closed]

theorem keyMap {write : α → Value} {m : KeyMap α}
    (decodes : ∀ e ∈ m.entries, Decodes read (write e.2) e.2) :
    Decodes (Source.keyMap read) (.ofMap write m) m := by
  intro depth flat
  change (KeyMap.ofList <$> Source.mapping read _ : Except Refusal (KeyMap α)) = _
  rw [Value.ofMap, mapping decodes depth flat]
  exact congrArg Except.ok (KeyMap.ofList_entries m)

end Decodes

/-! ### Members of objects -/

theorem skip?_node (v : Value) : v.node.skip? = none := by
  cases v <;> rfl

/-- The members of an object that was written, with their places. -/
def placed (fields : List (String × Value)) : List Member :=
  numbered (fields.map fun m => (spelling m.1, m.2.node))

theorem placed_spec {fields : List (String × Value)} {m : Member} (member : m ∈ placed fields) :
    ∃ e ∈ fields, m.key = .ok e.1 ∧ m.node = e.2.node := by
  rw [placed, numbered, List.mem_map] at member
  obtain ⟨⟨written, place⟩, indexed, rfl⟩ := member
  obtain ⟨e, member, rfl⟩ := List.mem_map.1 (List.fst_mem_of_mem_zipIdx indexed)
  exact ⟨e, member, congrArg complain (text_spelling e.1), rfl⟩

/-- Nothing is wrong with members that no field is for. -/
theorem rest_placed (known : String → Bool) (fields : List (String × Value)) :
    rest known none (placed fields) none = .value () := by
  have sound : (placed fields).findSome? (strayFailure known none) = none := by
    rw [List.findSome?_eq_none_iff]
    intro m member
    obtain ⟨e, -, key, node⟩ := placed_spec member
    simp [strayFailure, key, node, skip?_node]
  rw [rest, sound]
  rfl

/-- The values that an object has for a field. -/
def under (label : Label) (fields : List (String × Value)) : List Value :=
  (fields.filter fun e => label.covers e.1).map (·.2)

theorem filter_placed (label : Label) (fields : List (String × Value)) :
    ((placed fields).filter (·.isFor label)).map (·.node) =
      (under label fields).map Value.node := by
  rw [placed, numbered]
  generalize 0 = first
  induction fields generalizing first with
  | nil => rfl
  | cons e fields ih =>
      have key : Member.isFor label ⟨first, complain (spelling e.1).text, e.2.node⟩ =
          label.covers e.1 := by
        rw [text_spelling]
        rfl
      simp only [List.map_cons, List.zipIdx_cons, List.filter_cons, key, under]
      cases label.covers e.1 <;> simpa [under] using ih (first + 1)

section

variable {α : Type} {label : Label} {fields : List (String × Value)} {c : Cursor}
  {read : Cursor → Except Refusal α}

/-- A field under which one value stands. -/
theorem cellOf_given {v : Value} (given : under label fields = [v]) :
    ∃ place, cellOf c (placed fields) label = .given place (c.down v.node) none := by
  have nodes := filter_placed label fields
  rw [given, List.map_singleton, List.map_eq_singleton_iff] at nodes
  obtain ⟨m, filtered, node⟩ := nodes
  rw [cellOf, filtered, ← node]
  exact ⟨m.place, rfl⟩

/-- A field under which nothing stands. -/
theorem cellOf_absent (absent : under label fields = []) :
    ∃ place, cellOf c (placed fields) label = .absent place (.fault (.missing label.name)) := by
  have nodes := filter_placed label fields
  rw [absent, List.map_nil, List.map_eq_nil_iff] at nodes
  rw [cellOf, nodes]
  exact ⟨_, rfl⟩

end

/-! ### Records -/

/-- What a cursor has for the fields of a record. -/
def readField (c : Cursor) (fields : List (String × Value)) {β : Type} (_ : Nat) (label : Label)
    (default : Option β) (read : Cursor → Except Refusal β) : Placed Refusal β :=
  (cellOf c (placed fields) label).read default read

/-- The fields of a record are found as `a` in an object, unless their values are nested too
deep. -/
def Answers {α : Type} (fields : List (String × Value)) (r : Record Cursor (Except Refusal) α)
    (a : α) : Prop :=
  ∀ c : Cursor, (∀ e ∈ fields, e.2.nesting ≤ c.depth - 1) → r.build (readField c fields) = .value a

namespace Answers

variable {α β : Type} {fields : List (String × Value)} {a : α}
  {read : Cursor → Except Refusal α}

theorem map {r : Record Cursor (Except Refusal) α} (answers : Answers fields r a) (f : α → β) :
    Answers fields (f <$> r) (f a) := by
  intro c flat
  change f <$> r.build (readField c fields) = _
  rw [answers c flat]
  rfl

theorem seq {r : Record Cursor (Except Refusal) (α → β)} {s : Record Cursor (Except Refusal) α}
    {f : α → β} (first : Answers fields r f) (second : Answers fields s a) :
    Answers fields (r <*> s) (f a) := by
  intro c flat
  change r.build (readField c fields) <*> s.build (readField c fields) = _
  rw [first c flat, second c flat]
  rfl

variable {label : Label}

/-- A field whose value is there. -/
theorem given {default : Option α} {v : Value} (there : under label fields = [v])
    (decodes : Decodes read v a) : Answers fields (.field label default read) a := by
  intro c flat
  have listed : v ∈ under label fields := there ▸ List.mem_singleton_self v
  obtain ⟨e, member, rfl⟩ := List.mem_map.1 listed
  obtain ⟨place, cell⟩ := cellOf_given (c := c) there
  change (cellOf c (placed fields) label).read default read = _
  have found := decodes (c.depth - 1) (flat e (List.mem_of_mem_filter member))
  rw [cell]
  simp only [Cell.read, Cursor.down, found]

/-- A field that is not there, and does not have to be. -/
theorem absent (missing : under label fields = []) :
    Answers fields (.field label (some a) read) a := by
  intro c _
  obtain ⟨place, cell⟩ := cellOf_absent (c := c) missing
  change (cellOf c (placed fields) label).read (some a) read = _
  rw [cell, Cell.read]

end Answers

/-- A record that skips what it does not know is read from an object by its fields alone. -/
theorem record_object {α : Type} {style : Style} (skips : style.closed = false) (name : String)
    (r : Record Cursor (Except Refusal) α) (fields : List (String × Value)) (k : Nat) :
    Source.record style name r ⟨k + 1, (Value.object fields).node⟩ =
      (r.build (readField ⟨k + 1, (Value.object fields).node⟩ fields)).forget := by
  have rest := rest_placed r.knows fields
  change Cursor.record style name r _ = _
  rw [Value.node, Value.memberNodes_eq_map]
  simp only [Cursor.record, Cursor.enter, Nat.add_one_ne_zero, if_false, ok_bind,
    Cursor.recordOfMembers, skips, Bool.false_eq_true]
  rw [placed] at rest
  rw [rest]
  change Placed.forget (r.build (readField _ fields) <* _) = _
  cases r.build (readField _ fields) <;> rfl

/-- A record that skips what it does not know is found in an object that has its fields. -/
theorem Decodes.object {α : Type} {style : Style} {name : String}
    {r : Record Cursor (Except Refusal) α} {fields : List (String × Value)} {a : α}
    (skips : style.closed = false) (answers : Answers fields r a) :
    Decodes (Source.record style name r) (.object fields) a := by
  intro depth flat
  obtain ⟨k, rfl, inner⟩ := Value.nesting_object_le.1 flat
  have built := answers ⟨k + 1, (Value.object fields).node⟩ inner
  rw [record_object skips, built]
  rfl

/-! ### Members of records -/

section

variable {α : Type} {label : Label} {name : String} {write : α → Value} {ms : List Value.Member?}

/-- The members of a record that are there. -/
def present (ms : List Value.Member?) : List (String × Value) := ms.filterMap id

/-- The values that a member of a record has for a field. -/
def shown (label : Label) (m : Value.Member?) : List Value := under label m.toList

@[simp] theorem under_present_nil : under label (present []) = [] := rfl

@[simp] theorem under_present_cons (m : Value.Member?) :
    under label (present (m :: ms)) = shown label m ++ under label (present ms) := by
  cases m with
  | none => rfl
  | some e =>
      simp only [under, shown, present, List.filterMap_cons, id_eq, Option.toList_some,
        List.filter_cons, List.filter_nil]
      split <;> rfl

@[simp] theorem covers_mk (aliases : List String) (key : String) :
    Label.covers ⟨name, aliases⟩ key = (name == key || aliases.contains key) := rfl

@[simp] theorem shown_none : shown label none = [] := rfl

@[simp] theorem shown_member (v : Value) :
    shown label (Value.member name v) = if label.covers name then [v] else [] := by
  simp only [shown, under, Value.member, Option.toList_some, List.filter_cons, List.filter_nil]
  split <;> rfl

@[simp] theorem shown_given (a : Option α) :
    shown label (Value.given name write a) =
      if label.covers name then (a.map write).toList else [] := by
  cases a with
  | none => simp [shown, under, Value.given]
  | some a => exact shown_member (write a)

@[simp] theorem shown_nonEmptyList (as : List α) :
    shown label (Value.nonEmptyList name write as) =
      if label.covers name then if as.isEmpty then [] else [.list (as.map write)] else [] := by
  rw [Value.nonEmptyList]
  cases as.isEmpty with
  | true => simp
  | false => exact shown_member _

@[simp] theorem shown_nonEmptyMap (m : KeyMap α) :
    shown label (Value.nonEmptyMap name write m) =
      if label.covers name then if m.isEmpty then [] else [Value.ofMap write m] else [] := by
  rw [Value.nonEmptyMap]
  cases m.isEmpty with
  | true => simp
  | false => exact shown_member _

@[simp] theorem shown_nonEmptyText (s : String) :
    shown label (Value.nonEmptyText name s) =
      if label.covers name then if s = "" then [] else [.text s] else [] := by
  rw [Value.nonEmptyText]
  by_cases blank : s = ""
  · simp [blank]
  · rw [if_neg blank, if_neg blank]
    exact shown_member _

end

/-- A record that skips what it does not know is found in what was written for its fields. -/
theorem Decodes.record {α : Type} {style : Style} {name : String}
    {r : Record Cursor (Except Refusal) α} {ms : List Value.Member?} {a : α}
    (skips : style.closed = false) (answers : Answers (present ms) r a) :
    Decodes (Source.record style name r) (.record ms) a :=
  .object skips answers

namespace Answers

variable {α : Type} {fields : List (String × Value)} {name : String}
  {read : Cursor → Except Refusal α} {write : α → Value}

/-- A field that is written only if its value is not the one to take when it is not there. -/
theorem skipped {label : Label} {default a : α} {v : Value} {c : Prop} [Decidable c]
    (there : under label fields = if c then [] else [v]) (plain : c → a = default)
    (decodes : Decodes read v a) : Answers fields (.field label (some default) read) a := by
  by_cases skip : c
  · rw [if_pos skip] at there
    exact plain skip ▸ absent there
  · rw [if_neg skip] at there
    exact given there decodes

theorem maybe (write : α → Value) {a : Option α}
    (there : under ⟨name, []⟩ fields = (a.map write).toList)
    (filled : ∀ a, (write a).isNull = false) (decodes : ∀ b ∈ a, Decodes read (write b) b) :
    Answers fields (Source.maybe name read) a := by
  cases a with
  | none => exact absent there
  | some a => exact given there ((decodes a rfl).option (filled a))

theorem listField {as : List α}
    (there : under ⟨name, []⟩ fields = if as.isEmpty then [] else [.list (as.map write)])
    (decodes : ∀ a ∈ as, Decodes read (write a) a) :
    Answers fields (Source.listField name read) as :=
  skipped there List.isEmpty_iff.1 (.sequence decodes)

theorem mapField {m : KeyMap α}
    (there : under ⟨name, []⟩ fields = if m.isEmpty then [] else [Value.ofMap write m])
    (decodes : ∀ e ∈ m.entries, Decodes read (write e.2) e.2) :
    Answers fields (Source.mapField name read) m :=
  skipped there (fun blank => KeyMap.ext (List.isEmpty_iff.1 blank)) (.keyMap decodes)

end Answers

/-! ### Any values -/

/-- What holds of a value in canonical form if it holds of its parts, holds of all of them. -/
theorem Opaque.induct {motive : Opaque → Prop} (null : motive .null)
    (flag : ∀ b, motive (.flag b)) (text : ∀ s, motive (.text s))
    (whole : ∀ n (inRange : (Number.whole n).InRange),
      motive ⟨.number (.whole n), .number _ inRange⟩)
    (real : ∀ x, motive (.real x))
    (list : ∀ items : List Opaque, (∀ o ∈ items, motive o) → motive (.list items))
    (object : ∀ members : KeyMap Opaque, (∀ e ∈ members.entries, motive e.2) →
      motive (.object members)) :
    ∀ o, motive o := by
  intro ⟨v, canonical⟩
  induction v using Value.induct with
  | null => exact null
  | flag b => exact flag b
  | number n =>
      cases n with
      | whole n =>
          cases canonical with
          | number _ inRange => exact whole n inRange
      | real x => exact real x
  | text s => exact text s
  | list items ih =>
      cases canonical with
      | list _ parts =>
          have same : (⟨.list items, .list items parts⟩ : Opaque) =
              .list (items.pmap Opaque.mk parts) :=
            Opaque.ext (by simp [Opaque.list, List.map_pmap])
          rw [same]
          refine list _ fun o listed => ?_
          obtain ⟨v, member, rfl⟩ := List.mem_pmap.1 listed
          exact ih v member (parts v member)
  | object members ih =>
      cases canonical with
      | object _ increasing parts =>
          let entries := members.pmap (fun m canonical => (m.1, Opaque.mk m.2 canonical)) parts
          have keys : entries.map (fun e => (e.1, e.2.value)) = members := by
            simp [entries, List.map_pmap]
          have ordered : entries.Pairwise fun a b => a.1 < b.1 := by
            rw [← keys, List.pairwise_map] at increasing
            exact increasing
          have same : (⟨.object members, .object members increasing parts⟩ : Opaque) =
              .object ⟨entries, ordered⟩ := Opaque.ext (congrArg Value.object keys.symm)
          rw [same]
          refine object _ fun e listed => ?_
          obtain ⟨m, member, rfl⟩ := List.mem_pmap.1 listed
          exact ih m member (parts m member)

/-- Any list of values is read item by item. -/
theorem opaqueValue_list (k : Nat) (items : List Value) :
    opaqueValue (k + 1) (Value.list items).node =
      (readItems ⟨0, .null⟩ (fun c => opaqueValue k c.node) [] (items.map Value.node)).map
        .list := by
  rw [Value.node, Value.nodes_eq_map]
  simp only [opaqueValue, closed]
  cases readItems ⟨0, .null⟩ (fun c => opaqueValue k c.node) [] (items.map Value.node) <;> rfl

/-- Any object is read member by member. -/
theorem opaqueValue_object (k : Nat) (members : List (String × Value)) :
    opaqueValue (k + 1) (Value.object members).node =
      (readMembers ⟨0, .null⟩ (fun c => opaqueValue k c.node) []
        (members.map fun m => (spelling m.1, m.2.node))).map fun ms =>
          .object (KeyMap.ofList ms) := by
  rw [Value.node, Value.memberNodes_eq_map]
  simp only [opaqueValue, closed]
  cases readMembers ⟨0, .null⟩ (fun c => opaqueValue k c.node) []
    (members.map fun m => (spelling m.1, m.2.node)) <;> rfl

/-- A value in canonical form without fractions is found as it is. -/
theorem Decodes.opaqueNode {o : Opaque} (whole : o.value.Whole) :
    Decodes Source.opaqueValue o.value o := by
  intro depth flat
  change opaqueValue depth o.value.node = _
  induction o using Opaque.induct generalizing depth with
  | null => simp only [Opaque.null, Value.node, opaqueValue]
  | flag b => simp only [Opaque.flag, Value.node, opaqueValue]
  | text s => simp only [Opaque.text, Value.node, opaqueValue, text_spelling, complain, ok_bind]
  | whole n inRange =>
      have fits : Opaque.whole? n = some ⟨.number (.whole n), .number _ inRange⟩ := dif_pos inRange
      simp only [Value.node, opaqueValue, Number.numeral, Numeral.number_ofInt inRange, complain,
        ok_bind, fits, Option.getD_some]
  | real x => exact absurd (List.mem_singleton_self _) (whole x)
  | list items ih =>
      obtain ⟨k, rfl, inner⟩ := Value.nesting_list_le.1 flat
      have parts : ∀ o ∈ items, o.value.Whole := fun o member x real => whole x <| by
        rw [Opaque.list, Value.numbers_list, List.flatMap_map]
        exact List.mem_flatMap.2 ⟨o, member, real⟩
      have read : readItems ⟨0, .null⟩ (fun c => opaqueValue k c.node) []
          (items.map fun o => o.value.node) = .ok items :=
        readItems_map (fun o member =>
          ih o member (parts o member) k (inner _ (List.mem_map_of_mem member))) []
      rw [Opaque.list, opaqueValue_list, List.map_map]
      exact congrArg (Except.map Opaque.list) read
  | object members ih =>
      obtain ⟨k, rfl, inner⟩ := Value.nesting_object_le.1 flat
      have parts : ∀ e ∈ members.entries, e.2.value.Whole := fun e member x real => whole x <| by
        rw [Opaque.object, Value.numbers_object, List.flatMap_map]
        exact List.mem_flatMap.2 ⟨e, member, real⟩
      have read : readMembers ⟨0, .null⟩ (fun c => opaqueValue k c.node) []
          (members.entries.map fun e => (spelling e.1, e.2.value.node)) = .ok members.entries :=
        readMembers_map (fun e member =>
          ih e member (parts e member) k (inner _ (List.mem_map_of_mem member))) []
      rw [Opaque.object, opaqueValue_object, List.map_map]
      refine (congrArg (Except.map fun ms => Opaque.object (KeyMap.ofList ms)) read).trans ?_
      exact congrArg (fun m => Except.ok (Opaque.object m)) (KeyMap.ofList_entries members)

theorem readItems_succeeds {α : Type} {read : Cursor → Except Refusal α} {c : Cursor}
    {nodes : List Node} (succeeds : ∀ n ∈ nodes, ∃ a, read (c.down n) = .ok a) (before : List α) :
    ∃ as, readItems c read before nodes = .ok as := by
  induction nodes generalizing before with
  | nil => exact ⟨_, rfl⟩
  | cons n nodes ih =>
      obtain ⟨a, first⟩ := succeeds n List.mem_cons_self
      obtain ⟨as, rest⟩ := ih (fun m member => succeeds m (List.mem_cons_of_mem n member))
        (a :: before)
      exact ⟨as, by rw [readItems, first, ok_bind, rest]⟩

theorem readMembers_succeeds {α : Type} {read : Cursor → Except Refusal α} {c : Cursor}
    {members : List (String × Value)}
    (succeeds : ∀ m ∈ members, ∃ a, read (c.down m.2.node) = .ok a) (before : List (String × α)) :
    ∃ as, readMembers c read before (members.map fun m => (spelling m.1, m.2.node)) = .ok as := by
  induction members generalizing before with
  | nil => exact ⟨_, rfl⟩
  | cons m members ih =>
      obtain ⟨a, first⟩ := succeeds m List.mem_cons_self
      obtain ⟨as, rest⟩ := ih (fun m' member => succeeds m' (List.mem_cons_of_mem m member))
        ((m.1, a) :: before)
      refine ⟨as, ?_⟩
      rw [List.map_cons, readMembers, text_spelling, complain, ok_bind, first, ok_bind, rest]

/-- Something is found in every value whose numbers can be read. -/
theorem opaqueValue_succeeds {v : Value}
    (numbers : ∀ n ∈ v.numbers, ∃ m, n.numeral.number = .ok m) {depth : Nat}
    (flat : v.nesting ≤ depth) : ∃ o, opaqueValue depth v.node = .ok o := by
  induction v using Value.induct generalizing depth with
  | null => exact ⟨.null, by simp only [Value.node, opaqueValue]⟩
  | flag b => exact ⟨.flag b, by simp only [Value.node, opaqueValue]⟩
  | text s =>
      exact ⟨.text s, by simp only [Value.node, opaqueValue, text_spelling, complain, ok_bind]⟩
  | number n =>
      obtain ⟨m, read⟩ := numbers n (List.mem_singleton_self n)
      simp only [Value.node, opaqueValue, read, complain, ok_bind]
      cases m with
      | whole n => exact ⟨_, rfl⟩
      | real x => exact ⟨_, rfl⟩
  | list items ih =>
      obtain ⟨k, rfl, inner⟩ := Value.nesting_list_le.1 flat
      have parts : ∀ n ∈ items.map Value.node, ∃ o, opaqueValue k n = .ok o := by
        intro n listed
        obtain ⟨v, member, rfl⟩ := List.mem_map.1 listed
        refine ih v member (fun n there => numbers n ?_) (inner v member)
        rw [Value.numbers_list]
        exact List.mem_flatMap.2 ⟨v, member, there⟩
      obtain ⟨os, read⟩ : ∃ os, readItems ⟨0, .null⟩ (fun c => opaqueValue k c.node) []
          (items.map Value.node) = .ok os := readItems_succeeds parts []
      exact ⟨.list os, by rw [opaqueValue_list, read, Except.map]⟩
  | object members ih =>
      obtain ⟨k, rfl, inner⟩ := Value.nesting_object_le.1 flat
      have parts : ∀ m ∈ members, ∃ o, opaqueValue k m.2.node = .ok o := by
        intro m member
        refine ih m member (fun n there => numbers n ?_) (inner m member)
        rw [Value.numbers_object]
        exact List.mem_flatMap.2 ⟨m, member, there⟩
      obtain ⟨os, read⟩ : ∃ os, readMembers ⟨0, .null⟩ (fun c => opaqueValue k c.node) []
          (members.map fun m => (spelling m.1, m.2.node)) = .ok os := readMembers_succeeds parts []
      exact ⟨.object (.ofList os), by rw [opaqueValue_object, read, Except.map]⟩

end Podkeeper.Json
