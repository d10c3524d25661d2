import Podkeeper.Proofs.Decimal.Readable
import Podkeeper.Proofs.Json.Decoding

/-!
Values that can be read as any value.

A reading that takes any value at all still refuses numbers that are out of range. A value is
bounded if its whole numbers fit 64 bits; then each number in it can be read
(`Value.Bounded.readable`), and with it the value (`Value.Bounded.succeeds`). Whether an encoding is
bounded shows member by member.
-/

namespace Podkeeper.Json.Value

open Wire

/-- Whole numbers in the value fit 64 bits. -/
def Bounded (v : Value) : Prop := ∀ n ∈ v.numbers, n.InRange

namespace Bounded

variable {v : Value}

theorem readable (bounded : v.Bounded) {n : Number} (member : n ∈ v.numbers) :
    ∃ m, n.numeral.number = .ok m := by
  cases n with
  | whole n => exact ⟨.whole n, Numeral.number_ofInt (bounded _ member)⟩
  | real x =>
      obtain ⟨y, read⟩ := x.number_numeral
      exact ⟨.real y, read⟩

/-- A bounded value can be read as any value, unless it is nested too deep. -/
theorem succeeds (bounded : v.Bounded) {depth : Nat} (flat : v.nesting ≤ depth) :
    ∃ o, Source.opaqueValue (⟨depth, v.node⟩ : Cursor) = (.ok o : Except Refusal Opaque) :=
  opaqueValue_succeeds (fun _ => bounded.readable) flat

end Bounded

/-! ### Members -/

@[simp] theorem bounded_text (s : String) : Bounded (.text s) := by
  simp [Bounded, numbers]

@[simp] theorem bounded_flag (b : Bool) : Bounded (.flag b) := by
  simp [Bounded, numbers]

@[simp] theorem bounded_whole {n : Int} : Bounded (.whole n) ↔ (Number.whole n).InRange := by
  simp [Bounded, whole, numbers]

@[simp] theorem bounded_list {items : List Value} :
    Bounded (.list items) ↔ ∀ v ∈ items, v.Bounded := by
  simp only [Bounded, numbers_list, List.mem_flatMap]
  exact ⟨fun all v member n there => all n ⟨v, member, there⟩,
    fun all n ⟨v, member, there⟩ => all v member n there⟩

theorem bounded_object {members : List (String × Value)} :
    Bounded (.object members) ↔ ∀ m ∈ members, m.2.Bounded := by
  simp only [Bounded, numbers_object, List.mem_flatMap]
  exact ⟨fun all m member n there => all n ⟨m, member, there⟩,
    fun all n ⟨m, member, there⟩ => all m member n there⟩

/-- The value of a member, if it is there, is bounded. -/
def MemberBounded (m : Member?) : Prop := ∀ e ∈ m, e.2.Bounded

@[simp] theorem bounded_record {ms : List Member?} :
    Bounded (.record ms) ↔ ∀ m ∈ ms, MemberBounded m := by
  rw [record, bounded_object]
  simp only [List.mem_filterMap, id_eq, exists_eq_right, MemberBounded, Option.mem_def]
  exact ⟨fun all m member e there => all e (there ▸ member), fun all e member => all _ member e rfl⟩

variable {α : Type} {name : String} {write : α → Value}

@[simp] theorem memberBounded_none : MemberBounded none := by
  simp [MemberBounded]

@[simp] theorem memberBounded_member {v : Value} :
    MemberBounded (member name v) ↔ v.Bounded := by
  simp [MemberBounded, member]

@[simp] theorem memberBounded_given {a : Option α} :
    MemberBounded (given name write a) ↔ ∀ b ∈ a, (write b).Bounded := by
  simp [MemberBounded, given]

@[simp] theorem memberBounded_nonEmptyList {as : List α} :
    MemberBounded (nonEmptyList name write as) ↔ ∀ a ∈ as, (write a).Bounded := by
  cases as <;> simp [MemberBounded, nonEmptyList]

@[simp] theorem bounded_ofMap {m : KeyMap α} :
    Bounded (ofMap write m) ↔ ∀ e ∈ m.entries, (write e.2).Bounded := by
  rw [ofMap, bounded_object, List.forall_mem_map]

@[simp] theorem memberBounded_nonEmptyMap {m : KeyMap α} :
    MemberBounded (nonEmptyMap name write m) ↔ ∀ e ∈ m.entries, (write e.2).Bounded := by
  rw [nonEmptyMap]
  cases blank : m.isEmpty with
  | true => simp [List.isEmpty_iff.1 blank]
  | false => exact memberBounded_member.trans bounded_ofMap

/-! ### Values in canonical form -/

theorem Canonical.bounded {v : Value} (canonical : v.Canonical) : v.Bounded := by
  induction canonical with
  | null => simp [Bounded, numbers]
  | flag b => exact bounded_flag b
  | number n inRange => simpa [Bounded, numbers] using inRange
  | text s => exact bounded_text s
  | list items _ ih => exact bounded_list.2 ih
  | object members _ _ ih => exact bounded_object.2 ih

end Podkeeper.Json.Value
