import Podkeeper.Proofs.Json.Bounds

/-!
The first of several readings that succeeds.

A reading that is one of several may also fail: `Fails read v` says that it does in the tree of the
value `v`, as a record does where a field is missing that must be there. The alternatives before the
first that succeeds fail, and the value is readable as a whole because it is bounded.
-/

namespace Podkeeper.Json

open Wire Value

/-- A reading finds nothing in the tree of `v`, unless `v` is nested too deep. -/
def Fails {α : Type} (read : Cursor → Except Refusal α) (v : Value) : Prop :=
  ∀ depth, v.nesting ≤ depth → ∃ e, read ⟨depth, v.node⟩ = .error e

/-- The fields of a record are not all found in an object. -/
def Lacks {α : Type} (fields : List (String × Value)) (r : Record Cursor (Except Refusal) α) :
    Prop :=
  ∀ c : Cursor, ∃ place e, r.build (readField c fields) = .failure place e

variable {α β : Type} {choice : String} {v : Value} {a : α}
  {read : Cursor → Except Refusal α} {reads : List (Cursor → Except Refusal α)}

/-! ### Records that are not there -/

/-- A field that must be there and is not. -/
theorem Lacks.required {fields : List (String × Value)} {name : String}
    (missing : under ⟨name, []⟩ fields = []) : Lacks fields (.required name read) := by
  intro c
  obtain ⟨place, cell⟩ := cellOf_absent (c := c) missing
  refine ⟨place, .fault (.missing name), ?_⟩
  change (cellOf c (placed fields) ⟨name, []⟩).read none read = _
  rw [cell, Cell.read]

theorem Lacks.map {fields : List (String × Value)} {r : Record Cursor (Except Refusal) α}
    (lacks : Lacks fields r) (f : α → β) : Lacks fields (f <$> r) := by
  intro c
  obtain ⟨place, e, failed⟩ := lacks c
  refine ⟨place, e, ?_⟩
  change f <$> r.build (readField c fields) = _
  rw [failed]
  rfl

/-- A record that skips what it does not know is not found in an object that lacks a field. -/
theorem Fails.record {style : Style} {name : String} {r : Record Cursor (Except Refusal) α}
    {ms : List Member?} (skips : style.closed = false) (lacks : Lacks (present ms) r) :
    Fails (Source.record style name r) (.record ms) := by
  intro depth flat
  obtain ⟨k, rfl, -⟩ := nesting_object_le.1 flat
  obtain ⟨place, e, failed⟩ := lacks ⟨k + 1, (Value.record ms).node⟩
  exact ⟨e, (record_object skips name r (present ms) k).trans (congrArg Placed.forget failed)⟩

/-! ### Choices -/

theorem Decodes.firstFrom (decodes : Decodes read v a) :
    Decodes (fun c => Source.firstFrom choice c (read :: reads)) v a := by
  intro depth flat
  have first : Source.attempt Cursor (read ⟨depth, v.node⟩) = .ok (some a) := by
    rw [decodes depth flat]
    rfl
  dsimp only
  rw [Source.firstFrom, first]
  rfl

/-- A reading that fails is followed by the next ones. -/
theorem Decodes.firstFrom_next (fails : Fails read v)
    (decodes : Decodes (fun c => Source.firstFrom choice c reads) v a) :
    Decodes (fun c => Source.firstFrom choice c (read :: reads)) v a := by
  intro depth flat
  obtain ⟨e, failed⟩ := fails depth flat
  have first : Source.attempt Cursor (read ⟨depth, v.node⟩) = .ok none := by
    rw [failed]
    rfl
  dsimp only
  rw [Source.firstFrom, first]
  exact decodes depth flat

theorem Decodes.firstOf (bounded : v.Bounded)
    (decodes : Decodes (fun c => Source.firstFrom choice c reads) v a) :
    Decodes (Source.firstOf choice reads) v a := by
  intro depth flat
  obtain ⟨o, whole⟩ := bounded.succeeds flat
  rw [Source.firstOf, whole]
  exact decodes depth flat

end Podkeeper.Json
