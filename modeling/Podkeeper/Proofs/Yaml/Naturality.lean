import Mathlib.Control.Basic
import Podkeeper.Yaml.Decode

/-!
What is made of the values of a record.

A reading of a YAML record goes through its fields, and what is made of their values afterwards has
no part in it: of two records with the same labels whose surveys differ by a function on the value,
one is read wherever the other is, and the values differ by that function (`record_of_isMade`).
A default can be taken out of a record in this way. A field that falls back on a value is a field
that may be absent, with the value put in afterwards (`surveyed_optional`).
-/

namespace Podkeeper

open Wire

/-! ### Placed values -/

namespace Wire.Placed

variable {ε α β : Type}

/-- Of three failures the one at the earliest place counts, and of those at one place the first;
in which pairs they are compared does not matter. -/
theorem both_assoc {γ : Type} (g : Placed ε (β → γ)) (f : Placed ε (α → β)) (a : Placed ε α) :
    both g (both f a) = both (both (both (.value Function.comp) g) f) a := by
  cases g <;> cases f <;> cases a <;> grind [both]

instance : LawfulApplicative (Placed ε) where
  map_const := rfl
  id_map x := by cases x <;> rfl
  seqLeft_eq _ _ := rfl
  seqRight_eq _ _ := rfl
  pure_seq _ _ := rfl
  map_pure _ _ := rfl
  seq_pure x a := by cases x <;> rfl
  seq_assoc x f g := both_assoc g f x

theorem forget_map (f : α → β) (p : Placed ε α) : (f <$> p).forget = f <$> p.forget := by
  cases p <;> rfl

end Wire.Placed

/-- A value that a field falls back on can be put in after the field was read. -/
theorem Wire.Cell.read_optional {N ε α : Type} (cell : Cell N ε) (default : α)
    (read : N → Except ε α) :
    cell.read (some default) read =
      (fun given => given.getD default) <$>
        cell.read (some none) fun node => some <$> read node := by
  cases cell with
  | absent place missing => rfl
  | given place node again =>
    simp only [Cell.read]
    cases read node with
    | error e => rfl
    | ok a => cases again <;> rfl

/-! ### Readings -/

namespace Yaml

variable {α β : Type}

namespace Reading

theorem outcome_map (f : α → β) (r : Reading α) (n : Nat) :
    ((f <$> r).run n).1 = f <$> (r.run n).1 := by
  rw [ExceptT.run_map]
  rfl

theorem left_map (f : α → β) (r : Reading α) (n : Nat) : ((f <$> r).run n).2 = (r.run n).2 := by
  rw [ExceptT.run_map]
  rfl

/-- A reading is what it gives and how often aliases may be followed behind it. -/
theorem ext {r r' : Reading α} (outcome : ∀ n, (r.run n).1 = (r'.run n).1)
    (left : ∀ n, (r.run n).2 = (r'.run n).2) : r = r' := by
  apply ExceptT.ext
  funext n
  exact Prod.ext (outcome n) (left n)

theorem outcome_located (path : Path) (r : Reading α) (n : Nat) :
    ((located path r).run n).1 = (r.run n).1.mapError (Refusal.locate path) := by
  unfold located
  rw [ExceptT.run_adapt]
  rfl

theorem left_located (path : Path) (r : Reading α) (n : Nat) :
    ((located path r).run n).2 = (r.run n).2 := by
  rfl

theorem located_map (path : Path) (f : α → β) (r : Reading α) :
    located path (f <$> r) = f <$> located path r := by
  apply ext <;> intro n
  · rw [outcome_located, outcome_map, outcome_map, outcome_located]
    cases (r.run n).1 <;> rfl
  · rw [left_located, left_map, left_map, left_located]

end Reading

/-! ### Surveys -/

namespace Cursor

namespace Survey

attribute [ext] Share

theorem ext {s t : Survey α} (spent : ∀ n, (s n).spent = (t n).spent)
    (outcome : ∀ n, (s n).outcome = (t n).outcome) : s = t := by
  funext n
  exact Share.ext (spent n) (outcome n)

theorem map_apply (f : α → β) (s : Survey α) (n : Nat) :
    (f <$> s) n = ⟨(s n).spent, f <$> (s n).outcome⟩ := rfl

instance : LawfulApplicative Survey where
  map_const := rfl
  id_map s := ext (fun _ => rfl) fun n => id_map (s n).outcome
  seqLeft_eq _ _ := rfl
  seqRight_eq _ _ := rfl
  pure_seq _ _ := rfl
  map_pure _ _ := rfl
  seq_pure s a := ext (fun _ => List.append_nil _) fun n => seq_pure (s n).outcome a
  seq_assoc s f g := ext (fun _ => (List.append_assoc _ _ _).symm) fun n =>
    seq_assoc (s n).outcome (f n).outcome (g n).outcome

theorem field_optional (cell : Cell Cursor Refusal) (default : α) (read : Cursor → Reading α) :
    field cell (some default) read =
      (fun given => given.getD default) <$> field cell (some none) fun c => some <$> read c := by
  cases cell with
  | absent place missing => rfl
  | given place c again =>
    apply ext <;> intro n
    · exact congrArg (fun left => [(place, n - left)]) (Reading.left_map some (read c) n).symm
    · exact (Cell.read_optional (.given place c again) default fun _ => ((read c).run n).1).trans
        (congrArg (fun result => (fun given => given.getD default) <$>
          Cell.read (some none) (fun _ => result) (.given place c again))
          (Reading.outcome_map some (read c) n).symm)

/-- How often aliases were followed up to the place where a part fails. -/
def total (share : Share α) : Nat :=
  let spent := match share.outcome with
    | .value _ => share.spent
    | .failure place _ => share.spent.filter (·.1 ≤ place)
  spent.foldl (fun total (_, times) => total + times) 0

theorem total_map (f : α → β) (share : Share α) :
    total ⟨share.spent, f <$> share.outcome⟩ = total share := by
  unfold total
  cases share.outcome <;> rfl

theorem run_toReading (s : Survey α) (n : Nat) :
    (toReading s).run n = if n < total (s n) then (.error .unreadable, 0)
      else ((s n).outcome.forget, n - total (s n)) := rfl

theorem toReading_map (f : α → β) (s : Survey α) : toReading (f <$> s) = f <$> toReading s := by
  apply Reading.ext <;> intro n
  · rw [Reading.outcome_map, run_toReading, run_toReading, map_apply, total_map, Placed.forget_map]
    split <;> rfl
  · rw [Reading.left_map, run_toReading, run_toReading, map_apply, total_map]
    split <;> rfl

end Survey

/-! ### Records -/

/-- What comes of the fields of a record, given what the mapping holds for each. -/
def surveyed (cell : Label → Cell Cursor Refusal) (r : Record Cursor Reading α) : Survey α :=
  r.build fun _ label default read => .field (cell label) default read

section Surveyed

variable (cell : Label → Cell Cursor Refusal)

theorem surveyed_map (f : α → β) (r : Record Cursor Reading α) :
    surveyed cell (f <$> r) = f <$> surveyed cell r := rfl

theorem surveyed_seq (r : Record Cursor Reading (α → β)) (s : Record Cursor Reading α) :
    surveyed cell (r <*> s) = surveyed cell r <*> surveyed cell s := rfl

/-- A field of which it is told whether the mapping has it. -/
def said (name : String) (read : Cursor → Reading α) : Record Cursor Reading (Option α) :=
  .optional name none fun c => some <$> read c

theorem surveyed_optional (name : String) (default : α) (read : Cursor → Reading α) :
    surveyed cell (.optional name default read) =
      (fun given => given.getD default) <$> surveyed cell (said name read) :=
  Survey.field_optional (cell ⟨name, []⟩) default read

end Surveyed

/-- One record has the fields of another, and a function makes its value from the other's. -/
structure IsMade (f : α → β) (s : Record Cursor Reading α) (r : Record Cursor Reading β) :
    Prop where
  labels : r.labels = s.labels
  value : ∀ cell, surveyed cell r = f <$> surveyed cell s

variable {f : α → β} {s : Record Cursor Reading α} {r : Record Cursor Reading β}

theorem recordOfMembers_of_isMade (made : IsMade f s r) (style : Wire.Style) (c : Cursor)
    (members : List (Nat × Nat)) (isClosed : Bool) :
    c.recordOfMembers style r members isClosed =
      f <$> c.recordOfMembers style s members isClosed := by
  have knows : r.knows = s.knows := by
    funext name
    rw [Record.knows, Record.knows, made.labels]
  have followed (t : Survey Unit) (cell : Label → Cell Cursor Refusal) :
      surveyed cell r <* t = f <$> (surveyed cell s <* t) := by
    rw [made.value]
    simp only [seqLeft_eq, functor_norm]
    rfl
  refine Eq.trans ?_ (Survey.toReading_map f _)
  simp only [recordOfMembers, knows, made.labels]
  apply congrArg Survey.toReading
  funext n
  let keys := (c.numbered members n).map fun m => (m.place, m.spent)
  exact congrArg (fun t : Survey β => Share.mk (keys ++ (t n).spent) (t n).outcome)
    (followed _ (c.cellOf (c.numbered members n)))

theorem mismatch_map (f : α → β) (p : Part) (expected : String) :
    f <$> (mismatch p expected : Reading α) = mismatch p expected := by
  unfold mismatch
  rw [map_bind]
  rfl

theorem record_of_isMade (made : IsMade f s r) (style : Wire.Style) (name : String) (c : Cursor) :
    record style name r c = f <$> record style name s c := by
  unfold record
  rw [map_bind]
  refine bind_congr fun (i, p) => ?_
  rw [← Reading.located_map]
  apply congrArg (Reading.located c.path)
  split
  · rw [map_bind]
    exact bind_congr fun _ => recordOfMembers_of_isMade made ..
  · split
    · exact recordOfMembers_of_isMade made ..
    · exact (mismatch_map f _ _).symm

end Cursor

theorem decode_map (f : α → β) (read : Cursor → Reading α) (bytes : Bytes) :
    decode (fun c => f <$> read c) bytes = f <$> decode read bytes := by
  simp only [decode, Reading.outcome_map]
  generalize ((read _).run _).1 = outcome
  cases outcome with
  | error e => rfl
  | ok a =>
    show ite _ _ _ = f <$> ite _ _ _
    split <;> rfl

end Yaml

end Podkeeper
