/-
Maps with text keys.

The entries stand in a list in strictly increasing order of their keys, and the order is part of
the type: a key occurs once, and two maps that answer every look-up alike are equal. Keys compare
by code points, which is also the order of their bytes.
-/

namespace Podkeeper

/-- A finite map from text, its entries in increasing order of keys. -/
structure KeyMap (β : Type) where
  entries : List (String × β)
  increasing : entries.Pairwise (fun a b => a.1 < b.1)

namespace KeyMap

variable {β γ : Type}

/-! ### Equality -/

theorem ext {m₁ m₂ : KeyMap β} (h : m₁.entries = m₂.entries) : m₁ = m₂ := by
  cases m₁; cases m₂; cases h; rfl

instance [DecidableEq β] : DecidableEq (KeyMap β) := fun m₁ m₂ =>
  if h : m₁.entries = m₂.entries then .isTrue (ext h)
  else .isFalse fun e => h (e ▸ rfl)

instance [Repr β] : Repr (KeyMap β) := ⟨fun m n => reprPrec m.entries n⟩

/-! ### Operations -/

/-- The map without entries. -/
def empty : KeyMap β := ⟨[], .nil⟩

instance : EmptyCollection (KeyMap β) := ⟨empty⟩

instance : Inhabited (KeyMap β) := ⟨empty⟩

def isEmpty (m : KeyMap β) : Bool := m.entries.isEmpty

def size (m : KeyMap β) : Nat := m.entries.length

/-- The keys, in increasing order. -/
def keys (m : KeyMap β) : List String := m.entries.map (·.1)

/-- The value of the first entry with the key. -/
def lookup (k : String) : List (String × β) → Option β
  | [] => none
  | (k', v) :: rest => if k = k' then some v else lookup k rest

def get? (m : KeyMap β) (k : String) : Option β := lookup k m.entries

def contains (m : KeyMap β) (k : String) : Bool := (m.get? k).isSome

/-- Puts an entry in its place; an entry with the same key is replaced. -/
def insertEntry (k : String) (v : β) : List (String × β) → List (String × β)
  | [] => [(k, v)]
  | (k', v') :: rest =>
    if k < k' then (k, v) :: (k', v') :: rest
    else if k = k' then (k, v) :: rest
    else (k', v') :: insertEntry k v rest

theorem mem_insertEntry {k : String} {v : β} {l : List (String × β)} {e : String × β}
    (h : e ∈ insertEntry k v l) : e = (k, v) ∨ e ∈ l := by
  induction l with
  | nil => simpa [insertEntry] using h
  | cons e' rest ih =>
    obtain ⟨k', v'⟩ := e'
    simp only [insertEntry] at h
    split at h
    · simpa using h
    · split at h
      · rcases List.mem_cons.1 h with h | h
        · exact .inl h
        · exact .inr (List.mem_cons_of_mem _ h)
      · rcases List.mem_cons.1 h with h | h
        · exact .inr (h ▸ List.mem_cons_self)
        · rcases ih h with h | h
          · exact .inl h
          · exact .inr (List.mem_cons_of_mem _ h)

theorem pairwise_insertEntry {k : String} {v : β} {l : List (String × β)}
    (h : l.Pairwise (fun a b => a.1 < b.1)) :
    (insertEntry k v l).Pairwise (fun a b => a.1 < b.1) := by
  induction l with
  | nil => simp [insertEntry]
  | cons e rest ih =>
    obtain ⟨k', v'⟩ := e
    have ⟨hhead, htail⟩ := List.pairwise_cons.1 h
    simp only [insertEntry]
    split
    · rename_i hlt
      refine List.pairwise_cons.2 ⟨fun e he => ?_, h⟩
      rcases List.mem_cons.1 he with he | he
      · exact he ▸ hlt
      · exact String.lt_trans hlt (hhead e he)
    · split
      · rename_i hnlt heq
        subst heq
        exact List.pairwise_cons.2 ⟨fun e he => hhead e he, htail⟩
      · rename_i hnlt hne
        refine List.pairwise_cons.2 ⟨fun e he => ?_, ih htail⟩
        rcases mem_insertEntry he with he | he
        · subst he
          rcases Decidable.em (k' < k) with hlt | hge
          · exact hlt
          · exact absurd (String.le_antisymm (String.not_lt.1 hge) (String.not_lt.1 hnlt)) hne
        · exact hhead e he

/-- Puts a value at a key, replacing the one that is there. -/
def insert (m : KeyMap β) (k : String) (v : β) : KeyMap β :=
  ⟨insertEntry k v m.entries, pairwise_insertEntry m.increasing⟩

/-- Drops the entry at a key. -/
def erase (m : KeyMap β) (k : String) : KeyMap β :=
  ⟨m.entries.filter (fun e => e.1 ≠ k), m.increasing.filter _⟩

/-- Applies a function to every value. -/
def map (f : β → γ) (m : KeyMap β) : KeyMap γ :=
  ⟨m.entries.map fun e => (e.1, f e.2), by
    rw [List.pairwise_map]; exact m.increasing⟩

/-- The map with the given entries; of two with one key the later counts. -/
def ofList (l : List (String × β)) : KeyMap β :=
  l.foldl (fun m e => m.insert e.1 e.2) ∅

/-! ### Look-ups -/

theorem lookup_insertEntry (k k' : String) (v : β) (l : List (String × β)) :
    lookup k' (insertEntry k v l) = if k' = k then some v else lookup k' l := by
  induction l with
  | nil => simp [insertEntry, lookup]
  | cons e rest ih =>
      obtain ⟨j, w⟩ := e
      by_cases before : k < j
      · simp [insertEntry, before, lookup]
      · by_cases same : k = j
        · subst same
          by_cases hit : k' = k <;> simp [insertEntry, lookup, hit]
        · by_cases hit : k' = j
          · subst hit
            simp [insertEntry, before, same, lookup, Ne.symm same]
          · simp [insertEntry, before, same, lookup, hit, ih]

theorem lookup_filter_ne (k k' : String) (l : List (String × β)) :
    lookup k' (l.filter fun e => e.1 ≠ k) = if k' = k then none else lookup k' l := by
  induction l with
  | nil => simp [lookup]
  | cons e rest ih =>
      obtain ⟨j, w⟩ := e
      by_cases same : j = k
      · subst same
        by_cases hit : k' = j <;> simp_all [lookup]
      · by_cases hit : k' = j
        · subst hit
          simp [lookup, same]
        · simp_all [lookup]

theorem lookup_map (f : β → γ) (k : String) (l : List (String × β)) :
    lookup k (l.map fun e => (e.1, f e.2)) = (lookup k l).map f := by
  induction l with
  | nil => rfl
  | cons e rest ih =>
      rw [List.map_cons, lookup, lookup, ih]
      split <;> rfl

theorem lookup_eq_some_iff {k : String} {v : β} {l : List (String × β)}
    (increasing : l.Pairwise fun a b => a.1 < b.1) : lookup k l = some v ↔ (k, v) ∈ l := by
  induction l with
  | nil => simp [lookup]
  | cons e rest ih =>
      obtain ⟨j, w⟩ := e
      obtain ⟨above, tail⟩ := List.pairwise_cons.1 increasing
      by_cases hit : k = j
      · subst hit
        have absent : (k, v) ∉ rest := fun mem => String.lt_irrefl k (above _ mem)
        simp [lookup, absent, eq_comm]
      · simp [lookup, hit, ih tail]

@[simp] theorem get?_empty (k : String) : (∅ : KeyMap β).get? k = none := rfl

theorem get?_insert (m : KeyMap β) (k k' : String) (v : β) :
    (m.insert k v).get? k' = if k' = k then some v else m.get? k' :=
  lookup_insertEntry k k' v m.entries

theorem get?_erase (m : KeyMap β) (k k' : String) :
    (m.erase k).get? k' = if k' = k then none else m.get? k' :=
  lookup_filter_ne k k' m.entries

theorem get?_map (f : β → γ) (m : KeyMap β) (k : String) :
    (m.map f).get? k = (m.get? k).map f := lookup_map f k m.entries

theorem get?_eq_some_iff {m : KeyMap β} {k : String} {v : β} :
    m.get? k = some v ↔ (k, v) ∈ m.entries := lookup_eq_some_iff m.increasing

theorem mem_keys_iff {m : KeyMap β} {k : String} : k ∈ m.keys ↔ (m.get? k).isSome := by
  simp [keys, Option.isSome_iff_exists, get?_eq_some_iff]

theorem nodup_keys (m : KeyMap β) : m.keys.Nodup := by
  refine List.pairwise_map.2 (m.increasing.imp fun {a b} below same => ?_)
  exact String.lt_irrefl b.1 (same ▸ below)

/-! ### Entries in order -/

/-- An entry behind all others is put at the end. -/
theorem insertEntry_of_above {k : String} {v : β} {l : List (String × β)}
    (above : ∀ e ∈ l, e.1 < k) : insertEntry k v l = l ++ [(k, v)] := by
  induction l with
  | nil => rfl
  | cons e rest ih =>
      obtain ⟨j, w⟩ := e
      have below : j < k := above (j, w) List.mem_cons_self
      have other : k ≠ j := fun same => String.lt_irrefl j (same ▸ below)
      rw [insertEntry, if_neg (String.lt_asymm below), if_neg other,
        ih fun e member => above e (List.mem_cons_of_mem _ member), List.cons_append]

theorem foldl_insert_entries {m : KeyMap β} {l : List (String × β)}
    (increasing : (m.entries ++ l).Pairwise fun a b => a.1 < b.1) :
    (l.foldl (fun m e => m.insert e.1 e.2) m).entries = m.entries ++ l := by
  induction l generalizing m with
  | nil => simp
  | cons e rest ih =>
      have above : ∀ e' ∈ m.entries, e'.1 < e.1 := fun e' member =>
        (List.pairwise_append.1 increasing).2.2 e' member e List.mem_cons_self
      have inserted : (m.insert e.1 e.2).entries = m.entries ++ [e] := insertEntry_of_above above
      rw [List.foldl_cons, ih (by simpa [inserted] using increasing), inserted]
      simp

/-- A map is made again from its entries. -/
theorem ofList_entries (m : KeyMap β) : ofList m.entries = m :=
  ext (foldl_insert_entries (m := ∅) m.increasing)

end KeyMap

end Podkeeper
