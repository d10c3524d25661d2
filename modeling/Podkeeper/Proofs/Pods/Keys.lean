import Mathlib.Data.List.Dedup
import Mathlib.Data.List.Sort
import Podkeeper.Pod.Bundle
import Podkeeper.Proofs.Text.Order

/-!
The keys of config maps.

A config map has a key if it has a text or bytes under it, and the text counts. Its entries, all
merged, hold what is found key by key (`ConfigMap.get?_entries`), each key once and in the order of
the bytes of keys (`ConfigMap.entries_eq`).
-/

namespace Podkeeper

/-! ### Maps laid over each other -/

namespace KeyMap

variable {α β : Type}

theorem lookup_eq_none {k : String} {l : List (String × β)} (absent : ∀ e ∈ l, e.1 ≠ k) :
    lookup k l = none := by
  induction l with
  | nil => rfl
  | cons e rest ih =>
      obtain ⟨first, others⟩ := List.forall_mem_cons.1 absent
      rw [lookup, if_neg (Ne.symm first), ih others]

/-- Entries with keys of their own are found before those of the map that they are put into. -/
theorem get?_foldl_insert (f : α → β) {l : List (String × α)}
    (increasing : l.Pairwise fun a b => a.1 < b.1) (m : KeyMap β) (k : String) :
    (l.foldl (fun m e => m.insert e.1 (f e.2)) m).get? k = ((lookup k l).map f).or (m.get? k) := by
  induction l generalizing m with
  | nil => rfl
  | cons e rest ih =>
      obtain ⟨above, tail⟩ := List.pairwise_cons.1 increasing
      rw [List.foldl_cons, ih tail, get?_insert, lookup]
      by_cases hit : k = e.1
      · subst hit
        have absent : lookup e.1 rest = none :=
          lookup_eq_none fun e' member same => String.lt_irrefl e.1 (same ▸ above e' member)
        simp [absent]
      · simp [hit]

/-- The entries of a map are its keys with what is found there. -/
theorem entries_eq (m : KeyMap β) :
    m.entries = m.keys.filterMap fun k => (m.get? k).map fun v => (k, v) := by
  rw [keys, List.filterMap_map]
  calc m.entries
      = m.entries.filterMap some := List.filterMap_some.symm
    _ = _ := List.filterMap_congr fun e member => by
        rw [Function.comp_apply, get?_eq_some_iff.2 member]
        rfl

end KeyMap

/-! ### Keys of a config map -/

theorem Utf8.ofString_le_iff {s t : String} : ofString s ≤ ofString t ↔ s ≤ t := by
  rw [← List.not_lt, ofString_lt_iff, String.not_lt]

namespace ConfigMap

/-- The keys of texts and of bytes, each of them once, in the order of their bytes. -/
def keys (c : ConfigMap) : List String :=
  (c.data.keys ++ c.binaryData.keys).dedup.insertionSort
    fun s t => Utf8.ofString s ≤ Utf8.ofString t

/-- An entry holds the text under its key, and the bytes where there is no text. -/
theorem get?_entries (c : ConfigMap) (key : String) : c.entries.get? key = c.get? key :=
  KeyMap.get?_foldl_insert Utf8.ofString c.data.increasing c.binaryData key

theorem mem_keys {c : ConfigMap} {key : String} : key ∈ c.keys ↔ (c.get? key).isSome := by
  simp [keys, get?, KeyMap.mem_keys_iff]

/-- Keys are in strictly increasing order of their bytes. -/
theorem pairwise_keys (c : ConfigMap) : c.keys.Pairwise (· < ·) := by
  let _ : Std.Total fun s t : String => Utf8.ofString s ≤ Utf8.ofString t :=
    ⟨fun s t => by simpa only [Utf8.ofString_le_iff] using String.le_total s t⟩
  let _ : IsTrans String fun s t => Utf8.ofString s ≤ Utf8.ofString t :=
    ⟨fun r s t => by simpa only [Utf8.ofString_le_iff] using String.le_trans⟩
  have ordered := List.pairwise_insertionSort (fun s t => Utf8.ofString s ≤ Utf8.ofString t)
    (c.data.keys ++ c.binaryData.keys).dedup
  have nodup : c.keys.Nodup := (List.perm_insertionSort _ _).nodup_iff.2 (List.nodup_dedup _)
  exact (ordered.and nodup).imp fun both => lt_of_le_of_ne (Utf8.ofString_le_iff.1 both.1) both.2

/-- The merged entries are the keys with what is found there, in the order of the keys. -/
theorem entries_eq (c : ConfigMap) :
    c.entries.entries = c.keys.filterMap fun key => (c.get? key).map fun bytes => (key, bytes) := by
  have ordered : c.entries.keys.Pairwise (· < ·) := List.pairwise_map.2 c.entries.increasing
  have same : c.entries.keys = c.keys :=
    ordered.eq_of_mem_iff c.pairwise_keys fun key => by
      rw [KeyMap.mem_keys_iff, get?_entries, mem_keys]
  rw [KeyMap.entries_eq, same]
  exact List.filterMap_congr fun key _ => by rw [get?_entries]

end ConfigMap

end Podkeeper
