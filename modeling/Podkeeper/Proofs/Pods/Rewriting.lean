import Podkeeper.Proofs.Pods.Selection

/-!
Writing the volumes of a pod again.

What has been written can be written again where modes do not bind, and nothing changes by it: the
directories are there, the last file at each place is the same, and so is the last mode, which the
file has already if there is none (`Pod.rewritten_unchanged`). It is not so where modes bind, since
a file may have got a mode that does not admit writing.
-/

namespace Podkeeper

/-- Maps that answer every look-up alike are equal. -/
theorem KeyMap.ext_get? {β : Type} {m m' : KeyMap β} (alike : ∀ k, m.get? k = m'.get? k) :
    m = m' := by
  have ordered (m : KeyMap β) : m.keys.Pairwise (· < ·) := List.pairwise_map.2 m.increasing
  have keys : m.keys = m'.keys := (ordered m).eq_of_mem_iff (ordered m') fun k => by
    rw [mem_keys_iff, mem_keys_iff, alike]
  refine ext ?_
  rw [entries_eq m, entries_eq m', keys]
  exact List.filterMap_congr fun k _ => by rw [alike]

namespace Pod

variable {p : Pod} {bundles : List Bundle} {root : String} {t t' u : Tree} {written : List String}

/-- What is left behind a second time is what was left behind at first. -/
theorem Wrote.unchanged (first : p.Wrote bundles root t t') (second : p.Wrote bundles root t' u)
    (place : String) : u.entries.get? place = t'.entries.get? place := by
  cases ends : (p.selectedAt bundles root place).getLast? with
  | some last =>
      rw [second.files place last ends, first.files place last ends]
      cases Selected.lastMode? (p.selectedAt bundles root place) <;> rfl
  | none =>
      rcases second.others place (List.getLast?_eq_none_iff.1 ends) with same | ⟨on, free, -⟩
      · exact same
      · exact absurd ((first.directories place on).symm.trans free) (by simp)

/-- Where modes do not bind, the volumes of a pod can be written again at once. The same files are
given, and the tree stays as it is. -/
theorem rewritten_unchanged (unbound : t.modesBind = false)
    (first : (p.filePlan bundles).apply root t = (t', .ok written)) :
    (p.filePlan bundles).apply root t' = (t', .ok written) := by
  obtain ⟨ok, free, rfl⟩ := FilePlan.apply_eq_ok.1 first
  have done := FilePlan.done_of_ok ok
  have unbound' : t'.modesBind = false := done.modesBind.trans unbound
  obtain ⟨u, again⟩ := FilePlan.applyOps_of_settled done.settled unbound'
  have entries : u.entries = t'.entries :=
    KeyMap.ext_get? ((wrote_of_ok free ok).unchanged (wrote_of_ok free again))
  have modes : u.modesBind = t'.modesBind := (FilePlan.done_of_ok again).modesBind
  have same : u = t' := by
    cases u
    cases t'
    cases entries
    cases modes
    rfl
  exact FilePlan.apply_eq_ok.2 ⟨same ▸ again, free, rfl⟩

/-- Files are written again although their mode does not admit it. -/
theorem overlapping_volumes_rewritten :
    let plan := (overlapping 0o400).filePlan [twoKeys]
    let t : Tree := ⟨.ofList [("srv", .directory), ("srv/kept", .file 0o600 [])], false⟩
    let t' := (plan.apply "/srv" t).1
    t'.entries.get? "srv/ns-app/a" = some (.file 0o400 (Utf8.ofString "1")) ∧
      plan.apply "/srv" t' = (t', .ok ["ns-app/a", "ns-app/a", "ns-app/b"]) := by
  intro plan t t'
  have first : plan.apply "/srv" t = (t', .ok ["ns-app/a", "ns-app/a", "ns-app/b"]) :=
    Prod.ext rfl (by decide +kernel)
  exact ⟨by decide +kernel, rewritten_unchanged rfl first⟩

/-- Where modes bind, the file that was written first cannot be written again. -/
example : ((overlapping 0o400).filePlan [twoKeys]).apply "/srv" ∅ =
    (⟨.ofList [("srv", .directory), ("srv/ns-app", .directory),
        ("srv/ns-app/a", .file 0o400 (Utf8.ofString "2"))], true⟩,
      .error (.io "/srv/ns-app/a" FileError.denied.message)) := by
  decide +kernel

end Pod

end Podkeeper
