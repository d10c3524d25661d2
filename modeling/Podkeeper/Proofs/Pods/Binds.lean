import Podkeeper.Proofs.Pods.Mounts

/-!
What the engine reads from the mount that it is given.

The engine cuts a mount at its first colon: the host side stands before it, and the path in the
container behind it. With a second colon, what stands behind that one is read as options. The check
of a pod lets colons pass in the name of a mount's volume, in its sub-path and in its path. So the
engine reads the mount that was declared exactly if there is none in any of the three
(`bind_reads_mount_iff`), and there are admitted pods of which it reads something else
(`bind_reads_other_mount`).
-/

namespace Podkeeper

namespace Mount

variable {ns : String} {m : Mount}

/-- No colon stands in what makes up the host side of a mount. -/
structure HasPlainHost (m : Mount) : Prop where
  volume : ':' ∉ m.volume.toList
  subPath : ∀ subPath, m.subPath = some subPath → ':' ∉ subPath.toList

/-- Everything in the volume's name and in the sub-path is in the host side. -/
theorem hasPlainHost_iff (label : Name.checkLabel "namespace" ns = .ok ()) :
    m.HasPlainHost ↔ ':' ∉ (m.host ns).toList := by
  constructor
  · intro plain
    exact colon_notMem_host label plain.volume plain.subPath
  · intro plain
    constructor
    · intro member
      apply plain
      rcases host_eq ns m with same | ⟨subPath, -, same⟩
      · simp [same, directoryName, member]
      · simp [same, directoryName, member]
    · intro subPath given member
      apply plain
      have filled : subPath ≠ "" := by
        rintro rfl
        cases member
      simp [host, given, filled, member]

end Mount

namespace Engine

/-- The engine reads a mount from a bind: the bind has one colon, between the host side under the
root and the path in the container. -/
structure Reads (root ns : String) (m : Mount) (bind : String) : Prop where
  colon : bind.toList.count ':' = 1
  parts : splitColon? bind.toList = some ((Path.join root (m.host ns)).toList, m.path.toList)

variable {root ns : String} {m : Mount}

theorem count_append_colon {front : List Char} (plain : ':' ∉ front) (target : List Char) :
    (front ++ ':' :: target).count ':' = target.count ':' + 1 := by
  rw [List.count_append, List.count_eq_zero.2 plain, List.count_cons_self, Nat.zero_add]

/-- Putting a mount under a root without colons neither brings nor takes one. -/
theorem count_anchorMount (label : Name.checkLabel "namespace" ns = .ok ()) (m : Mount)
    (rootPlain : ':' ∉ root.toList) :
    (anchorMount root (m.spec ns)).toList.count ':' =
      (m.host ns).toList.count ':' + (m.path.toList.count ':' + 1) := by
  obtain ⟨target, plain, joined, whole, anchored⟩ := exists_target_anchorMount
    (Mount.colon_mem_spec ns m) rootPlain (Mount.relative_hostSide label m)
  calc (anchorMount root (m.spec ns)).toList.count ':'
      = target.count ':' + 1 := by rw [anchored, count_append_colon joined]
    _ = (m.spec ns).toList.count ':' := by rw [whole, count_append_colon plain]
    _ = (m.host ns).toList.count ':' + (m.path.toList.count ':' + 1) := by
        rw [Mount.toList_spec, List.count_append, List.count_cons_self]

/-- The bind has one colon exactly if there is none in what it is made of. -/
theorem count_anchorMount_eq_one_iff (label : Name.checkLabel "namespace" ns = .ok ()) (m : Mount)
    (rootPlain : ':' ∉ root.toList) :
    (anchorMount root (m.spec ns)).toList.count ':' = 1 ↔
      m.HasPlainHost ∧ ':' ∉ m.path.toList := by
  rw [count_anchorMount label m rootPlain, Mount.hasPlainHost_iff label, ← List.count_eq_zero,
    ← List.count_eq_zero]
  omega

/-- The bind is cut into host side and path exactly if there is no colon in the host side. What the
path is does not matter. -/
theorem splitColon?_anchorMount_iff (label : Name.checkLabel "namespace" ns = .ok ()) (m : Mount)
    (rootPlain : ':' ∉ root.toList) :
    splitColon? (anchorMount root (m.spec ns)).toList =
        some ((Path.join root (m.host ns)).toList, m.path.toList) ↔ m.HasPlainHost := by
  obtain ⟨target, plain, joined, whole, anchored⟩ := exists_target_anchorMount
    (Mount.colon_mem_spec ns m) rootPlain (Mount.relative_hostSide label m)
  rw [Mount.toList_spec] at whole
  rw [anchored, splitColon?_append joined, Mount.hasPlainHost_iff label]
  constructor
  · intro same
    obtain ⟨-, path⟩ := Prod.mk.inj (Option.some.inj same)
    have host : (m.host ns).toList = (hostSide (m.spec ns)).toList := by
      rw [path] at whole
      exact List.append_cancel_right whole
    rw [host]
    exact plain
  · intro plainHost
    have host := Mount.hostSide_spec plainHost
    rw [host] at whole ⊢
    obtain ⟨-, path⟩ := List.cons.inj (List.append_cancel_left whole)
    rw [path]

/-- What the engine reads from the binds of an admitted pod, whatever the data root is: the mount
that was declared exactly if the volume's name, the sub-path and the path have no colon. With one in
the path alone the bind would still be cut rightly, but the rest of the path is read as options. -/
theorem bind_reads_mount_iff {p : Pod} (admitted : p.check = .ok ()) (m : Mount) {root : String}
    (rootPlain : ':' ∉ root.toList) :
    (Reads root p.ns m (anchorMount root (m.spec p.ns)) ↔
      m.HasPlainHost ∧ ':' ∉ m.path.toList) ∧
    (splitColon? (anchorMount root (m.spec p.ns)).toList =
        some ((Path.join root (m.host p.ns)).toList, m.path.toList) ↔ m.HasPlainHost) := by
  have label : Name.checkLabel "namespace" p.ns = .ok () := Pod.namespace_of_check admitted
  have cut := splitColon?_anchorMount_iff label m rootPlain
  refine ⟨?_, cut⟩
  constructor
  · intro reads
    exact (count_anchorMount_eq_one_iff label m rootPlain).1 reads.colon
  · intro plain
    exact ⟨(count_anchorMount_eq_one_iff label m rootPlain).2 plain, cut.2 plain.1⟩

theorem bind_reads_data_mount :
    let m : Mount := ⟨"data", "/m", some "a/b", false⟩
    let bind := anchorMount "/srv" (m.spec "ns")
    bind = "/srv/ns-data/a/b:/m" ∧ Reads "/srv" "ns" m bind := by
  intro m bind
  have admitted : (Pod.mounting m).check = .ok () := by decide +kernel
  have plain : m.HasPlainHost := by
    constructor
    · decide
    · rintro _ ⟨⟩
      decide
  have reads : Reads "/srv" "ns" m bind :=
    (bind_reads_mount_iff admitted m (by decide)).1.2 ⟨plain, by decide⟩
  exact ⟨by decide +kernel, reads⟩

/-- A path with a colon is admitted, and the engine takes what stands behind the colon for options
of the mount. -/
theorem bind_reads_other_mount :
    ¬ ∀ (p : Pod) (c : Container) (m : Mount) (root : String), p.check = .ok () →
      c ∈ p.spec.initContainers ++ p.spec.containers → m ∈ c.mounts →
      Path.isAbsolute root = true → ':' ∉ root.toList →
      Reads root p.ns m (anchorMount root (m.spec p.ns)) := by
  intro always
  let m : Mount := ⟨"data", "/m:ro", none, false⟩
  have admitted : (Pod.mounting m).check = .ok () := by decide +kernel
  have bind : anchorMount "/srv" (m.spec "ns") = "/srv/ns-data:/m:ro" := by decide +kernel
  have reads := always (Pod.mounting m) _ m "/srv" admitted (List.mem_singleton_self _)
    (List.mem_singleton_self m) (by decide +kernel) (by decide)
  rw [show (Pod.mounting m).ns = "ns" from rfl, bind] at reads
  exact absurd reads.colon (by decide +kernel)

end Engine

end Podkeeper
