import Podkeeper.Proofs.Interleaving.Files
import Podkeeper.Proofs.Pods.Selection

/-!
Writing volumes that fails.

Which file operation fails is left open, but one that fails does nothing (`Tree.Undergoes`).
Writing the volumes of a pod then stops within one volume, with all volumes before it written and
none behind it touched. Either a file of the volume has no plain name and nothing was done for the
volume, or an operation failed and those before it were done (`Site.failed_within_volume`).
-/

namespace Podkeeper

/-! ### Trees that undergo acts -/

/-- A tree undergoes file operations: one that succeeds works on it, and one that fails leaves it
as it is, whatever made it fail. -/
inductive Tree.Undergoes (root : String) : Tree → List Act → Tree → Prop where
  | nil (t : Tree) : Undergoes root t [] t
  | done {t next u : Tree} {op : FileOp} {acts : List Act} :
    op.apply root t = (next, .ok ()) → Undergoes root next acts u →
    Undergoes root t (Act.filed op :: acts) u
  | failed {t u : Tree} {op : FileOp} {e : FileError} {acts : List Act} :
    Undergoes root t acts u → Undergoes root t (⟨.file op, .error e⟩ :: acts) u

namespace Tree

variable {root : String} {t u : Tree} {acts : List Act} {ops : List FileOp}

/-- Where all succeed, it is as if they were done on the tree alone. -/
theorem undergoes_filed_append :
    Undergoes root t (ops.map Act.filed ++ acts) u ↔
      ∃ next, FilePlan.applyOps root ops t = (next, .ok ()) ∧ Undergoes root next acts u := by
  induction ops generalizing t with
  | nil => simp [FilePlan.applyOps]
  | cons op ops ih =>
      rw [List.map_cons, List.cons_append]
      simp only [FilePlan.applyOps_cons]
      constructor
      · intro underwent
        cases underwent with
        | done applied rest =>
            obtain ⟨next, others, last⟩ := ih.1 rest
            exact ⟨next, ⟨_, applied, others⟩, last⟩
      · rintro ⟨next, ⟨_, applied, others⟩, last⟩
        exact .done applied (ih.2 ⟨next, others, last⟩)

theorem undergoes_filed :
    Undergoes root t (ops.map Act.filed) u ↔ FilePlan.applyOps root ops t = (u, .ok ()) := by
  rw [← List.append_nil (ops.map Act.filed), undergoes_filed_append]
  constructor
  · rintro ⟨next, applied, ended⟩
    cases ended
    exact applied
  · intro applied
    exact ⟨u, applied, .nil u⟩

theorem undergoes_failed {op : FileOp} {e : FileError} :
    Undergoes root t [⟨.file op, .error e⟩] u ↔ u = t := by
  constructor
  · intro underwent
    cases underwent with
    | failed rest =>
        cases rest
        rfl
  · rintro rfl
    exact .failed (.nil u)

end Tree

/-! ### Trees that answer -/

namespace FilePlan

variable {root : String} {t u : Tree} {ops : List FileOp}

/-- What comes behind an operation that fails is not done. -/
theorem applyOps_of_failed {op : FileOp} {e : FileError} {after : List FileOp} {next : Tree}
    (before : applyOps root ops t = (next, .ok ())) (failed : op.apply root next = (u, .error e)) :
    applyOps root (ops ++ op :: after) t = (u, .error (.io (op.path root) e.message)) := by
  induction ops generalizing t with
  | nil =>
      cases before
      rw [List.nil_append, applyOps, failed]
  | cons first ops ih =>
      obtain ⟨t', applied, rest⟩ := applyOps_cons.1 before
      rw [List.cons_append, applyOps, applied]
      exact ih rest

theorem applyOps_of_answers (told : t.Answers root (ops.map Act.filed)) :
    applyOps root ops t = (t.afterActs root (ops.map Act.filed), .ok ()) := by
  induction ops generalizing t with
  | nil => rfl
  | cons op ops ih =>
      obtain ⟨first, rest⟩ := told
      have answered : (op.apply root t).2 = .ok () := first.symm
      exact applyOps_cons.2 ⟨_, Prod.ext rfl answered, ih rest⟩

end FilePlan

/-- Where a tree gives all answers, to write volumes is to carry their plan out on the tree. -/
theorem Site.apply_of_answers {site : Site} {plan : FilePlan} {t : Tree} {acts : List Act}
    {r : Except Failure (List String)}
    (yields : Program.Yields (site.writeVolumes plan).run acts r)
    (told : t.Answers site.dataRoot acts) :
    plan.apply site.dataRoot t = (t.afterActs site.dataRoot acts, r) := by
  rw [FilePlan.apply]
  rcases yields_writeVolumes yields with
    ⟨rfl, ⟨o, objected, rfl⟩ | ⟨free, rfl⟩⟩ | ⟨before, op, after, e, split, rfl, rfl⟩
  · rw [FilePlan.applyOps_of_answers told, objected]
  · rw [FilePlan.applyOps_of_answers told, free]
  · obtain ⟨first, last⟩ := Tree.answers_concat.1 told
    have failed : op.apply site.dataRoot (t.afterActs site.dataRoot (before.map Act.filed)) =
        (_, .error e) := Prod.ext rfl last.symm
    rw [split, FilePlan.applyOps_of_failed (FilePlan.applyOps_of_answers first) failed,
      Tree.afterActs_concat]
    rfl

/-! ### Volumes up to a point -/

/-- An element of a list that was made piece by piece stands in one piece. -/
theorem exists_piece {α β : Type} {f : α → List β} {xs : List α} {before after : List β} {b : β}
    (split : xs.flatMap f = before ++ b :: after) :
    ∃ front x back done rest, xs = front ++ x :: back ∧ f x = done ++ b :: rest ∧
      before = front.flatMap f ++ done := by
  induction xs generalizing before with
  | nil => simp at split
  | cons x xs ih =>
      rw [List.flatMap_cons] at split
      rcases List.append_eq_append_iff.1 split with ⟨more, rfl, later⟩ | ⟨more, own, later⟩
      · obtain ⟨front, y, back, done, rest, rfl, piece, rfl⟩ := ih later
        exact ⟨x :: front, y, back, done, rest, rfl, piece, by simp⟩
      · cases more with
        | nil =>
            have next : xs.flatMap f = [] ++ b :: after := by simpa using later.symm
            obtain ⟨front, y, back, done, rest, rfl, piece, whole⟩ := ih next
            refine ⟨x :: front, y, back, done, rest, rfl, piece, ?_⟩
            rw [List.flatMap_cons, List.append_assoc, ← whole]
            simpa using own.symm
        | cons c rest =>
            obtain ⟨rfl, -⟩ := List.cons.inj later
            exact ⟨[], x, xs, before, rest, rfl, own, rfl⟩

namespace Pod

variable {p : Pod} {bundles : List Bundle} {root : String} {t u : Tree}
  {front back : List VolumePlan}

/-- A pod with other volumes. -/
def withVolumes (p : Pod) (volumes : List Volume) : Pod :=
  { p with spec := { p.spec with volumes := volumes } }

/-- A plan among those of a pod is that of one of its volumes, and those before it are of volumes
before. -/
theorem exists_volume {plan : VolumePlan} (split : p.plans bundles = front ++ plan :: back) :
    ∃ before v after, p.spec.volumes = before ++ v :: after ∧
      v.plan? p.ns bundles = some plan ∧ (p.withVolumes before).plans bundles = front := by
  obtain ⟨first, others, whole, fronts, rest⟩ := List.filterMap_eq_append_iff.1 split
  obtain ⟨idle, v, after, rfl, unplanned, planned, -⟩ := List.filterMap_eq_cons_iff.1 rest
  refine ⟨first ++ idle, v, after, by rw [whole, List.append_assoc], planned, ?_⟩
  have none_idle : idle.filterMap (Volume.plan? p.ns bundles) = [] :=
    List.filterMap_eq_nil_iff.2 unplanned
  change (first ++ idle).filterMap (Volume.plan? p.ns bundles) = front
  rw [List.filterMap_append, fronts, none_idle, List.append_nil]

/-- What is done for a volume that is objected to, or of which an operation fails, comes behind what
is done for all volumes before it. -/
theorem exists_volume_of_objection {o : Objection}
    (objected : (p.filePlan bundles).objection = some o) :
    ∃ front plan back, p.plans bundles = front ++ plan :: back ∧
      (∀ v ∈ front, v.objection? = none) ∧ plan.objection? = some o ∧
      (p.filePlan bundles).ops = front.flatMap VolumePlan.ops := by
  rw [filePlan, FilePlan.ofVolumes_eq, List.findSome?_eq_some_iff] at objected
  obtain ⟨front, plan, back, split, reason, free⟩ := objected
  refine ⟨front, plan, back, split, free, reason, ?_⟩
  have carried : FilePlan.carried (front ++ plan :: back) = front := by
    rw [FilePlan.carried, List.takeWhile_append_of_pos fun v member => by rw [free v member]; rfl]
    simp [reason]
  rw [filePlan, FilePlan.ofVolumes_eq, split, carried]

theorem exists_volume_of_op {before after : List FileOp} {op : FileOp}
    (split : (p.filePlan bundles).ops = before ++ op :: after) :
    ∃ front plan back done rest, p.plans bundles = front ++ plan :: back ∧
      (∀ v ∈ front, v.objection? = none) ∧ plan.objection? = none ∧
      plan.ops = done ++ op :: rest ∧ before = front.flatMap VolumePlan.ops ++ done := by
  rw [filePlan, FilePlan.ofVolumes_eq] at split
  obtain ⟨front, plan, back, done, rest, carried, piece, whole⟩ := exists_piece split
  have free : ∀ v ∈ front ++ plan :: back, v.objection? = none := by
    intro v member
    rw [← carried] at member
    exact Option.isNone_iff_eq_none.1
      (List.mem_takeWhile_imp (p := fun v : VolumePlan => v.objection?.isNone) member)
  have all : FilePlan.carried (p.plans bundles) ++ _ = p.plans bundles :=
    List.takeWhile_append_dropWhile
  refine ⟨front, plan, back ++ (p.plans bundles).dropWhile fun v => v.objection?.isNone, done, rest,
    ?_, fun v member => free v (List.mem_append_left _ member),
    free plan (List.mem_append_right _ List.mem_cons_self), piece, whole⟩
  rw [← List.cons_append, ← List.append_assoc, ← carried]
  exact all.symm

/-- The plan for a pod none of whose volumes is objected to. -/
theorem filePlan_of_plans (planned : p.plans bundles = front)
    (free : ∀ v ∈ front, v.objection? = none) :
    p.filePlan bundles = ⟨front.flatMap VolumePlan.ops, none⟩ := by
  have unobjected : (p.filePlan bundles).objection = none := by
    rw [filePlan, FilePlan.ofVolumes_eq, List.findSome?_eq_none_iff]
    exact fun v member => free v (planned ▸ member)
  rw [← planned, ← (filePlan_of_free unobjected).1, ← unobjected]

end Pod

namespace Site

open Program

variable {site : Site} {p : Pod} {bundles : List Bundle} {t t' : Tree} {acts : List Act}
  {f : Failure}

/-! ### Failures -/

/-- How writing the volumes of a pod stops that fails: it is at one volume that something is done
for, and all volumes before it are written as for a pod that has only those. -/
inductive StopsWriting (site : Site) (p : Pod) (bundles : List Bundle) (t : Tree) :
    List Act → Tree → Failure → Prop where
  /-- A file of the volume has no plain name, the first one or another. Nothing is done for the
  volume. -/
  | objected {before after : List Volume} {v : Volume} {plan : VolumePlan} {earlier : Tree}
    {written : List String} {file : VolumeFile} :
    p.spec.volumes = before ++ v :: after → v.plan? p.ns bundles = some plan →
    ((p.withVolumes before).filePlan bundles).apply site.dataRoot t = (earlier, .ok written) →
    plan.files.find? (fun g => !Path.isPlainName g.name) = some file →
    StopsWriting site p bundles t (((p.withVolumes before).filePlan bundles).ops.map Act.filed)
      earlier (.invalid (.fileName file.name))
  /-- All names are plain, and an operation for the volume fails. Those before it are done. -/
  | failed {before after : List Volume} {v : Volume} {plan : VolumePlan} {earlier t' : Tree}
    {written : List String} {done rest : List FileOp} {op : FileOp} {e : FileError} :
    p.spec.volumes = before ++ v :: after → v.plan? p.ns bundles = some plan →
    ((p.withVolumes before).filePlan bundles).apply site.dataRoot t = (earlier, .ok written) →
    (∀ file ∈ plan.files, Path.isPlainName file.name = true) →
    plan.ops = done ++ op :: rest →
    FilePlan.applyOps site.dataRoot done earlier = (t', .ok ()) →
    StopsWriting site p bundles t
      ((((p.withVolumes before).filePlan bundles).ops ++ done).map Act.filed ++
        [⟨.file op, .error e⟩])
      t' (.io (op.path site.dataRoot) e.message)

/-- Writing the volumes of a pod that fails, with operations that do nothing when they fail, stops
within one volume. -/
theorem failed_within_volume
    (failed : Yields (site.writeVolumes (p.filePlan bundles)).run acts (.error f))
    (underwent : Tree.Undergoes site.dataRoot t acts t') :
    StopsWriting site p bundles t acts t' f := by
  rcases yields_writeVolumes failed with
    ⟨rfl, ⟨o, objected, same⟩ | ⟨-, same⟩⟩ | ⟨before', op, after', e, split, rfl, same⟩
  · cases same
    obtain ⟨front, plan, back, plans, free, reason, ops⟩ := Pod.exists_volume_of_objection objected
    obtain ⟨before, v, after, volumes, planned, fronts⟩ := Pod.exists_volume plans
    obtain ⟨file, found, rfl⟩ := Option.map_eq_some_iff.1 reason
    have only := Pod.filePlan_of_plans fronts free
    have same : (p.filePlan bundles).ops = ((p.withVolumes before).filePlan bundles).ops := by
      rw [ops, only]
    rw [same] at underwent ⊢
    have first := FilePlan.apply_eq_ok.2 ⟨Tree.undergoes_filed.1 underwent, by rw [only], rfl⟩
    exact .objected volumes planned first found
  · cases same
  · cases same
    obtain ⟨front, plan, back, done, rest, plans, free, plain, piece, rfl⟩ :=
      Pod.exists_volume_of_op split
    obtain ⟨before, v, after, volumes, planned, fronts⟩ := Pod.exists_volume plans
    have only := Pod.filePlan_of_plans fronts free
    have same : front.flatMap VolumePlan.ops = ((p.withVolumes before).filePlan bundles).ops := by
      rw [only]
    rw [same] at underwent ⊢
    obtain ⟨last, succeeded, ended⟩ := Tree.undergoes_filed_append.1 underwent
    obtain ⟨earlier, first, later⟩ := FilePlan.applyOps_append.1 succeeded
    have first := FilePlan.apply_eq_ok.2 ⟨first, by rw [only], rfl⟩
    rw [Tree.undergoes_failed.1 ended]
    exact .failed volumes planned first (fun file => VolumePlan.isPlainName_of_mem plain) piece
      later

/-- A file of the first volume has a mode that does not admit to write it for the second one. -/
theorem overlapping_volumes_denied :
    let site : Site := ⟨"/srv", false⟩
    let p := Pod.overlapping 0o400
    let done : List FileOp :=
      [.makeDirectories "ns-app", .write "ns-app" "a" (Utf8.ofString "2"),
        .setMode "ns-app" "a" 0o400, .makeDirectories "ns-app"]
    let denied : Act := ⟨.file (.write "ns-app" "a" (Utf8.ofString "1")), .error .denied⟩
    let left : Tree :=
      ⟨.ofList [("srv", .directory), ("srv/ns-app", .directory),
        ("srv/ns-app/a", .file 0o400 (Utf8.ofString "2"))], true⟩
    let failure : Failure := .io "/srv/ns-app/a" FileError.denied.message
    Yields (site.writeVolumes (p.filePlan [Pod.twoKeys])).run (done.map Act.filed ++ [denied])
        (.error failure) ∧
      Tree.Undergoes site.dataRoot ∅ (done.map Act.filed ++ [denied]) left ∧
      StopsWriting site p [Pod.twoKeys] ∅ (done.map Act.filed ++ [denied]) left failure := by
  intro site p done denied left failure
  have plan : p.filePlan [Pod.twoKeys] =
      ⟨done ++ [.write "ns-app" "a" (Utf8.ofString "1"), .write "ns-app" "b" (Utf8.ofString "2")],
        none⟩ := by
    decide +kernel
  have path : failure = .io ((FileOp.write "ns-app" "a" (Utf8.ofString "1")).path site.dataRoot)
      FileError.denied.message := by
    decide +kernel
  have failed : Yields (site.writeVolumes (p.filePlan [Pod.twoKeys])).run
      (done.map Act.filed ++ [denied]) (.error failure) := by
    rw [plan, path]
    exact ⟨_, rfl, _, rfl, _, rfl, _, rfl, _, rfl, rfl⟩
  have succeeded : FilePlan.applyOps site.dataRoot done ∅ = (left, .ok ()) := by decide +kernel
  have underwent : Tree.Undergoes site.dataRoot ∅ (done.map Act.filed ++ [denied]) left :=
    Tree.undergoes_filed_append.2 ⟨left, succeeded, Tree.undergoes_failed.2 rfl⟩
  exact ⟨failed, underwent, failed_within_volume failed underwent⟩

end Site

end Podkeeper
