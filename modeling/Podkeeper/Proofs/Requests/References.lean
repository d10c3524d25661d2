import Podkeeper.Request.Decode
import Podkeeper.Request.Encode
import Podkeeper.Proofs.Json.Choices
import Podkeeper.Proofs.Pods.Wire

/-!
References are read from every encoding of a pod.

A reference is read as one of two forms, an object under `metadata` or the three texts themselves,
and the first form that fits counts. The whole text must be readable as a value before, so what is
written beside the three texts must be bounded, and it is for every pod. The encoding of a pod has
the first form; that of a reference and that of a status have no `metadata` and so only the second.
-/

namespace Podkeeper

open Wire Json Json.Value

/-! ### Encodings are bounded -/

theorem KeyRef.bounded_encode (k : KeyRef) : k.encode.Bounded := by
  simp [encode]

theorem EnvVar.bounded_encode (v : EnvVar) : v.encode.Bounded := by
  obtain ⟨name, source⟩ := v
  cases source <;> simp [encode, KeyRef.bounded_encode]

theorem Mount.bounded_encode (m : Mount) : m.encode.Bounded := by
  simp [encode]

theorem Container.bounded_encode (c : Container) : c.encode.Bounded := by
  have resources : ∀ e ∈ c.resources.entries, e.2.value.Bounded := fun e _ => e.2.canonical.bounded
  simpa [encode, Mount.bounded_encode, EnvVar.bounded_encode] using resources

theorem KeyPath.bounded_encode (k : KeyPath) : k.encode.Bounded := by
  simp [encode, encodeUInt32]

theorem Projection.bounded_encode (nameField : String) (p : Projection) :
    (p.encode nameField).Bounded := by
  simp [encode, encodeUInt32, KeyPath.bounded_encode]

theorem Scratch.bounded_encode (s : Scratch) : s.encode.Bounded := by
  simp [encode]

theorem Volume.bounded_encode (v : Volume) : v.encode.Bounded := by
  obtain ⟨name, source⟩ := v
  cases source <;> simp [encode, Scratch.bounded_encode, Projection.bounded_encode]

namespace Pod

theorem Metadata.bounded_encode (m : Metadata) : m.encode.Bounded := by
  simp [encode]

theorem Spec.bounded_encode (s : Spec) : s.encode.Bounded := by
  simp [encode, Container.bounded_encode, Volume.bounded_encode]

theorem bounded_encode (p : Pod) : p.encode.Bounded := by
  simp [encode, Metadata.bounded_encode, Spec.bounded_encode]

end Pod

theorem PodRef.bounded_encode (r : PodRef) : r.encode.Bounded := by
  simp [encode]

theorem ContainerState.bounded_encode (s : ContainerState) : s.encode.Bounded := by
  cases s <;> simp [encode, member?, Instant.encode]

theorem PodStatus.bounded_encode (s : PodStatus) : s.encode.Bounded := by
  simp [encode, ContainerStatus.encode, ContainerState.bounded_encode]

/-! ### Encodings of references and statuses are flat -/

theorem PodRef.nesting_encode (r : PodRef) : r.encode.nesting = 1 := rfl

theorem ContainerState.nesting_encode (s : ContainerState) : s.encode.nesting ≤ 2 := by
  cases s <;>
    simp [encode, member?, record, member, nesting, membersNesting, Instant.encode, Value.whole]

theorem ContainerStatus.nesting_encode (s : ContainerStatus) : s.encode.nesting ≤ 3 := by
  have state := s.state.nesting_encode
  change max 0 (max s.state.encode.nesting 0) + 1 ≤ 3
  omega

theorem PodStatus.nesting_encode (s : PodStatus) : s.encode.nesting ≤ 5 := by
  have containers : itemsNesting (s.containers.map ContainerStatus.encode) ≤ 3 :=
    itemsNesting_le.2 (List.forall_mem_map.2 fun c _ => c.nesting_encode)
  change max 0 (max 0 (max 0 (max (nesting (.list (s.containers.map ContainerStatus.encode))) 0))) +
    1 ≤ 5
  rw [nesting]
  omega

/-! ### Reading references -/

namespace PodRef

/-- The three texts are found under `metadata`. -/
theorem decodes_pod (p : Pod) : Decodes read p.encode p.reference := by
  have fields : Decodes readFields p.metadata.encode p.reference :=
    .record rfl <| ((Answers.given (by simp) (.text p.metadata.name)).map mk)
      |>.seq (.given (by simp) (.text p.metadata.ns))
      |>.seq (.given (by simp) (.text p.metadata.uid))
  have object : Decodes readObject p.encode p.reference :=
    .record rfl ((Answers.given (by simp) fields).map id)
  exact .firstOf p.bounded_encode (.firstFrom object)

/-- The three texts are found where there is no `metadata`. -/
theorem decodes_flat {ms : List Member?} {r : PodRef} (bounded : (Value.record ms).Bounded)
    (missing : under ⟨"metadata", []⟩ (present ms) = [])
    (fields : Decodes readFields (.record ms) r) : Decodes read (.record ms) r := by
  have noObject : Fails readObject (.record ms) := .record rfl ((Lacks.required missing).map id)
  exact .firstOf bounded (.firstFrom_next noObject (.firstFrom fields))

theorem decodes_encode (r : PodRef) : Decodes read r.encode r :=
  decodes_flat r.bounded_encode (by simp) <|
    .record rfl <| ((Answers.given (by simp) (.text r.name)).map mk)
      |>.seq (.given (by simp) (.text r.ns))
      |>.seq (.given (by simp) (.text r.uid))

theorem decodes_status (s : PodStatus) : Decodes read s.encode ⟨s.name, s.ns, s.uid⟩ :=
  decodes_flat s.bounded_encode (by simp) <|
    .record rfl <| ((Answers.given (by simp) (.text s.name)).map mk)
      |>.seq (.given (by simp) (.text s.ns))
      |>.seq (.given (by simp) (.text s.uid))

/-- Every encoding of a pod refers to it: its own, unless it is nested too deep, that of a reference
to it, and that of its status. -/
theorem read_from_encodings :
    (∀ p : Pod, p.encode.nesting ≤ maxDepth → decode read p.encode.bytes = .ok p.reference) ∧
    (∀ r : PodRef, decode read r.encode.bytes = .ok r) ∧
    (∀ s : PodStatus, decode read s.encode.bytes = .ok ⟨s.name, s.ns, s.uid⟩) := by
  refine ⟨fun p flat => decode_bytes (decodes_pod p) flat, fun r => ?_, fun s => ?_⟩
  · exact decode_bytes r.decodes_encode (r.nesting_encode.trans_le (by decide))
  · exact decode_bytes (decodes_status s) (s.nesting_encode.trans (by decide))

/-- A pod with what a reference does not need: names that stand for the three texts elsewhere, and
numbers that are read as any value. -/
def crowdedPod : Pod where
  metadata := ⟨"web", "ns", "uid-1", .ofList [("UID", "other"), ("uuid", "other")],
    .ofList [("metadata", "\x7b\x7d")]⟩
  spec :=
    { containers :=
        [⟨"a", "i", none, [], [],
          .ofList [("metadata", .object (.ofList [("uid", .text "other"),
            ("share", .real ⟨false, Double.leastFull, -53, by decide⟩)]))],
          [], []⟩]
      initContainers := []
      volumes := [⟨"uid", .emptyDir ⟨none, none⟩⟩]
      restartPolicy := .always
      gracePeriod := some (-1) }

theorem crowded_pod_identified :
    crowdedPod.encode.nesting ≤ maxDepth ∧
      decode read crowdedPod.encode.bytes = .ok ⟨"web", "ns", "uid-1"⟩ := by
  have flat : crowdedPod.encode.nesting ≤ maxDepth := by decide +kernel
  exact ⟨flat, read_from_encodings.1 crowdedPod flat⟩

end PodRef

end Podkeeper
