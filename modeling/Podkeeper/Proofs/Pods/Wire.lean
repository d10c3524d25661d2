import Podkeeper.Pod.Encode
import Podkeeper.Pod.Decode
import Podkeeper.Proofs.Json.Decoding

/-!
Pods are read as they were written.

A field that is left out when it is empty is empty when it is missing, and of the fields of a
volume or a variable exactly the one of its source is written. So a pod is found in its encoding
(`Pod.decodes_encode`), up to the numbers of its resources, which are read exactly only if they
are whole.
-/

namespace Podkeeper

open Wire Json

/-! ### Numbers -/

@[simp] theorem inRange_uint32 (n : UInt32) : (Number.whole n.toNat).InRange := by
  have below := n.toNat_lt
  constructor <;> omega

@[simp] theorem inRange_int32 (n : Int32) : (Number.whole n.toInt).InRange := by
  have above := n.le_toInt
  have below := n.toInt_lt
  constructor <;> omega

@[simp] theorem inRange_int64 (n : Int64) : (Number.whole n.toInt).InRange := by
  have above := n.le_toInt
  have below := n.toInt_lt
  constructor <;> omega

theorem decodes_uint32 (n : UInt32) : Decodes readUInt32 (encodeUInt32 n) n := by
  have below : (n.toNat : Int) ≤ Range.u32.high :=
    Int.le_of_lt_add_one (Int.ofNat_lt.2 n.toNat_lt)
  have number : Decodes (Source.whole .u32) (.whole n.toNat) (n.toNat : Int) :=
    .whole (Range.holds_iff.2 ⟨Int.natCast_nonneg _, below⟩) (inRange_uint32 n)
  have read := number.map fun v => UInt32.ofNat v.toNat
  rw [Int.toNat_natCast, UInt32.ofNat_toNat] at read
  exact read

theorem decodes_int64 (n : Int64) : Decodes readInt64 (.whole n.toInt) n := by
  have below : n.toInt ≤ Range.i64.high := Int.le_of_lt_add_one n.toInt_lt
  have number : Decodes (Source.whole .i64) (.whole n.toInt) n.toInt :=
    .whole (Range.holds_iff.2 ⟨n.le_toInt, below⟩) (inRange_int64 n)
  have read := number.map Int64.ofInt
  rw [Int64.ofInt_toInt] at read
  exact read

/-! ### Containers -/

theorem KeyRef.decodes_encode (k : KeyRef) : Decodes KeyRef.read k.encode k :=
  .record rfl <| ((Answers.given (by simp) (.text k.name)).map mk)
    |>.seq (.given (by simp) (.text k.key))
    |>.seq (.given (by simp) (.flag k.optional))

theorem EnvVar.decodes_encode (v : EnvVar) : Decodes EnvVar.read v.encode v := by
  obtain ⟨name, source⟩ := v
  cases source with
  | literal value =>
      have fields : Decodes EnvFields.read (encode ⟨name, .literal value⟩)
          ⟨name, some value, none⟩ :=
        .record rfl <| ((Answers.given (by simp) (.text name)).map EnvFields.mk)
          |>.seq (.given (by simp) (.option (.text value) rfl))
          |>.seq (.absent (by simp))
      exact fields.checked rfl
  | configMapKey key =>
      have origin : Decodes EnvOrigin.read
          (.record [Value.member "configMapKeyRef" key.encode]) ⟨some key, none⟩ :=
        .record rfl <|
          ((Answers.given (by simp) (.option key.decodes_encode rfl)).map EnvOrigin.mk)
            |>.seq (.absent (by simp))
      have fields : Decodes EnvFields.read (encode ⟨name, .configMapKey key⟩)
          ⟨name, none, some ⟨some key, none⟩⟩ :=
        .record rfl <| ((Answers.given (by simp) (.text name)).map EnvFields.mk)
          |>.seq (.absent (by simp))
          |>.seq (.given (by simp) (.option origin rfl))
      exact fields.checked rfl
  | secretKey key =>
      have origin : Decodes EnvOrigin.read
          (.record [Value.member "secretKeyRef" key.encode]) ⟨none, some key⟩ :=
        .record rfl <| ((Answers.absent (by simp)).map EnvOrigin.mk)
          |>.seq (.given (by simp) (.option key.decodes_encode rfl))
      have fields : Decodes EnvFields.read (encode ⟨name, .secretKey key⟩)
          ⟨name, none, some ⟨none, some key⟩⟩ :=
        .record rfl <| ((Answers.given (by simp) (.text name)).map EnvFields.mk)
          |>.seq (.absent (by simp))
          |>.seq (.given (by simp) (.option origin rfl))
      exact fields.checked rfl

theorem Mount.decodes_encode (m : Mount) : Decodes Mount.read m.encode m :=
  .record rfl <| ((Answers.given (by simp) (.text m.volume)).map mk)
    |>.seq (.given (by simp) (.text m.path))
    |>.seq (.maybe .text (by simp) (fun _ => rfl) fun s _ => .text s)
    |>.seq (.given (by simp) (.flag m.readOnly))

namespace Container

/-- No resource of the container has a number with a fraction or an exponent. -/
def WholeResources (c : Container) : Prop := ∀ e ∈ c.resources.entries, e.2.value.Whole

instance (c : Container) : Decidable c.WholeResources :=
  inferInstanceAs (Decidable (∀ e ∈ c.resources.entries, e.2.value.Whole))

theorem decodes_encode {c : Container} (whole : c.WholeResources) :
    Decodes Container.read c.encode c :=
  .record rfl <| ((Answers.given (by simp) (.text c.name)).map mk)
    |>.seq (.given (by simp) (.text c.image))
    |>.seq (.maybe .text (by simp) (fun _ => rfl) fun s _ => .text s)
    |>.seq (.listField (by simp) fun s _ => .text s)
    |>.seq (.listField (by simp) fun s _ => .text s)
    |>.seq (.mapField (by simp) fun e member => .opaqueNode (whole e member))
    |>.seq (.listField (by simp) fun m _ => m.decodes_encode)
    |>.seq (.listField (by simp) fun v _ => v.decodes_encode)

end Container

/-! ### Volumes -/

theorem KeyPath.decodes_encode (k : KeyPath) : Decodes KeyPath.read k.encode k :=
  .record rfl <| ((Answers.given (by simp) (.text k.key)).map mk)
    |>.seq (.given (by simp) (.text k.path))
    |>.seq (.maybe encodeUInt32 (by simp) (fun _ => rfl) fun n _ => decodes_uint32 n)

/-- A projection is found under a name that is not that of another of its fields. -/
theorem Projection.decodes_encode (p : Projection) (record' : String) {nameField : String}
    (fresh : nameField ≠ "items" ∧ nameField ≠ "defaultMode" ∧ nameField ≠ "optional") :
    Decodes (Projection.read record' nameField) (p.encode nameField) p := by
  obtain ⟨items, mode, optional⟩ := fresh
  exact .record rfl <|
    ((Answers.given (by simp [items, mode, optional]) (.text p.name)).map mk)
      |>.seq (.maybe (fun items => .list (items.map KeyPath.encode))
        (by simp [items.symm]) (fun _ => rfl) fun _ _ => .sequence fun k _ => k.decodes_encode)
      |>.seq (.maybe encodeUInt32 (by simp [mode.symm]) (fun _ => rfl)
        fun n _ => decodes_uint32 n)
      |>.seq (.maybe .flag (by simp [optional.symm]) (fun _ => rfl) fun b _ => .flag b)

theorem Scratch.decodes_encode (s : Scratch) : Decodes Scratch.read s.encode s :=
  .record rfl <|
    ((Answers.maybe .text (by simp) (fun _ => rfl) fun s _ => .text s).map mk)
      |>.seq (.maybe .text (by simp) (fun _ => rfl) fun s _ => .text s)

theorem Volume.decodes_encode (v : Volume) : Decodes Volume.read v.encode v := by
  obtain ⟨name, source⟩ := v
  cases source with
  | emptyDir options =>
      have fields : Decodes VolumeFields.read (encode ⟨name, .emptyDir options⟩)
          ⟨name, some options, none, none⟩ :=
        .record rfl <| ((Answers.given (by simp) (.text name)).map VolumeFields.mk)
          |>.seq (.given (by simp) (.option options.decodes_encode rfl))
          |>.seq (.absent (by simp))
          |>.seq (.absent (by simp))
      exact fields.checked rfl
  | secret source =>
      have fields : Decodes VolumeFields.read (encode ⟨name, .secret source⟩)
          ⟨name, none, some source, none⟩ :=
        .record rfl <| ((Answers.given (by simp) (.text name)).map VolumeFields.mk)
          |>.seq (.absent (by simp))
          |>.seq (.given (by simp) (.option (source.decodes_encode _ (by decide)) rfl))
          |>.seq (.absent (by simp))
      exact fields.checked rfl
  | configMap source =>
      have fields : Decodes VolumeFields.read (encode ⟨name, .configMap source⟩)
          ⟨name, none, none, some source⟩ :=
        .record rfl <| ((Answers.given (by simp) (.text name)).map VolumeFields.mk)
          |>.seq (.absent (by simp))
          |>.seq (.absent (by simp))
          |>.seq (.given (by simp) (.option (source.decodes_encode _ (by decide)) rfl))
      exact fields.checked rfl

/-! ### Pods -/

theorem RestartPolicy.decodes_word (p : RestartPolicy) :
    Decodes RestartPolicy.read (.text p.word) p :=
  .word (List.mem_map_of_mem (by cases p <;> decide)) (by cases p <;> decide)

namespace Pod

theorem Metadata.decodes_encode (m : Metadata) : Decodes Metadata.read m.encode m :=
  .record rfl <| ((Answers.given (by simp) (.text m.name)).map mk)
    |>.seq (.given (by simp) (.text m.ns))
    |>.seq (.given (by simp) (.text m.uid))
    |>.seq (.mapField (by simp) fun e _ => .text e.2)
    |>.seq (.mapField (by simp) fun e _ => .text e.2)

/-- No resource of a container, started or not, has a number with a fraction or an exponent. -/
def WholeResources (p : Pod) : Prop :=
  ∀ c ∈ p.spec.containers ++ p.spec.initContainers, c.WholeResources

instance (p : Pod) : Decidable p.WholeResources :=
  inferInstanceAs (Decidable (∀ c ∈ p.spec.containers ++ p.spec.initContainers, c.WholeResources))

theorem Spec.decodes_encode {s : Spec} (whole : ∀ c ∈ s.containers ++ s.initContainers,
    c.WholeResources) : Decodes Spec.read s.encode s :=
  .record rfl <|
    ((Answers.given (by simp) (.sequence fun c member =>
      Container.decodes_encode (whole c (List.mem_append_left _ member)))).map mk)
      |>.seq (.listField (by simp) fun c member =>
        Container.decodes_encode (whole c (List.mem_append_right _ member)))
      |>.seq (.listField (by simp) fun v _ => v.decodes_encode)
      |>.seq (.given (by simp) s.restartPolicy.decodes_word)
      |>.seq (.maybe (fun n : Int64 => .whole n.toInt) (by simp) (by simp)
        fun n _ => decodes_int64 n)

/-- A pod is found in its encoding. -/
theorem decodes_encode {p : Pod} (whole : p.WholeResources) : Decodes read p.encode p :=
  .record rfl <| ((Answers.given (by simp) p.metadata.decodes_encode).map mk)
    |>.seq (.given (by simp) (Spec.decodes_encode whole))

end Pod

end Podkeeper
