import Podkeeper.Proofs.Json.Records
import Podkeeper.Proofs.Requests.References
import Podkeeper.Proofs.Time.Texts

/-!
Statuses are read as they were written.

A state is written with the tag of its kind and no other, and a pending one without any. From an
object it is read only if at most one tag has a value, and then it is of that tag's kind
(`ContainerState.read_object_iff`). So an encoding of a status is never ambiguous, and the status is
found in it (`PodStatus.wire_unambiguous`).
-/

namespace Podkeeper

open Wire Json Json.Value

/-! ### Tags -/

/-- The kinds of states that have a tag. -/
inductive StateTag where
  | running
  | waiting
  | terminated
deriving DecidableEq, Repr

namespace StateTag

def name : StateTag → String
  | .running => "running"
  | .waiting => "waiting"
  | .terminated => "terminated"

/-- How the state is read that stands under a tag. -/
def read : StateTag → Cursor → Except Refusal ContainerState
  | .running => Source.record .lenient "StateRunning"
      (.running <$> .required "startedAt" Instant.read)
  | .waiting => Source.record .lenient "StateWaiting"
      (.waiting <$> .optional "message" "" Source.text <*> .optional "reason" "" Source.text)
  | .terminated => Source.record .lenient "StateTerminated"
      (.terminated <$> .optional "reason" "" Source.text <*> .required "exitCode" readInt32)

/-- The key is a tag. -/
def isTag (key : String) : Bool := key = "running" || key = "waiting" || key = "terminated"

end StateTag

namespace ContainerState

/-- The tag that a state is written with. -/
def tag? : ContainerState → Option StateTag
  | .pending => none
  | .running _ => some .running
  | .waiting _ _ => some .waiting
  | .terminated _ _ => some .terminated

/-- The encoding of a state has its tag and nothing else. -/
theorem encode_tag (s : ContainerState) :
    ∃ members, s.encode = .object members ∧
      members.map (·.1) = (s.tag?.map StateTag.name).toList :=
  ⟨_, rfl, by cases s <;> rfl⟩

end ContainerState

/-! ### Reading what was written -/

theorem decodes_int32 (n : Int32) : Decodes readInt32 (.whole n.toInt) n := by
  have below : n.toInt ≤ Range.i32.high := Int.le_of_lt_add_one n.toInt_lt
  have number : Decodes (Source.whole .i32) (.whole n.toInt) n.toInt :=
    .whole (Range.holds_iff.2 ⟨n.le_toInt, below⟩) (inRange_int32 n)
  have read := number.map Int32.ofInt
  rw [Int32.ofInt_toInt] at read
  exact read

theorem Instant.decodes_encode {t : Instant} (readable : relaxed t.text = .ok t) :
    Decodes read t.encode t :=
  .checked (.text t.text) (by rw [readable])

namespace ContainerState

/-- The text of the time in a state is read as that time. -/
def IsReadable (s : ContainerState) : Prop :=
  ∀ t, s = .running t → Instant.relaxed t.text = .ok t

/-- Times of the calendar are read from their texts. -/
theorem isReadable_of_isProper {s : ContainerState} (proper : ∀ t, s = .running t → t.IsProper) :
    s.IsReadable :=
  fun t running => Instant.relaxed_text (proper t running)

theorem decodes_encode {s : ContainerState} (readable : s.IsReadable) :
    Decodes read s.encode s := by
  cases s with
  | pending =>
      have fields : Decodes StateFields.read (encode .pending) ⟨none, none, none⟩ :=
        .record rfl <| ((Answers.absent (by simp [member?])).map StateFields.mk)
          |>.seq (.absent (by simp [member?]))
          |>.seq (.absent (by simp [member?]))
      exact .checked fields rfl
  | running t =>
      have state : Decodes (StateTag.read .running) (.record [member "startedAt" t.encode])
          (.running t) :=
        .record rfl ((Answers.given (by simp) (t.decodes_encode (readable t rfl))).map running)
      have fields : Decodes StateFields.read (encode (.running t))
          ⟨some (.running t), none, none⟩ :=
        .record rfl <|
          ((Answers.given (by simp [member?]) (state.option rfl)).map StateFields.mk)
            |>.seq (.absent (by simp [member?]))
            |>.seq (.absent (by simp [member?]))
      exact .checked fields rfl
  | waiting message reason =>
      have state : Decodes (StateTag.read .waiting)
          (.record [member "message" (.text message), member "reason" (.text reason)])
          (.waiting message reason) :=
        .record rfl <| ((Answers.given (by simp) (.text message)).map waiting)
          |>.seq (.given (by simp) (.text reason))
      have fields : Decodes StateFields.read (encode (.waiting message reason))
          ⟨none, some (.waiting message reason), none⟩ :=
        .record rfl <| ((Answers.absent (by simp [member?])).map StateFields.mk)
          |>.seq (.given (by simp [member?]) (state.option rfl))
          |>.seq (.absent (by simp [member?]))
      exact .checked fields rfl
  | terminated reason exitCode =>
      have state : Decodes (StateTag.read .terminated)
          (.record [member "reason" (.text reason), member "exitCode" (.whole exitCode.toInt)])
          (.terminated reason exitCode) :=
        .record rfl <| ((Answers.given (by simp) (.text reason)).map terminated)
          |>.seq (.given (by simp) (decodes_int32 exitCode))
      have fields : Decodes StateFields.read (encode (.terminated reason exitCode))
          ⟨none, none, some (.terminated reason exitCode)⟩ :=
        .record rfl <| ((Answers.absent (by simp [member?])).map StateFields.mk)
          |>.seq (.absent (by simp [member?]))
          |>.seq (.given (by simp [member?]) (state.option rfl))
      exact .checked fields rfl

end ContainerState

theorem ContainerStatus.decodes_encode {s : ContainerStatus} (readable : s.state.IsReadable) :
    Decodes read s.encode s :=
  .record rfl <| ((Answers.given (by simp) (.text s.name)).map mk)
    |>.seq (.given (by simp) (s.state.decodes_encode readable))

theorem PodStatus.decodes_encode {s : PodStatus}
    (readable : ∀ c ∈ s.containers, c.state.IsReadable) : Decodes read s.encode s :=
  .record rfl <| ((Answers.given (by simp) (.text s.name)).map mk)
    |>.seq (.given (by simp) (.text s.uid))
    |>.seq (.given (by simp) (.text s.ns))
    |>.seq (.given (by simp) (.sequence fun c member => c.decodes_encode (readable c member)))

/-! ### Reading any object -/

/-- Under a tag a state of its kind is read. -/
theorem StateTag.tag?_of_read {tag : StateTag} {c : Cursor} {s : ContainerState}
    (found : tag.read c = .ok s) : s.tag? = some tag := by
  cases tag with
  | running =>
      obtain ⟨readField, built⟩ := exists_build_of_record found
      obtain ⟨t, -, rfl⟩ := Placed.map_eq_value.1 built
      rfl
  | waiting =>
      obtain ⟨readField, built⟩ := exists_build_of_record found
      obtain ⟨made, reason, first, -, rfl⟩ := Placed.seq_eq_value.1 built
      obtain ⟨message, -, rfl⟩ := Placed.map_eq_value.1 first
      rfl
  | terminated =>
      obtain ⟨readField, built⟩ := exists_build_of_record found
      obtain ⟨made, exitCode, first, -, rfl⟩ := Placed.seq_eq_value.1 built
      obtain ⟨reason, -, rfl⟩ := Placed.map_eq_value.1 first
      rfl

section

variable {members : List (Spelling × Node)} {stop : Option Cause} {k : Nat}

/-- What is found under a tag: the state of the only value there, and nothing where there is none.
The tag stands once at most. -/
def StateTag.Finds (tag : StateTag) (k : Nat) (members : List (Spelling × Node))
    (found : Option ContainerState) : Prop :=
  (nodesFor ⟨tag.name, []⟩ members).length ≤ 1 ∧
    (valuesFor tag.name members = [] ∧ found = none ∨
      ∃ n s, valuesFor tag.name members = [n] ∧ tag.read ⟨k, n⟩ = .ok s ∧ found = some s)

theorem StateTag.Finds.of_none {tag : StateTag}
    (once : (nodesFor ⟨tag.name, []⟩ members).length ≤ 1)
    (without : valuesFor tag.name members = []) : tag.Finds k members none :=
  ⟨once, .inl ⟨without, rfl⟩⟩

theorem StateTag.Finds.of_only {tag : StateTag} {n : Node} {s : ContainerState}
    (once : (nodesFor ⟨tag.name, []⟩ members).length ≤ 1) (only : valuesFor tag.name members = [n])
    (found : tag.read ⟨k, n⟩ = .ok s) : tag.Finds k members (some s) :=
  ⟨once, .inr ⟨n, s, only, found, rfl⟩⟩

/-- The fields of a state: one for each tag. -/
def StateFields.fields : Record Cursor (Except Refusal) StateFields :=
  mk <$> Source.maybe "running" (StateTag.read .running)
    <*> Source.maybe "waiting" (StateTag.read .waiting)
    <*> Source.maybe "terminated" (StateTag.read .terminated)

theorem StateFields.knows_fields : fields.knows = StateTag.isTag := by
  funext key
  change List.any [⟨"running", []⟩, ⟨"waiting", []⟩, ⟨"terminated", []⟩] (Label.covers · key) = _
  rw [Bool.eq_iff_iff]
  simp [StateTag.isTag, eq_comm (a := key), or_assoc]

theorem StateFields.read_object_iff {f : StateFields} :
    StateFields.read (⟨k + 1, .object members stop⟩ : Cursor) = .ok f ↔
      Sound StateTag.isTag members stop ∧ StateTag.Finds .running k members f.running ∧
        StateTag.Finds .waiting k members f.waiting ∧
        StateTag.Finds .terminated k members f.terminated := by
  let c : Cursor := ⟨k + 1, .object members stop⟩
  have field (tag : StateTag) (found : Option ContainerState) :
      Json.Finds c members (Source.maybe tag.name tag.read) found ↔ tag.Finds k members found :=
    finds_maybe
  change Source.record .lenient "ContainerStatesWire" fields c = _ ↔ _
  rw [record_eq_ok_iff rfl, knows_fields, and_comm, fields]
  refine and_congr_right fun _ => ?_
  simp only [finds_seq, finds_map, ← field]
  constructor
  · rintro ⟨_, terminated, ⟨_, waiting, ⟨running, first, rfl⟩, second, rfl⟩, third, rfl⟩
    exact ⟨first, second, third⟩
  · rintro ⟨first, second, third⟩
    exact ⟨_, _, ⟨_, _, ⟨_, first, rfl⟩, second, rfl⟩, third, rfl⟩

/-- A state is read from an object if no tag has a value, or one. -/
theorem ContainerState.read_object_iff {s : ContainerState} :
    ContainerState.read (⟨k + 1, .object members stop⟩ : Cursor) = .ok s ↔
      Sound StateTag.isTag members stop ∧
      (∀ tag : StateTag, (nodesFor ⟨tag.name, []⟩ members).length ≤ 1) ∧
      ((∀ tag : StateTag, valuesFor tag.name members = []) ∧ s = .pending ∨
        ∃ (tag : StateTag) (n : Node), valuesFor tag.name members = [n] ∧
          (∀ other : StateTag, other ≠ tag → valuesFor other.name members = []) ∧
          tag.read ⟨k, n⟩ = .ok s) := by
  rw [ContainerState.read, checked_eq_ok]
  simp only [StateFields.read_object_iff]
  constructor
  · rintro ⟨⟨running, waiting, terminated⟩,
      ⟨sound, ⟨once, first⟩, ⟨once', second⟩, ⟨once'', third⟩⟩, made⟩
    refine ⟨sound, fun tag => by cases tag <;> assumption, ?_⟩
    dsimp only at first second third
    rcases first with ⟨none₁, rfl⟩ | ⟨n, s₁, only₁, found₁, rfl⟩ <;>
      rcases second with ⟨none₂, rfl⟩ | ⟨n, s₂, only₂, found₂, rfl⟩ <;>
      rcases third with ⟨none₃, rfl⟩ | ⟨n, s₃, only₃, found₃, rfl⟩ <;>
      cases made
    · exact .inl ⟨fun tag => by cases tag <;> assumption, rfl⟩
    · exact .inr ⟨.terminated, n, only₃, fun tag other => by cases tag <;> simp_all, found₃⟩
    · exact .inr ⟨.waiting, n, only₂, fun tag other => by cases tag <;> simp_all, found₂⟩
    · exact .inr ⟨.running, n, only₁, fun tag other => by cases tag <;> simp_all, found₁⟩
  · rintro ⟨sound, once, ⟨without, rfl⟩ | ⟨tag, n, only, others, found⟩⟩
    · exact ⟨⟨none, none, none⟩, ⟨sound, .of_none (once _) (without _),
        .of_none (once _) (without _), .of_none (once _) (without _)⟩, rfl⟩
    · cases tag with
      | running =>
          exact ⟨⟨some s, none, none⟩, ⟨sound, .of_only (once _) only found,
            .of_none (once _) (others _ nofun), .of_none (once _) (others _ nofun)⟩, rfl⟩
      | waiting =>
          exact ⟨⟨none, some s, none⟩, ⟨sound, .of_none (once _) (others _ nofun),
            .of_only (once _) only found, .of_none (once _) (others _ nofun)⟩, rfl⟩
      | terminated =>
          exact ⟨⟨none, none, some s⟩, ⟨sound, .of_none (once _) (others _ nofun),
            .of_none (once _) (others _ nofun), .of_only (once _) only found⟩, rfl⟩

end

/-- A status is read from its encoding, if the texts of its times are read as these times, as those
of the calendar are (`ContainerState.isReadable_of_isProper`). Each state in it has its tag and no
other, and from any object a state is read exactly if the object is sound, has each tag once at
most, and has values for one tag at most: that state, which is of the tag's kind, or a pending one.
Other members only have to be JSON. -/
theorem PodStatus.wire_unambiguous :
    (∀ s : PodStatus, (∀ c ∈ s.containers, c.state.IsReadable) →
      decode PodStatus.read s.encode.bytes = .ok s) ∧
    (∀ s : ContainerState, ∃ members, s.encode = .object members ∧
      members.map (·.1) = (s.tag?.map StateTag.name).toList) ∧
    ∀ (bytes : Bytes) (members : List (Spelling × Node)) (stop : Option Cause),
      (Json.read bytes).root = .object members stop → ∀ s : ContainerState,
        (decode ContainerState.read bytes = .ok s ↔
          (Json.read bytes).surplus = false ∧ Sound StateTag.isTag members stop ∧
          (∀ tag : StateTag, (nodesFor ⟨tag.name, []⟩ members).length ≤ 1) ∧
          ((∀ tag : StateTag, valuesFor tag.name members = []) ∧ s = .pending ∨
            ∃ (tag : StateTag) (n : Node), s.tag? = some tag ∧
              valuesFor tag.name members = [n] ∧
              (∀ other : StateTag, other ≠ tag → valuesFor other.name members = []) ∧
              tag.read ⟨maxDepth - 1, n⟩ = .ok s)) := by
  refine ⟨fun s readable => ?_, ContainerState.encode_tag, fun bytes members stop root s => ?_⟩
  · exact decode_bytes (decodes_encode readable) (s.nesting_encode.trans (by decide))
  · rw [decode_eq_ok, root, and_comm]
    refine and_congr_right fun _ => ContainerState.read_object_iff.trans ?_
    refine and_congr_right fun _ => and_congr_right fun _ => or_congr_right ?_
    refine exists_congr fun tag => exists_congr fun n => ⟨?_, And.right⟩
    intro found
    exact ⟨StateTag.tag?_of_read found.2.2, found⟩

/-- A status with a state of each kind, and with a text that looks like a tag. -/
def PodStatus.mixed : PodStatus :=
  ⟨"web", "uid-1", "ns",
    [⟨"app", .running ⟨1714564800, 0⟩⟩, ⟨"job", .terminated "Exited (3)" 3⟩,
      ⟨"null", .waiting "\"running\":" ""⟩, ⟨"next", .pending⟩]⟩

theorem PodStatus.mixed_round_trip :
    (∀ c ∈ mixed.containers, c.state.IsReadable) ∧
      decode PodStatus.read mixed.encode.bytes = .ok mixed := by
  have readable : ∀ c ∈ mixed.containers, c.state.IsReadable := by
    intro c member
    refine ContainerState.isReadable_of_isProper fun t running => ?_
    simp only [mixed, List.mem_cons, List.not_mem_nil, or_false] at member
    rcases member with rfl | rfl | rfl | rfl
    · cases running
      exact ⟨by decide, .inl (by decide)⟩
    all_goals cases running
  exact ⟨readable, wire_unambiguous.1 mixed readable⟩

/-- Two tags with values are refused, and two of which one has none are not. -/
example :
    let both := "\x7b\"running\":\x7b\"startedAt\":\"2024-05-01T12:00:00Z\"\x7d,"
    let ended := "\"terminated\":\x7b\"reason\":\"x\",\"exitCode\":1\x7d\x7d"
    let idle := "\"more\":[],\"terminated\":null\x7d"
    (decode ContainerState.read (Utf8.ofString (both ++ ended))).toOption = none ∧
      decode ContainerState.read (Utf8.ofString (both ++ idle)) =
        .ok (.running ⟨1714564800, 0⟩) := by
  decide +kernel

end Podkeeper
