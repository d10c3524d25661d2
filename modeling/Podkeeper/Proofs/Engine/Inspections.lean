import Podkeeper.Proofs.Engine.Exchanges
import Podkeeper.Proofs.Pods.ExitCodes

/-!
What is said about a container after the engine was asked.

The engine tells the exit code of a container as a number of 64 bits. It is put into a line of
text, and read from there again when the state of the container is made of the line. The line
holds one exit code, which stands at its beginning with the digits of the number, so that nothing
but the size of a number keeps it from being read (`ExitCode.parse?_exited`). What is said of a
container is therefore what the engine's answer means (`Engine.Means`), the detour left out.
-/

namespace Podkeeper

/-! ### Numbers in lines -/

namespace ExitCode

/-- The text of a number shows its digits behind its sign. -/
theorem toList_repr (z : Int) :
    z.repr.toList = (if z < 0 then ['-'] else []) ++ Nat.toDigits 10 z.natAbs := by
  cases z with
  | ofNat n =>
      rw [Int.repr, Nat.repr_eq_ofList_toDigits, String.toList_ofList, if_neg (by simp)]
      rfl
  | negSucc n =>
      rw [Int.repr, Nat.repr_eq_ofList_toDigits, String.toList_append,
        if_pos (Int.negSucc_lt_zero n), Int.natAbs_negSucc]
      exact congrArg (['-'] ++ ·) String.toList_ofList

theorem toList_exited (z : Int) :
    s!"Exited ({z})".toList = written (decide (z < 0)) (Nat.toDigits 10 z.natAbs) := by
  have joined : s!"Exited ({z})" = "Exited (" ++ z.repr ++ ")" := rfl
  have whole : s!"Exited ({z})".toList = opening ++ z.repr.toList ++ [')'] := by
    rw [joined, String.toList_append, String.toList_append]
    rfl
  rw [whole, toList_repr]
  unfold written
  by_cases negative : z < 0
  · simp [negative]
  · simp [negative]

/-- The digits of a number, with its sign, stand for it. -/
theorem number_toDigits (z : Int) :
    number (decide (z < 0)) (Nat.toDigits 10 z.natAbs) = z := by
  unfold number
  rw [Nat.ofDigitChars_ten_toDigits]
  split
  · next negative =>
      have below := of_decide_eq_true negative
      omega
  · next positive =>
      have above : ¬ z < 0 := by simpa using positive
      omega

theorem standsFirst_exited (z : Int) :
    StandsFirst s!"Exited ({z})".toList 0 (decide (z < 0)) (Nat.toDigits 10 z.natAbs) := by
  refine ⟨⟨Nat.toDigits_ne_nil, ?_, ?_⟩, ?_⟩
  · intro d member
    exact isDecimalDigit_of_isDigit (Nat.isDigit_of_mem_toDigits (by decide) (by decide) member)
  · exact ⟨[], by rw [toList_exited, List.append_nil, List.drop_zero]⟩
  · intro before sooner
    exact absurd sooner (Nat.not_lt_zero before)

/-- A number is read from the line that it was put into, if it fits. -/
theorem parse?_exited {z : Int} {v : Int32} :
    parse? s!"Exited ({z})" = some v ↔ v.toInt = z := by
  rw [parse?_of_standsFirst (standsFirst_exited z), value?_eq_some_iff Nat.toDigits_ne_nil,
    number_toDigits]
  constructor
  · rintro ⟨-, same⟩
    exact same
  · rintro rfl
    have least := v.le_toInt
    have most : v.toInt ≤ 2147483647 := Int.le_of_lt_add_one v.toInt_lt
    refine ⟨⟨?_, ?_, ?_⟩, rfl⟩
    · intro d member
      exact Nat.isDigit_of_mem_toDigits (by decide) (by decide) member
    · rw [number_toDigits]
      exact least
    · rw [number_toDigits]
      exact most

theorem parse?_exited_eq_none {z : Int} (unfit : ∀ v : Int32, v.toInt ≠ z) :
    parse? s!"Exited ({z})" = none := by
  apply Option.eq_none_iff_forall_ne_some.2
  intro v read
  exact unfit v (parse?_exited.1 read)

end ExitCode

/-! ### States of containers -/

namespace ContainerState

variable {r : Report}

theorem ofReport_of_running (running : r.label = Report.runningLabel) :
    ofReport (some r) = .running r.createdAt := by
  simp only [ofReport, if_pos running]

theorem ofReport_of_exited (exited : r.label = Report.exitedLabel) :
    ofReport (some r) = .terminated r.raw ((ExitCode.parse? r.raw).getD ExitCode.unknown) := by
  have other : r.label ≠ Report.runningLabel := by
    rw [exited]
    decide
  simp only [ofReport, if_neg other, if_pos exited]

theorem ofReport_of_other (running : r.label ≠ Report.runningLabel)
    (exited : r.label ≠ Report.exitedLabel) :
    ofReport (some r) = .terminated completedReason 0 := by
  simp only [ofReport, if_neg running, if_neg exited]

end ContainerState

namespace Engine

open ContainerState

namespace Inspection

variable {now : Instant} {i : Inspection}

theorem label_eq_running_iff : i.label = Report.runningLabel ↔ i.state = some .running := by
  rw [label]
  cases i.state with
  | none => decide
  | some state => cases state <;> decide

theorem label_eq_exited_iff : i.label = Report.exitedLabel ↔ i.state = some .exited := by
  rw [label]
  cases i.state with
  | none => decide
  | some state => cases state <;> decide

theorem raw_of_code {code : Int64} (ended : i.state = some .exited)
    (given : i.exitCode = some code) : i.raw = s!"Exited ({code.toInt})" := by
  simp only [raw, ended, given]

theorem raw_of_no_code (ended : i.state = some .exited) (missing : i.exitCode = none) :
    i.raw = "Exited" := by
  simp only [raw, ended, missing]

theorem createdAt_of_strict {text : String} {t : Instant} (given : i.created = some text)
    (read : Instant.strict text = .ok t) : i.createdAt now = t := by
  rw [createdAt, given, Option.bind_some, read]
  rfl

theorem createdAt_of_unread
    (unread : ∀ text t, i.created = some text → Instant.strict text ≠ .ok t) :
    i.createdAt now = now := by
  unfold createdAt
  cases given : i.created with
  | none => rfl
  | some text =>
      rw [Option.bind_some]
      cases read : Instant.strict text with
      | ok t => exact absurd read (unread text t given)
      | error refusal => rfl

end Inspection

/-- What an answer of the engine about a container means for its state. Nothing is said here of a
line of text but for the reason that is reported. -/
inductive Means (now : Instant) : Except EngineFault Inspection → ContainerState → Prop where
  | exited {i : Inspection} {code : Int64} {exit : Int32} (ended : i.state = some .exited)
      (given : i.exitCode = some code) (fits : exit.toInt = code.toInt) :
      Means now (.ok i) (.terminated s!"Exited ({code.toInt})" exit)
  /-- The code does not fit 32 bits. -/
  | unfit {i : Inspection} {code : Int64} (ended : i.state = some .exited)
      (given : i.exitCode = some code) (unfit : ∀ exit : Int32, exit.toInt ≠ code.toInt) :
      Means now (.ok i) (.terminated s!"Exited ({code.toInt})" (-1))
  | codeless {i : Inspection} (ended : i.state = some .exited) (missing : i.exitCode = none) :
      Means now (.ok i) (.terminated "Exited" (-1))
  | running {i : Inspection} {text : String} {t : Instant} (runs : i.state = some .running)
      (given : i.created = some text) (read : Instant.strict text = .ok t) :
      Means now (.ok i) (.running t)
  /-- No time of creation can be read. -/
  | undated {i : Inspection} (runs : i.state = some .running)
      (unread : ∀ text t, i.created = some text → Instant.strict text ≠ .ok t) :
      Means now (.ok i) (.running now)
  | other {i : Inspection} (running : i.state ≠ some .running) (exited : i.state ≠ some .exited) :
      Means now (.ok i) (.terminated "Completed" 0)
  /-- There is no such container. -/
  | absent {text : String} : Means now (.error (.answered 404 text)) (.terminated "Completed" 0)

/-- The state of a container after the engine was asked about it. -/
def seen {σ : Type} (engine : Partner σ) (s : σ) (now : Instant) (handle : String) :
    Except RuntimeFailure ContainerState :=
  ((Engine.inspect now handle).result engine s).map ofReport

variable {σ : Type} {engine : Partner σ} {s : σ} {now : Instant} {handle : String}

theorem seen_of_ok {i : Inspection} (answer : (engine (.inspect handle) s).1 = .ok i) :
    seen engine s now handle = .ok (ofReport (some (i.report now))) := by
  rw [seen, Engine.inspect, Attempt.result_ask_bind, answer]
  rfl

theorem seen_of_error {fault : EngineFault}
    (answer : (engine (.inspect handle) s).1 = .error fault) :
    seen engine s now handle =
      if isAbsence fault then .ok (ofReport none) else .error (.engine fault) := by
  rw [seen, Engine.inspect, Attempt.result_ask_bind, answer]
  cases absent : isAbsence fault with
  | true => simp only [absent]; rfl
  | false => simp only [absent]; rfl

theorem isAbsence_iff {fault : EngineFault} :
    isAbsence fault = true ↔ ∃ text, fault = .answered 404 text := by
  cases fault with
  | answered status text => simp [isAbsence]
  | stream | noSocket | broken => simp [isAbsence]

theorem seen_of_exited {i : Inspection} (answered : (engine (.inspect handle) s).1 = .ok i)
    (ended : i.state = some .exited) :
    seen engine s now handle =
      .ok (.terminated i.raw ((ExitCode.parse? i.raw).getD ExitCode.unknown)) := by
  rw [seen_of_ok answered, ofReport_of_exited (Inspection.label_eq_exited_iff.2 ended)]
  rfl

theorem seen_of_running {i : Inspection} (answered : (engine (.inspect handle) s).1 = .ok i)
    (runs : i.state = some .running) :
    seen engine s now handle = .ok (.running (i.createdAt now)) := by
  rw [seen_of_ok answered, ofReport_of_running (Inspection.label_eq_running_iff.2 runs)]
  rfl

theorem Means.seen_eq {answer : Except EngineFault Inspection} {state : ContainerState}
    (means : Means now answer state) (answered : (engine (.inspect handle) s).1 = answer) :
    seen engine s now handle = .ok state := by
  cases means with
  | exited ended given fits =>
      rw [seen_of_exited answered ended, Inspection.raw_of_code ended given,
        ExitCode.parse?_exited.2 fits]
      rfl
  | unfit ended given unfit =>
      rw [seen_of_exited answered ended, Inspection.raw_of_code ended given,
        ExitCode.parse?_exited_eq_none unfit]
      rfl
  | codeless ended missing =>
      rw [seen_of_exited answered ended, Inspection.raw_of_no_code ended missing]
      rfl
  | running runs given read =>
      rw [seen_of_running answered runs, Inspection.createdAt_of_strict given read]
  | undated runs unread =>
      rw [seen_of_running answered runs, Inspection.createdAt_of_unread unread]
  | other running exited =>
      rw [seen_of_ok answered, ofReport_of_other (mt Inspection.label_eq_running_iff.1 running)
        (mt Inspection.label_eq_exited_iff.1 exited)]
      rfl
  | @absent text =>
      rw [seen_of_error answered, if_pos (isAbsence_iff.2 ⟨text, rfl⟩)]
      rfl

/-- Whatever the engine tells of a container that is there means something. -/
theorem exists_means (now : Instant) (i : Inspection) : ∃ state, Means now (.ok i) state := by
  by_cases runs : i.state = some .running
  · by_cases dated : ∃ text t, i.created = some text ∧ Instant.strict text = .ok t
    · obtain ⟨text, t, given, read⟩ := dated
      exact ⟨_, .running runs given read⟩
    · refine ⟨_, .undated runs ?_⟩
      intro text t given read
      exact dated ⟨text, t, given, read⟩
  · by_cases ended : i.state = some .exited
    · cases given : i.exitCode with
      | none => exact ⟨_, .codeless ended given⟩
      | some code =>
          by_cases fits : ∃ exit : Int32, exit.toInt = code.toInt
          · obtain ⟨exit, same⟩ := fits
            exact ⟨_, .exited ended given same⟩
          · exact ⟨_, .unfit ended given (not_exists.1 fits)⟩
    · exact ⟨_, .other runs ended⟩

/-- A container is seen in a state exactly if that is what the engine's answer means: an exit code
of 32 bits comes through its line of text unchanged, and whatever does not is told apart. -/
theorem seen_iff_means (engine : Partner σ) (s : σ) (now : Instant) (handle : String)
    (state : ContainerState) :
    seen engine s now handle = .ok state ↔ Means now (engine (.inspect handle) s).1 state := by
  constructor
  · intro sees
    cases answered : (engine (.inspect handle) s).1 with
    | ok i =>
        obtain ⟨other, means⟩ := exists_means now i
        cases (means.seen_eq answered).symm.trans sees
        exact means
    | error fault =>
        rw [seen_of_error answered] at sees
        split at sees
        · next absent =>
            obtain ⟨text, rfl⟩ := isAbsence_iff.1 absent
            cases sees
            exact .absent
        · cases sees
  · intro means
    exact means.seen_eq rfl

end Engine

end Podkeeper
