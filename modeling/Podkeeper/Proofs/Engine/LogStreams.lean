import Podkeeper.Proofs.Engine.Exchanges

/-!
What is read of a log.

A log arrives in pieces, and a stream of pieces may end in a fault. What is read depends only on
the bytes that arrive before the fault and on the fault itself, not on how the bytes are cut: all
of them without a limit, so many of them with one, and the fault where it comes before there are
enough (`Engine.logs_exact_to_limit`).
-/

namespace Podkeeper.Engine

/-- What arrives of a stream before its first fault. -/
def Stream.arrived {α : Type} : Stream α → List α
  | [] => []
  | .ok a :: rest => a :: Stream.arrived rest
  | .error _ :: _ => []

namespace LogChunk

/-- The bytes of pieces in order, without what the container was sent. -/
def messages (cs : List LogChunk) : Bytes :=
  (cs.filter (·.origin ≠ .input)).flatMap (·.bytes)

theorem messages_cons (c : LogChunk) (cs : List LogChunk) :
    messages (c :: cs) = c.payload ++ messages cs := by
  by_cases input : c.origin = .input
  · simp [messages, payload, input]
  · simp [messages, payload, input]

/-! ### Collecting -/

/-- Without a limit all is collected, unless there is a fault. -/
theorem collect_none (stream : Stream LogChunk) :
    collect none stream = stream.outcome.map fun _ => messages stream.arrived := by
  induction stream with
  | nil => rfl
  | cons item rest ih =>
      cases item with
      | error fault => rfl
      | ok c =>
          rw [collect, ih, Stream.outcome, Stream.arrived, messages_cons]
          cases Stream.outcome rest <;> rfl

/-- With a limit it ends the collecting as soon as there is enough; a fault counts before that. -/
theorem collect_some {n : Nat} (positive : 0 < n) (stream : Stream LogChunk) :
    collect (some n) stream =
      if n ≤ (messages stream.arrived).length then .ok ((messages stream.arrived).take n)
      else stream.outcome.map fun _ => messages stream.arrived := by
  induction stream generalizing n with
  | nil =>
      have short : ¬ n ≤ 0 := by omega
      simp [collect, Stream.arrived, messages, short, Stream.outcome, Except.map]
  | cons item rest ih =>
      cases item with
      | error fault =>
          have short : ¬ n ≤ 0 := by omega
          simp [collect, Stream.arrived, messages, short, Stream.outcome, Except.map]
      | ok c =>
          rw [collect, Stream.outcome, Stream.arrived, messages_cons, List.length_append]
          by_cases here : n ≤ c.payload.length
          · rw [if_pos here, if_pos (by omega), List.take_append_of_le_length here]
          · rw [if_neg here, ih (by omega)]
            by_cases enough : n ≤ c.payload.length + (messages (Stream.arrived rest)).length
            · have more : n - c.payload.length ≤ (messages (Stream.arrived rest)).length := by
                omega
              have front : c.payload.take n = c.payload := List.take_of_length_le (by omega)
              rw [if_pos enough, if_pos more, List.take_append, front]
              rfl
            · have fewer : ¬ n - c.payload.length ≤ (messages (Stream.arrived rest)).length := by
                omega
              rw [if_neg enough, if_neg fewer]
              cases Stream.outcome rest <;> rfl

end LogChunk

/-! ### Reading -/

open LogChunk

variable {σ τ : Type}

/-- What an engine sends of a log. -/
def sent (engine : Partner σ) (now : Instant) (handle : String) (o : LogOptions) (s : σ) :
    Stream LogChunk :=
  (engine (.readLog handle (.ofOptions now o)) s).1

theorem result_logs (now : Instant) (handle : String) (o : LogOptions) (engine : Partner σ)
    (s : σ) : (logs now handle o).result engine s =
      (collect (o.byteLimit.map (·.toNat)) (sent engine now handle o s)).mapError .engine := rfl

/-- What is read of a log, by the bytes that arrive before the first fault and by that fault. -/
theorem result_logs_eq (now : Instant) (handle : String) (o : LogOptions) (engine : Partner σ)
    (s : σ) :
    let stream := sent engine now handle o s
    let bytes := messages stream.arrived
    (logs now handle o).result engine s =
      if 0 < o.limitBytes ∧ o.limitBytes.toNat ≤ bytes.length then
        .ok (bytes.take o.limitBytes.toNat)
      else (stream.outcome.map fun _ => bytes).mapError .engine := by
  intro stream bytes
  rw [result_logs, LogOptions.byteLimit]
  by_cases limited : 0 < o.limitBytes
  · rw [if_pos limited, Option.map_some, collect_some (UInt64.lt_iff_toNat_lt.1 limited)]
    by_cases enough : o.limitBytes.toNat ≤ bytes.length
    · rw [if_pos enough, if_pos ⟨limited, enough⟩]
      rfl
    · rw [if_neg enough, if_neg fun both => enough both.2]
  · rw [if_neg limited, Option.map_none, collect_none, if_neg fun both => limited both.1]

/-- Whatever an engine sends of a log: without a limit all bytes are read, or the first fault is
the result. With a limit so many bytes are read from the front, if so many arrive before the first
fault or there is none, and else that fault is the result. How the bytes are cut into pieces does
not matter. -/
theorem logs_exact_to_limit (now : Instant) (handle : String) (o : LogOptions)
    (engine : Partner σ) (s : σ) :
    let stream := sent engine now handle o s
    let bytes := messages stream.arrived
    let result := (logs now handle o).result engine s
    (o.limitBytes = 0 →
      (stream.outcome = .ok () → result = .ok bytes) ∧
      ∀ fault, stream.outcome = .error fault → result = .error (.engine fault)) ∧
    (0 < o.limitBytes →
      (o.limitBytes.toNat ≤ bytes.length ∨ stream.outcome = .ok () →
        result = .ok (bytes.take (min o.limitBytes.toNat bytes.length))) ∧
      (bytes.length < o.limitBytes.toNat →
        ∀ fault, stream.outcome = .error fault → result = .error (.engine fault))) ∧
    ∀ (engine' : Partner τ) (s' : τ),
      messages (sent engine' now handle o s').arrived = bytes →
      (sent engine' now handle o s').outcome = stream.outcome →
      (logs now handle o).result engine' s' = result := by
  intro stream bytes result
  have read : result = _ := result_logs_eq now handle o engine s
  refine ⟨fun unlimited => ⟨fun fine => ?_, fun fault failed => ?_⟩,
    fun limited => ⟨fun whole => ?_, fun short fault failed => ?_⟩,
    fun engine' s' same same' => ?_⟩
  · rw [read, if_neg (by simp [unlimited]), fine]
    rfl
  · rw [read, if_neg (by simp [unlimited]), failed]
    rfl
  · rw [List.take_eq_take_min.symm, read]
    by_cases enough : o.limitBytes.toNat ≤ bytes.length
    · rw [if_pos ⟨limited, enough⟩]
    · have fine := whole.resolve_left enough
      rw [if_neg fun both => enough both.2, fine, List.take_of_length_le (by omega)]
      rfl
  · rw [read, if_neg fun both => absurd both.2 (Nat.not_le.2 short), failed]
    rfl
  · rw [read, result_logs_eq, same, same']

/-- An engine that sends this of every log and answers nothing else. -/
def sending (stream : Stream LogChunk) : Partner Unit := fun a u =>
  (match a with
    | .readLog _ _ => stream
    | a => a.unanswered, u)

/-- The limit is reached within the third piece, and the fault behind it does not count. -/
theorem log_read_to_limit :
    let stream : Stream LogChunk :=
      [.ok ⟨.output, [97, 98]⟩, .ok ⟨.input, [120, 120]⟩, .ok ⟨.errors, [99, 100]⟩, .error .broken]
    let o : LogOptions := { LogOptions.all with limitBytes := 3 }
    (logs ⟨0, 0⟩ "c1" o).result (sending stream) () = .ok [97, 98, 99] ∧
      (logs ⟨0, 0⟩ "c1" .all).result (sending stream) () = .error (.engine .broken) := by
  intro stream o
  have limited :=
    (logs_exact_to_limit (τ := Unit) ⟨0, 0⟩ "c1" o (sending stream) ()).2.1 (by decide)
  have unlimited := (logs_exact_to_limit (τ := Unit) ⟨0, 0⟩ "c1" .all (sending stream) ()).1 rfl
  exact ⟨limited.1 (.inl (by decide)), unlimited.2 _ rfl⟩

/-! ### Frames -/

/-- The byte of an origin in the head of a frame. -/
def Origin.mark : Origin → UInt8
  | .input => 0
  | .output => 1
  | .errors => 2
  | .terminal => newline

namespace LogChunk

/-- A number as four bytes, the greatest first. -/
def fourBytes (n : Nat) : Bytes :=
  [.ofNat (n / 16777216), .ofNat (n / 65536), .ofNat (n / 256), .ofNat n]

/-- A piece as it is sent: four bytes for its origin, four for its length, and its bytes. -/
def frame (c : LogChunk) : Bytes :=
  c.origin.mark :: 0 :: 0 :: 0 :: (fourBytes c.bytes.length ++ c.bytes)

/-- The piece can be sent in a frame. -/
structure Framed (c : LogChunk) : Prop where
  headed : c.origin ≠ .terminal
  short : c.bytes.length < 4294967296

theorem length_fourBytes {n : Nat} (short : n < 4294967296) :
    length (.ofNat (n / 16777216)) (.ofNat (n / 65536)) (.ofNat (n / 256)) (.ofNat n) = n := by
  simp only [length, UInt8.toNat_ofNat']
  omega

theorem origin?_mark {o : Origin} (headed : o ≠ .terminal) : origin? o.mark = some o := by
  cases o with
  | terminal => exact absurd rfl headed
  | _ => rfl

theorem chunks_frame_append {c : LogChunk} (framed : c.Framed) (rest : Bytes) :
    chunks (c.frame ++ rest) = .ok c :: chunks rest := by
  obtain ⟨origin, bytes⟩ := c
  rw [frame, List.cons_append, chunks, origin?_mark framed.headed]
  simp only [List.cons_append, fourBytes, List.nil_append, length_fourBytes framed.short]
  rw [if_neg (by simp), List.take_left, List.drop_left]

/-- Frames are cut into the pieces that were sent. -/
theorem chunks_flatMap_frame {cs : List LogChunk} (framed : ∀ c ∈ cs, c.Framed) :
    chunks (cs.flatMap frame) = cs.map .ok := by
  induction cs with
  | nil => rw [List.flatMap_nil, chunks, List.map_nil]
  | cons c cs ih =>
      rw [List.forall_mem_cons] at framed
      rw [List.flatMap_cons, chunks_frame_append framed.1, ih framed.2, List.map_cons]

end LogChunk

theorem Stream.arrived_map_ok {α : Type} (items : List α) :
    Stream.arrived (items.map .ok) = items := by
  induction items with
  | nil => rfl
  | cons a items ih => exact congrArg (a :: ·) ih

theorem Stream.outcome_map_ok {α : Type} (items : List α) :
    Stream.outcome (items.map .ok) = .ok () := by
  induction items with
  | nil => rfl
  | cons a items ih => exact ih

/-- A log that comes in frames is read as its bytes up to the limit, however it is cut. -/
theorem logs_of_frames {now : Instant} {handle : String} {o : LogOptions} {cs : List LogChunk}
    (framed : ∀ c ∈ cs, c.Framed) {reply? : Request → Option Reply}
    (replied : reply? (Ask.readLog handle (.ofOptions now o)).request =
      some ⟨200, cs.flatMap frame⟩) :
    (converse reply? (logs now handle o).run).1 =
      .ok (if 0 < o.limitBytes then (messages cs).take o.limitBytes.toNat else messages cs) := by
  have stream : sent (answering reply?) now handle o () = cs.map .ok := by
    rw [sent, answering, replied]
    exact chunks_flatMap_frame framed
  rw [converse_eq]
  refine (result_logs_eq now handle o (answering reply?) ()).trans ?_
  rw [stream, Stream.arrived_map_ok, Stream.outcome_map_ok]
  by_cases limited : 0 < o.limitBytes
  · by_cases enough : o.limitBytes.toNat ≤ (messages cs).length
    · rw [if_pos ⟨limited, enough⟩, if_pos limited]
    · rw [if_neg fun both => enough both.2, if_pos limited, List.take_of_length_le (by omega)]
      rfl
  · rw [if_neg fun both => limited both.1, if_neg limited]
    rfl

end Podkeeper.Engine
