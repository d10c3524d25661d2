import Podkeeper.Proofs.Engine.Exchanges
import Mathlib.Tactic.Common

/-!
From when on a log is asked for.

Options begin the window of a log at an instant, and the engine is told a second of 32 bits. A
second that the range holds is told as it is and a later one is cut down to the greatest number,
so that the engine's window never begins after the options' one. An instant before the range
becomes the greatest number, too, and then the engine gives nothing: the window is as wide as it
was asked for exactly down to the least number (`LogOptions.window_reaches_back`).
-/

namespace Podkeeper

open Wire

/-! ### Seconds of the engine -/

namespace Engine.LogWindow

variable {t : Instant}

theorem second_eq_min (within : Range.i32.low ≤ t.seconds) :
    second t = min t.seconds Range.i32.high := by
  rw [second]
  split
  · next held => exact (Int.min_eq_left (Range.holds_iff.1 held).2).symm
  · next out =>
      have above : Range.i32.high ≤ t.seconds := by
        by_contra below
        exact out (Range.holds_iff.2 ⟨within, by omega⟩)
      exact (Int.min_eq_right above).symm

theorem second_eq_high (before : t.seconds < Range.i32.low) : second t = Range.i32.high := by
  rw [second, if_neg]
  intro held
  have within := (Range.holds_iff.1 held).1
  omega

theorem second_le_high (t : Instant) : second t ≤ Range.i32.high := by
  by_cases within : Range.i32.low ≤ t.seconds
  · rw [second_eq_min within]
    exact Int.min_le_right ..
  · exact Int.le_of_eq (second_eq_high (by omega))

/-- The engine's window begins no later than the one that is asked for, down to the least number
that the engine can be told. -/
theorem second_le_iff : second t ≤ t.seconds ↔ Range.i32.low ≤ t.seconds := by
  constructor
  · intro covered
    by_contra before
    rw [second_eq_high (by omega)] at covered
    have ordered : Range.i32.low ≤ Range.i32.high := by decide
    omega
  · intro within
    rw [second_eq_min within]
    exact Int.min_le_left ..

end Engine.LogWindow

namespace LogOptions

open Engine.LogWindow

/-- The second that the engine is told for options. -/
def firstSecond (now : Instant) (o : LogOptions) : Int := (ofOptions now o).since

variable {now t : Instant} {o : LogOptions}

theorem firstSecond_of_since (given : o.since now = some t) : o.firstSecond now = second t := by
  rw [firstSecond, ofOptions, given]
  rfl

theorem firstSecond_of_none (given : o.since now = none) : o.firstSecond now = 0 := by
  rw [firstSecond, ofOptions, given]
  rfl

theorem firstSecond_le_high (now : Instant) (o : LogOptions) :
    o.firstSecond now ≤ Range.i32.high := by
  cases given : o.since now with
  | none =>
      rw [firstSecond_of_none given]
      decide
  | some t =>
      rw [firstSecond_of_since given]
      exact second_le_high t

/-! ### Seconds before now -/

/-- Where seconds are counted, an instant that is wanted is so many seconds ago. -/
theorem since_eq_some_iff (counted : 0 < o.sinceSeconds) :
    o.since now = some t ↔ o.sinceSeconds.toInt ≤ maxSpan ∧
      t = ⟨now.seconds - o.sinceSeconds.toInt, now.nanos⟩ ∧ t.isValid = true := by
  rw [since, if_pos counted]
  split
  · next short => simp [short, Instant.back_eq_some_iff]
  · next long => simp [long]

/-- So many seconds ago is an instant of the calendar as far as the engine can be told of it. -/
theorem since_of_within (valid : now.isValid) (counted : 0 < o.sinceSeconds)
    (within : Range.i32.low ≤ now.seconds - o.sinceSeconds.toInt) :
    o.since now = some ⟨now.seconds - o.sinceSeconds.toInt, now.nanos⟩ := by
  have positive : 0 < o.sinceSeconds.toInt := Int64.lt_iff_toInt_lt.1 counted
  have latest := (Instant.isValid_iff.1 valid).2
  simp only [Range.i32, Instant.maxSeconds] at within latest
  refine (since_eq_some_iff counted).2 ⟨?_, rfl, Instant.isValid_iff.2 ⟨?_, ?_⟩⟩
  · simp only [maxSpan]
    omega
  · simp only [Instant.minSeconds]
    omega
  · simp only [Instant.maxSeconds]
    omega

/-- The same options with another count of seconds. -/
def withSeconds (o : LogOptions) (n : Int64) : LogOptions := { o with sinceSeconds := n }

/-- More seconds lead to no later second as far as the engine can be told of them. Beyond that
they do so only where the second is the greatest number anyway, or where they leave the calendar
and the engine is told to begin with 1970. -/
theorem firstSecond_withSeconds_le_iff {n : Int64} (valid : now.isValid)
    (counted : 0 < o.sinceSeconds) (more : o.sinceSeconds ≤ n) :
    (o.withSeconds n).firstSecond now ≤ o.firstSecond now ↔
      Range.i32.low ≤ now.seconds - n.toInt ∨ o.firstSecond now = Range.i32.high ∨
        (o.withSeconds n).since now = none ∧ 0 ≤ o.firstSecond now := by
  have longer : o.sinceSeconds.toInt ≤ n.toInt := Int64.le_iff_toInt_le.1 more
  have counted' : 0 < (o.withSeconds n).sinceSeconds := Int64.lt_of_lt_of_le counted more
  by_cases within : Range.i32.low ≤ now.seconds - n.toInt
  · have here : Range.i32.low ≤ now.seconds - o.sinceSeconds.toInt := by omega
    rw [firstSecond_of_since (since_of_within valid counted here), second_eq_min here,
      firstSecond_of_since (since_of_within valid counted' within), second_eq_min within]
    refine iff_of_true ?_ (.inl within)
    change min (now.seconds - n.toInt) Range.i32.high ≤ min (now.seconds - o.sinceSeconds.toInt) _
    omega
  · have most := firstSecond_le_high now o
    cases given : (o.withSeconds n).since now with
    | none =>
        rw [firstSecond_of_none given]
        constructor
        · intro covered
          exact .inr (.inr ⟨rfl, covered⟩)
        · rintro (told | top | ⟨-, covered⟩)
          · exact absurd told within
          · rw [top]
            decide
          · exact covered
    | some t =>
        have ago := ((since_eq_some_iff counted').1 given).2.1
        have before : t.seconds < Range.i32.low := by
          rw [ago]
          exact Int.not_le.1 within
        rw [firstSecond_of_since given, second_eq_high before]
        constructor
        · intro covered
          exact .inr (.inl (by omega))
        · rintro (told | top | ⟨left, -⟩)
          · exact absurd told within
          · exact Int.le_of_eq top.symm
          · cases left

/-! ### The window of a log -/

/-- Where options want a log from an instant on, the one request that is sent names a second that
is not later, exactly if the instant is not before all that the engine can be told of; and more
seconds never lead to a later second down to there. -/
theorem window_reaches_back (now : Instant) (handle : String) (o : LogOptions) :
    (∃ request : Engine.Request,
      (∀ reply?, (Engine.converse reply? (Engine.logs now handle o).run).2 = [request]) ∧
        request.query.lookup "since" = some (toString (o.firstSecond now))) ∧
    (∀ t, o.since now = some t →
      (o.firstSecond now ≤ t.seconds ↔ Range.i32.low ≤ t.seconds)) ∧
    ∀ n, now.isValid → 0 < o.sinceSeconds → o.sinceSeconds ≤ n →
      ((o.withSeconds n).firstSecond now ≤ o.firstSecond now ↔
        Range.i32.low ≤ now.seconds - n.toInt ∨ o.firstSecond now = Range.i32.high ∨
          (o.withSeconds n).since now = none ∧ 0 ≤ o.firstSecond now) := by
  refine ⟨⟨(Engine.Ask.readLog handle (ofOptions now o)).request, fun reply? => ?_, rfl⟩,
    fun t given => ?_, fun n => firstSecond_withSeconds_le_iff⟩
  · rw [Engine.converse_eq]
    rfl
  · rw [firstSecond_of_since given]
    exact second_le_iff

/-- Options that want what was written in so many seconds. -/
def lastSeconds (n : Int64) : LogOptions := all.withSeconds n

end LogOptions

/-- Noon of a day in May 2024. -/
def Instant.inMay : Instant := ⟨1714564800, 0⟩

/-- Windows that begin before 1970, and as early as the engine can be told. -/
theorem window_behind_1970 :
    let o := LogOptions.lastSeconds 2000000000
    let longer := o.withSeconds 3862048448
    o.since .inMay = some ⟨-285435200, 0⟩ ∧ o.firstSecond .inMay ≤ -285435200 ∧
      longer.firstSecond .inMay ≤ o.firstSecond .inMay := by
  intro o longer
  have given : o.since .inMay = some ⟨-285435200, 0⟩ := by decide +kernel
  obtain ⟨-, covered, longest⟩ := LogOptions.window_reaches_back .inMay "c1" o
  exact ⟨given, (covered _ given).2 (by decide),
    (longest 3862048448 (by decide) (by decide) (by decide)).2 (.inl (by decide))⟩

/-- Options that reach further back than the engine can be told are accepted, and the engine is
asked for what is written from 2038 on. -/
theorem window_behind_range :
    (¬ ∀ (now t : Instant) (o : LogOptions), now.isValid → o.check = .ok () →
      o.since now = some t → o.firstSecond now ≤ t.seconds) ∧
    ¬ ∀ (now : Instant) (o : LogOptions) (n : Int64), now.isValid → o.check = .ok () →
      0 < o.sinceSeconds → o.sinceSeconds ≤ n →
      (o.withSeconds n).firstSecond now ≤ o.firstSecond now := by
  constructor
  · intro always
    have covered := always .inMay ⟨-3285435200, 0⟩ (.lastSeconds 5000000000) (by decide)
      (by decide +kernel) (by decide +kernel)
    exact absurd covered (by decide +kernel)
  · intro always
    have covered := always .inMay (.lastSeconds 3600) 5000000000 (by decide) (by decide +kernel)
      (by decide) (by decide)
    exact absurd covered (by decide +kernel)

end Podkeeper
