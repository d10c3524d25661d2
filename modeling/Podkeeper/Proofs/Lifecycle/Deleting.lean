import Podkeeper.Proofs.Lifecycle.Creating

/-!
Deleting a pod.

A delete looks up what is noted of a uid, tries to remove each container, also after one of them
could not be removed, and drops the note only if all are gone (`Site.Deleting`). So a delete that
fails has changed nothing that is noted, and neither has one that is given up before its end
(`Site.unwritten_of_yields`).
-/

namespace Podkeeper

/-- A removal that failed. -/
def Act.isFailedRemoval : Act → Bool
  | ⟨.remove _ _, .error _⟩ => true
  | _ => false

/-- The first failure among the answers to removals. -/
def firstFailure? (answers : List (Except RuntimeFailure Unit)) : Option RuntimeFailure :=
  answers.findSome? fun answer => match answer with
    | .ok () => none
    | .error e => some e

theorem firstFailure?_eq_none_iff {answers : List (Except RuntimeFailure Unit)} :
    firstFailure? answers = none ↔ ∀ answer ∈ answers, answer = .ok () := by
  rw [firstFailure?, List.findSome?_eq_none_iff]
  refine forall₂_congr fun answer _ => ?_
  cases answer with
  | ok => simp
  | error e => simp

section Pairs

variable {α β γ : Type} {f : α → β → γ} {as : List α} {bs : List β}

theorem exists_mem_zipWith_left (length : bs.length = as.length) {a : α} (member : a ∈ as) :
    ∃ b ∈ bs, f a b ∈ List.zipWith f as bs := by
  obtain ⟨i, bound, rfl⟩ := List.mem_iff_getElem.1 member
  refine ⟨bs[i], List.getElem_mem _, List.mem_iff_getElem.2 ⟨i, by simpa [length] using bound, ?_⟩⟩
  rw [List.getElem_zipWith]

theorem exists_mem_zipWith_right (length : bs.length = as.length) {b : β} (member : b ∈ bs) :
    ∃ a ∈ as, f a b ∈ List.zipWith f as bs := by
  obtain ⟨i, bound, rfl⟩ := List.mem_iff_getElem.1 member
  refine ⟨as[i], List.getElem_mem _, List.mem_iff_getElem.2 ⟨i, by simpa [length] using bound, ?_⟩⟩
  rw [List.getElem_zipWith]

end Pairs

namespace Site

open Program

variable {uid : String} {acts : List Act}

/-- All containers are tried, and the first failure counts. -/
theorem yields_removeAll {failure r : Option RuntimeFailure} {ts : List Tracked}
    (yields : Yields (removeAll failure ts) acts r) :
    ∃ answers, answers.length = ts.length ∧
      acts = List.zipWith Act.removal (ts.map (·.handle)) answers ∧
      r = failure.or (firstFailure? answers) := by
  induction ts generalizing acts failure with
  | nil =>
      obtain ⟨rfl, rfl⟩ := yields_done.1 yields
      exact ⟨[], rfl, rfl, by simp [firstFailure?]⟩
  | cons t ts ih =>
      obtain ⟨a, rest, rfl, next⟩ := yields_perform.1 yields
      cases a with
      | ok =>
          obtain ⟨answers, length, rfl, rfl⟩ := ih next
          exact ⟨.ok () :: answers, by simp [length], rfl, by simp [firstFailure?]⟩
      | error e =>
          obtain ⟨answers, length, rfl, rfl⟩ := ih next
          refine ⟨.error e :: answers, by simp [length], rfl, ?_⟩
          cases failure <;> simp [firstFailure?]

/-- What is done under the lock of a uid to delete its pod, and what comes of it. -/
inductive Deleting (uid : String) : List Act → Except Failure Unit → Prop where
  | absent : Deleting uid [⟨.lookup uid, none⟩] (.error (.notFound (.pod uid)))
  /-- A container could not be removed. -/
  | kept (entry : List Tracked) (answers : List (Except RuntimeFailure Unit)) (e : RuntimeFailure)
      (tried : answers.length = entry.length) (failed : firstFailure? answers = some e) :
      Deleting uid
        (⟨.lookup uid, some entry⟩ ::
          List.zipWith Act.removal (entry.map (·.handle)) answers)
        (.error (.runtime e))
  /-- All containers are gone, and what was noted is dropped. -/
  | dropped (entry : List Tracked) (answers : List (Except RuntimeFailure Unit))
      (prior : List Tracked) (tried : answers.length = entry.length)
      (removed : firstFailure? answers = none) :
      Deleting uid
        (⟨.lookup uid, some entry⟩ ::
          (List.zipWith Act.removal (entry.map (·.handle)) answers ++
            [⟨.forget uid, some prior⟩]))
        (.ok ())
  /-- All containers are gone, but what was noted is not there any more. -/
  | missing (entry : List Tracked) (answers : List (Except RuntimeFailure Unit))
      (tried : answers.length = entry.length) (removed : firstFailure? answers = none) :
      Deleting uid
        (⟨.lookup uid, some entry⟩ ::
          (List.zipWith Act.removal (entry.map (·.handle)) answers ++ [⟨.forget uid, none⟩]))
        (.error (.notFound (.pod uid)))

/-- What is noted is looked up with one act. -/
theorem yields_tracked {r : Except Failure (List Tracked)}
    (yields : Yields (tracked uid).run acts r) :
    (acts = [⟨.lookup uid, none⟩] ∧ r = .error (.notFound (.pod uid))) ∨
      ∃ entry, acts = [⟨.lookup uid, some entry⟩] ∧ r = .ok entry := by
  obtain ⟨found, rest, rfl, next⟩ := Operation.yields_effect_bind.1 yields
  cases found with
  | none =>
      obtain ⟨rfl, rfl⟩ := Operation.yields_throw.1 next
      exact .inl ⟨rfl, rfl⟩
  | some entry =>
      obtain ⟨rfl, rfl⟩ := Operation.yields_pure.1 next
      exact .inr ⟨entry, rfl, rfl⟩

theorem yields_delete {r : Except Failure Unit} (yields : Yields (delete uid).run acts r) :
    ∃ inner, acts = Acts.underLock uid inner ∧ Deleting uid inner r := by
  obtain ⟨inner, rfl, body⟩ := Operation.yields_locked.1 yields
  refine ⟨inner, rfl, ?_⟩
  rcases Operation.yields_bind.1 body with ⟨f, rfl, absent⟩ | ⟨first, entry, rest, rfl, found, next⟩
  · rcases yields_tracked absent with ⟨rfl, same⟩ | ⟨_, -, same⟩
    · cases same
      exact .absent
    · cases same
  rcases yields_tracked found with ⟨-, same⟩ | ⟨_, rfl, same⟩
  · cases same
  cases same
  rcases Operation.yields_bind.1 next with
    ⟨f, -, lifted⟩ | ⟨removals, failure, last, rfl, lifted, ending⟩
  · obtain ⟨_, same, -⟩ := Operation.yields_lift.1 lifted
    cases same
  obtain ⟨_, same, removing⟩ := Operation.yields_lift.1 lifted
  cases same
  obtain ⟨answers, tried, rfl, same⟩ := yields_removeAll removing
  cases failure with
  | some e =>
      obtain ⟨rfl, rfl⟩ := Operation.yields_throw.1 ending
      rw [List.append_nil]
      exact .kept entry answers e tried same.symm
  | none =>
      obtain ⟨prior, _, rfl, ended⟩ := Operation.yields_effect_bind.1 ending
      cases prior with
      | some prior =>
          obtain ⟨rfl, rfl⟩ := Operation.yields_pure.1 ended
          exact .dropped entry answers prior tried same.symm
      | none =>
          obtain ⟨rfl, rfl⟩ := Operation.yields_throw.1 ended
          exact .missing entry answers tried same.symm

/-- A delete as it stands in the history of a uid: the note that it finds, what it does, its result,
and the note that it leaves. -/
inductive Deletion (uid : String) :
    Option (List Tracked) → List Act → Except Failure Unit → Option (List Tracked) → Prop where
  /-- Nothing is noted, and nothing is done. -/
  | absent :
      Deletion uid none (Acts.underLock uid [⟨.lookup uid, none⟩]) (.error (.notFound (.pod uid)))
        none
  /-- All containers are tried, one could not be removed, and the note stays. -/
  | kept (entry : List Tracked) (answers : List (Except RuntimeFailure Unit)) (e : RuntimeFailure)
      (tried : answers.length = entry.length) (failed : firstFailure? answers = some e) :
      Deletion uid (some entry)
        (Acts.underLock uid (⟨.lookup uid, some entry⟩ ::
          List.zipWith Act.removal (entry.map (·.handle)) answers))
        (.error (.runtime e)) (some entry)
  /-- All containers are removed, and the note is dropped. -/
  | dropped (entry : List Tracked) (answers : List (Except RuntimeFailure Unit))
      (tried : answers.length = entry.length) (removed : ∀ answer ∈ answers, answer = .ok ()) :
      Deletion uid (some entry)
        (Acts.underLock uid (⟨.lookup uid, some entry⟩ ::
          (List.zipWith Act.removal (entry.map (·.handle)) answers ++
            [⟨.forget uid, some entry⟩])))
        (.ok ()) none

theorem Deletion.exists_inner {found left : Option (List Tracked)} {r : Except Failure Unit}
    (h : Deletion uid found acts r left) : ∃ inner, acts = Acts.underLock uid inner := by
  cases h with
  | absent | kept | dropped => exact ⟨_, rfl⟩

theorem Deletion.left_of_error {found left : Option (List Tracked)} {f : Failure}
    (h : Deletion uid found acts (.error f) left) : left = found := by
  cases h with
  | absent | kept => rfl

theorem Deletion.left_of_ok {found left : Option (List Tracked)}
    (h : Deletion uid found acts (.ok ()) left) : left = none := by
  cases h with
  | dropped => rfl

/-- A delete that finds something and could remove all of it has succeeded. -/
theorem Deletion.removed_of_fine {entry : List Tracked} {left : Option (List Tracked)}
    {r : Except Failure Unit} (h : Deletion uid (some entry) acts r left)
    (fine : ∀ a ∈ acts, ¬a.isFailedRemoval) :
    r = .ok () ∧ ∀ t ∈ entry, (⟨.remove t.handle true, .ok ()⟩ : Act) ∈ acts := by
  cases h with
  | kept entry answers e tried failed =>
      obtain ⟨answer, member, same⟩ := List.exists_of_findSome?_eq_some failed
      cases answer with
      | ok => cases same
      | error e' =>
          have each : answers.length = (entry.map (·.handle)).length := by simpa using tried
          obtain ⟨handle, -, among⟩ := exists_mem_zipWith_right (f := Act.removal) each member
          refine absurd rfl (fine (Act.removal handle (.error e')) ?_)
          exact List.mem_cons_of_mem _ (List.mem_append_left _ (List.mem_cons_of_mem _ among))
  | dropped entry answers tried removed =>
      refine ⟨rfl, fun t member => ?_⟩
      have each : answers.length = (entry.map (·.handle)).length := by simpa using tried
      obtain ⟨answer, given, among⟩ :=
        exists_mem_zipWith_left (f := Act.removal) each (List.mem_map_of_mem member)
      rw [removed answer given] at among
      exact List.mem_cons_of_mem _ (List.mem_append_left _
        (List.mem_cons_of_mem _ (List.mem_append_left _ among)))

/-- Where the tracker is asked, a delete never finds its note gone before it drops it. -/
theorem deletion_of_yields {t : Tracker} {r : Except Failure Unit}
    (yields : Yields (delete uid).run acts r) (told : t.Answers acts) :
    Deletion uid (t.lookup uid) acts r ((t.afterAll acts).lookup uid) := by
  obtain ⟨inner, rfl, deleting⟩ := yields_delete yields
  have tried (found : Option (List Tracked)) (handles : List String)
      (answers : List (Except RuntimeFailure Unit)) :
      t.afterAll (⟨.lookup uid, found⟩ :: List.zipWith Act.removal handles answers) = t := by
    refine Tracker.afterAll_of_unwritten (List.forall_mem_cons.2 ⟨rfl, fun a member => ?_⟩)
    exact (Acts.passing_removals a member).unwritten
  rw [Tracker.afterAll_underLock]
  have told : t.Answers inner := (Tracker.answers_append.1 told.2).1
  cases deleting with
  | absent =>
      have found : none = t.lookup uid := told.1 _ rfl
      have same : t.afterAll [⟨.lookup uid, none⟩] = t := tried none [] []
      rw [same, ← found]
      exact .absent
  | kept entry answers e length failed =>
      have found : some entry = t.lookup uid := told.1 _ rfl
      rw [tried, ← found]
      exact .kept entry answers e length failed
  | dropped entry answers prior length removed =>
      have found : some entry = t.lookup uid := told.1 _ rfl
      rw [← List.cons_append] at told ⊢
      have last : some prior = (t.afterAll _).lookup uid :=
        (Tracker.answers_append.1 told).2.1 _ rfl
      rw [tried, ← found] at last
      cases last
      rw [Tracker.afterAll_concat, tried, Tracker.after, Tracker.lookup_forget, if_pos rfl, ← found]
      exact .dropped entry answers length (firstFailure?_eq_none_iff.1 removed)
  | missing entry answers length removed =>
      have found : some entry = t.lookup uid := told.1 _ rfl
      rw [← List.cons_append] at told
      have last : none = (t.afterAll _).lookup uid :=
        (Tracker.answers_append.1 told).2.1 _ rfl
      rw [tried, ← found] at last
      cases last

/-- After what was noted is dropped nobody outside is asked. -/
theorem Deleting.exists_split {inner : List Act} {r : Except Failure Unit}
    (h : Deleting uid inner r) :
    ∃ quiet last, Acts.underLock uid inner = quiet ++ last ∧
      (∀ a ∈ quiet, a.effect.writes? = none) ∧ ∀ a ∈ last, a.effect.isOutside = false := by
  have quiet (found : Option (List Tracked)) (handles : List String)
      (answers : List (Except RuntimeFailure Unit)) :
      ∀ a ∈ ⟨.acquire uid, ()⟩ :: ⟨.lookup uid, found⟩ :: List.zipWith Act.removal handles answers,
        a.effect.writes? = none := by
    refine List.forall_mem_cons.2 ⟨rfl, List.forall_mem_cons.2 ⟨rfl, fun a member => ?_⟩⟩
    exact (Acts.passing_removals a member).unwritten
  cases h with
  | absent => exact ⟨_, [⟨.release uid, ()⟩], rfl, quiet none [] [], by simp [Effect.isOutside]⟩
  | kept entry answers =>
      exact ⟨_, [⟨.release uid, ()⟩], rfl, quiet (some entry) _ answers, by simp [Effect.isOutside]⟩
  | dropped entry answers prior =>
      refine ⟨_, [⟨.forget uid, some prior⟩, ⟨.release uid, ()⟩], ?_, quiet (some entry)
        (entry.map (·.handle)) answers, by simp [Effect.isOutside]⟩
      simp [Acts.underLock]
  | missing entry answers =>
      refine ⟨_, [⟨.forget uid, none⟩, ⟨.release uid, ()⟩], ?_, quiet (some entry)
        (entry.map (·.handle)) answers, by simp [Effect.isOutside]⟩
      simp [Acts.underLock]

/-- Up to any answer from outside a delete has not changed the tracker. -/
theorem unwritten_of_yields {front more : List Act} {e : Effect} {answer : e.Answer}
    {r : Except Failure Unit}
    (yields : Yields (delete uid).run (front ++ ⟨e, answer⟩ :: more) r) (outside : e.isOutside) :
    ∀ a ∈ front, a.effect.writes? = none := by
  obtain ⟨inner, all, deleting⟩ := yields_delete yields
  obtain ⟨quiet, last, split, unwritten, answered⟩ := deleting.exists_split
  exact Acts.unwritten_of_split (all.trans split) unwritten answered outside

end Site

end Podkeeper
