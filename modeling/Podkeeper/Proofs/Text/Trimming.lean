import Podkeeper.Text.Blank

/-!
Trimming.

Trimming goes over a text twice, once from each end. `trimChars_eq_iff` says what comes out without
either pass: the part of the text that has only blanks before and behind it and neither begins
nor ends with one.
-/

namespace Podkeeper.Blank

/-- A word is what the characters are without the blanks around it. -/
structure IsTrimmed (cs word : List Char) : Prop where
  within : ∃ lead trail, cs = lead ++ word ++ trail ∧ (∀ c ∈ lead, isBlank c = true) ∧
    ∀ c ∈ trail, isBlank c = true
  starts : ∀ c ∈ word.head?, isBlank c = false
  ends : ∀ c ∈ word.getLast?, isBlank c = false

/-- Blanks in front of something else are dropped, and nothing more. -/
theorem dropWhile_lead {lead rest : List Char} (blank : ∀ c ∈ lead, isBlank c = true)
    (starts : ∀ c ∈ rest.head?, isBlank c = false) : (lead ++ rest).dropWhile isBlank = rest := by
  rw [List.dropWhile_append_of_pos blank]
  cases rest with
  | nil => rfl
  | cons c rest => simp [starts c rfl]

/-- What is left begins with no blank, and the blanks in front of it were dropped. -/
theorem exists_lead (cs : List Char) : ∃ lead, cs = lead ++ cs.dropWhile isBlank ∧
    (∀ c ∈ lead, isBlank c = true) ∧ ∀ c ∈ (cs.dropWhile isBlank).head?, isBlank c = false := by
  refine ⟨cs.takeWhile isBlank, (List.takeWhile_append_dropWhile).symm, ?_, ?_⟩
  · intro c member
    exact List.all_eq_true.1 List.all_takeWhile c member
  · intro c head
    have first := List.head?_dropWhile_not isBlank cs
    rw [Option.mem_def.1 head] at first
    exact first

theorem isTrimmed_trimChars (cs : List Char) : IsTrimmed cs (trimChars cs) := by
  obtain ⟨lead, front, leadBlank, starts⟩ := exists_lead cs
  obtain ⟨trail, back, trailBlank, ends⟩ := exists_lead (cs.dropWhile isBlank).reverse
  have whole : cs.dropWhile isBlank = trimChars cs ++ trail.reverse := by
    rw [trimChars, ← List.reverse_append, ← back, List.reverse_reverse]
  refine ⟨⟨lead, trail.reverse, ?_, leadBlank, ?_⟩, ?_, ?_⟩
  · rw [List.append_assoc, ← whole, ← front]
  · intro c member
    exact trailBlank c (List.mem_reverse.1 member)
  · intro c head
    rw [whole, List.head?_append, Option.mem_def.1 head] at starts
    exact starts c rfl
  · intro c last
    rw [trimChars, List.getLast?_reverse] at last
    exact ends c last

theorem trimChars_of_isTrimmed {cs word : List Char} (trimmed : IsTrimmed cs word) :
    trimChars cs = word := by
  obtain ⟨⟨lead, trail, rfl, leadBlank, trailBlank⟩, starts, ends⟩ := trimmed
  cases word with
  | nil =>
    have blank : ∀ c ∈ lead ++ trail, isBlank c = true := by
      intro c member
      exact (List.mem_append.1 member).elim (leadBlank c) (trailBlank c)
    have dropped : (lead ++ trail ++ []).dropWhile isBlank = [] :=
      dropWhile_lead blank fun _ head => nomatch head
    rw [List.append_nil] at dropped
    rw [List.append_nil, trimChars, dropped]
    rfl
  | cons c word =>
    have front : (lead ++ c :: word ++ trail).dropWhile isBlank = c :: word ++ trail := by
      rw [List.append_assoc]
      exact dropWhile_lead leadBlank (by simpa using starts)
    have back : (c :: word ++ trail).reverse.dropWhile isBlank = (c :: word).reverse := by
      rw [List.reverse_append]
      refine dropWhile_lead ?_ ?_
      · intro c member
        exact trailBlank c (List.mem_reverse.1 member)
      · rw [List.head?_reverse]
        exact ends
    rw [trimChars, front, back, List.reverse_reverse]

theorem trimChars_eq_iff {cs word : List Char} : trimChars cs = word ↔ IsTrimmed cs word := by
  constructor
  · rintro rfl
    exact isTrimmed_trimChars cs
  · exact trimChars_of_isTrimmed

/-- Where nothing is blank nothing is dropped. -/
theorem trimChars_of_notBlank {cs : List Char} (filled : ∀ c ∈ cs, isBlank c = false) :
    trimChars cs = cs := by
  refine trimChars_of_isTrimmed ⟨⟨[], [], (List.append_nil cs).symm, ?_, ?_⟩, ?_, ?_⟩
  · exact List.forall_mem_nil _
  · exact List.forall_mem_nil _
  · intro c head
    exact filled c (List.mem_of_mem_head? head)
  · intro c last
    exact filled c (List.mem_of_getLast? last)

end Podkeeper.Blank
