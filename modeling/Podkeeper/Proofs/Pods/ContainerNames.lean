import Podkeeper.Proofs.Pods.Namespaces

/-!
What containers are called in the engine.

A container is run under its own name and the uid of its pod, with a hyphen between them
(`RunRequest.name_of_build`). Names of containers may have hyphens, and uids too, so containers of
two pods can be run under one name: a uid ends with a hyphen and the other uid, and what stands
before it ends the name of the other's container (`name_of_build_eq_iff`). Uids of one length
never do.
-/

namespace Podkeeper

namespace RunRequest

variable {p q : Pod} {bundles bundles' : List Bundle} {c d : Container} {r r' : RunRequest}

theorem name_of_build (built : build p bundles c = .ok r) : r.name = c.name ++ "-" ++ p.uid := by
  obtain ⟨values, -, ⟨⟩⟩ := bind_eq_ok.1 built
  rfl

/-- A uid that ends with a hyphen and another uid is longer. -/
theorem length_lt_of_eq_append {uid uid' part : String} (same : uid = part ++ "-" ++ uid') :
    uid'.length < uid.length := by
  have hyphen : "-".length = 1 := rfl
  rw [same, String.length_append, String.length_append, hyphen]
  omega

/-- Containers are run under one name exactly if they have one name and one uid, or what one of
the names has behind that of the other and a hyphen stands in the other's uid before a hyphen and
the one's. -/
theorem name_of_build_eq_iff (built : build p bundles c = .ok r)
    (built' : build q bundles' d = .ok r') :
    (r.name = r'.name ↔
      (c.name = d.name ∧ p.uid = q.uid) ∨
      ∃ part, (d.name = c.name ++ "-" ++ part ∧ p.uid = part ++ "-" ++ q.uid) ∨
        (c.name = d.name ++ "-" ++ part ∧ q.uid = part ++ "-" ++ p.uid)) ∧
    ((∀ part, p.uid ≠ part ++ "-" ++ q.uid ∧ q.uid ≠ part ++ "-" ++ p.uid) →
      (r.name = r'.name ↔ c.name = d.name ∧ p.uid = q.uid)) ∧
    (p.uid.length = q.uid.length → (r.name = r'.name ↔ c.name = d.name ∧ p.uid = q.uid)) := by
  -- a directory is named in the same way, by a namespace, a hyphen and a config map
  have names : directoryName c.name p.uid = directoryName d.name q.uid ↔ _ := directoryName_eq_iff
  simp only [directoryName] at names
  rw [← name_of_build built, ← name_of_build built'] at names
  have apart (free : ∀ part, p.uid ≠ part ++ "-" ++ q.uid ∧ q.uid ≠ part ++ "-" ++ p.uid) :
      r.name = r'.name ↔ c.name = d.name ∧ p.uid = q.uid := by
    refine names.trans (or_iff_left ?_)
    rintro ⟨part, ⟨-, longer⟩ | ⟨-, longer⟩⟩
    · exact (free part).1 longer
    · exact (free part).2 longer
  refine ⟨names, apart, fun lengths => apart fun part => ⟨fun longer => ?_, fun longer => ?_⟩⟩
  · have := length_lt_of_eq_append longer
    omega
  · have := length_lt_of_eq_append longer
    omega

end RunRequest

/-- A container that needs nothing but its image. -/
def Container.plain (name : String) : Container :=
  ⟨name, "i", none, [], [], .empty, [], []⟩

/-- A pod of such containers. -/
def Pod.plain (uid : String) (names : List String) : Pod where
  metadata := ⟨"web", "ns", uid, .empty, .empty⟩
  spec :=
    { containers := names.map .plain
      initContainers := []
      volumes := []
      restartPolicy := .always
      gracePeriod := none }

theorem names_of_uids_of_one_length :
    ∃ r r', RunRequest.build (.plain "uid-1" ["a"]) [] (.plain "a") = .ok r ∧
      RunRequest.build (.plain "uid-2" ["a"]) [] (.plain "a") = .ok r' ∧ r.name ≠ r'.name := by
  let p := Pod.plain "uid-1" ["a"]
  let q := Pod.plain "uid-2" ["a"]
  obtain ⟨r, built⟩ : ∃ r, RunRequest.build p [] (.plain "a") = .ok r := ⟨_, rfl⟩
  obtain ⟨r', built'⟩ : ∃ r', RunRequest.build q [] (.plain "a") = .ok r' := ⟨_, rfl⟩
  have lengths : p.uid.length = q.uid.length := by decide +kernel
  refine ⟨r, r', built, built', fun same => ?_⟩
  have uids := (((RunRequest.name_of_build_eq_iff built built').2.2 lengths).1 same).2
  exact absurd uids (by decide +kernel)

/-- Two admitted pods whose uids differ can have containers that are run under one name. -/
theorem one_name_for_two_pods :
    ¬ ∀ (p q : Pod) (bundles bundles' : List Bundle) (c d : Container) (r r' : RunRequest),
      p.check = .ok () → q.check = .ok () → c ∈ p.spec.containers → d ∈ q.spec.containers →
      RunRequest.build p bundles c = .ok r → RunRequest.build q bundles' d = .ok r' →
      r.name = r'.name → c.name = d.name ∧ p.uid = q.uid := by
  intro always
  have admitted : (Pod.plain "b-c" ["a"]).check = .ok () ∧
      (Pod.plain "c" ["a-b"]).check = .ok () := by decide +kernel
  have same := always (.plain "b-c" ["a"]) (.plain "c" ["a-b"]) [] [] (.plain "a") (.plain "a-b")
    _ _ admitted.1 admitted.2 (List.mem_singleton_self _) (List.mem_singleton_self _) rfl rfl
    (by decide +kernel)
  exact absurd same.2 (by decide +kernel)

end Podkeeper
