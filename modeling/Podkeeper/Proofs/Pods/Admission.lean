import Podkeeper.Pod.Check
import Podkeeper.Proofs.Outcomes

/-!
What the check of a pod has looked at, once it has admitted the pod.

A verdict is a sequence of verdicts, so it admits exactly if all of them do. The lemmas here take
the checks of names, lists and pods apart in this way, and later results read off the part that
they need.
-/

namespace Podkeeper

/-! ### Verdicts in sequence -/

@[simp] theorem require_eq_ok {condition : Bool} {v : Violation} :
    require condition v = .ok () ↔ condition = true := by
  cases condition <;> simp [require]

namespace Verdict

theorem bind_eq_ok {first : Verdict} {rest : Unit → Verdict} :
    (first >>= rest) = .ok () ↔ first = .ok () ∧ rest () = .ok () :=
  Podkeeper.bind_eq_ok.trans ⟨fun ⟨_, each⟩ => each, fun each => ⟨(), each⟩⟩

theorem forM_eq_ok {α : Type} {check : α → Verdict} {as : List α} :
    as.forM check = .ok () ↔ ∀ a ∈ as, check a = .ok () := by
  induction as with
  | nil => simp [pure, Except.pure]
  | cons a as ih =>
      rw [List.forall_mem_cons, ← ih]
      exact bind_eq_ok

end Verdict

/-- The elements are all in order, and no name occurs twice. -/
theorem checkDistinct_eq_ok {α : Type} {name : α → String} {check : α → Verdict}
    {duplicate : String → Violation} {seen : List String} {as : List α} :
    checkDistinct name check duplicate seen as = .ok () ↔
      (∀ a ∈ as, check a = .ok ()) ∧ (as.map name).Nodup ∧ ∀ a ∈ as, name a ∉ seen := by
  induction as generalizing seen with
  | nil => simp [checkDistinct]
  | cons a as ih =>
      rw [List.forall_mem_cons, List.forall_mem_cons, List.map_cons, List.nodup_cons]
      simp only [checkDistinct, Verdict.bind_eq_ok, require_eq_ok, ih, List.mem_map,
        List.mem_cons, List.contains_eq_mem, Bool.not_eq_true', decide_eq_false_iff_not]
      constructor
      · rintro ⟨checked, unseen, rest, distinct, apart⟩
        refine ⟨⟨checked, rest⟩, ⟨?_, distinct⟩, unseen, fun b member => ?_⟩
        · rintro ⟨b, member, same⟩
          exact apart b member (.inl same)
        · exact fun seen => apart b member (.inr seen)
      · rintro ⟨⟨checked, rest⟩, ⟨first, distinct⟩, unseen, apart⟩
        refine ⟨checked, unseen, rest, distinct, fun b member => ?_⟩
        rintro (same | seen)
        · exact first ⟨b, member, same⟩
        · exact apart b member seen

/-! ### Names -/

namespace Name

theorem checkLabel_eq_ok {kind name : String} :
    checkLabel kind name = .ok () ↔
      name ≠ "" ∧ Utf8.size name ≤ Limit.label ∧ name.toList.all isLabelChar = true ∧
        hasPlainEnds name.toList = true := by
  simp [checkLabel, Verdict.bind_eq_ok]

theorem checkSubdomain_eq_ok {kind name : String} :
    checkSubdomain kind name = .ok () ↔
      name ≠ "" ∧ Utf8.size name ≤ Limit.subdomain ∧
        ∀ word ∈ splitAt '.' name.toList, isWord word = true := by
  simp [checkSubdomain, Verdict.bind_eq_ok]

/-- Every character but the mark is in one of the parts. -/
theorem exists_part_of_mem {mark c : Char} {cs : List Char} (member : c ∈ cs) (other : c ≠ mark) :
    ∃ part ∈ splitAt mark cs, c ∈ part := by
  induction cs with
  | nil => cases member
  | cons d cs ih =>
      rw [splitAt]
      by_cases cut : d = mark
      · rw [if_pos cut]
        have later : c ∈ cs :=
          (List.mem_cons.1 member).resolve_left fun first => other (first.trans cut)
        obtain ⟨part, among, inside⟩ := ih later
        exact ⟨part, List.mem_cons_of_mem _ among, inside⟩
      · rw [if_neg cut]
        cases split : splitAt mark cs with
        | nil =>
            have first : c = d := by
              rcases List.mem_cons.1 member with first | later
              · exact first
              · obtain ⟨part, among, -⟩ := ih later
                simp [split] at among
            exact ⟨[d], List.mem_singleton_self _, by simp [first]⟩
        | cons part parts =>
            rcases List.mem_cons.1 member with first | later
            · exact ⟨d :: part, List.mem_cons_self, by simp [first]⟩
            · obtain ⟨found, among, inside⟩ := ih later
              rw [split, List.mem_cons] at among
              rcases among with rfl | among
              · exact ⟨d :: found, List.mem_cons_self, List.mem_cons_of_mem _ inside⟩
              · exact ⟨found, List.mem_cons_of_mem _ among, inside⟩

/-- The characters of a subdomain are those of labels, and points. -/
theorem isLabelChar_of_subdomain {kind name : String}
    (subdomain : checkSubdomain kind name = .ok ()) {c : Char} (member : c ∈ name.toList)
    (other : c ≠ '.') : isLabelChar c = true := by
  obtain ⟨word, among, inside⟩ := exists_part_of_mem member other
  have good := (checkSubdomain_eq_ok.1 subdomain).2.2 word among
  simp only [isWord, Bool.and_eq_true, List.all_eq_true] at good
  exact good.2 c inside

end Name

/-! ### Pods -/

theorem Mount.check_eq_ok {container : String} {m : Mount} :
    m.check container = .ok () ↔
      m.volume ≠ "" ∧ m.path.toList.head? = some '/' ∧
        ∀ subPath, m.subPath = some subPath → isInnerPath subPath = true := by
  simp only [check, Verdict.bind_eq_ok, require_eq_ok]
  cases m.subPath with
  | none => simp
  | some subPath => simp

/-- A container on its own is in order if its name, its image, its variables and its mounts are. -/
theorem Container.check_eq_ok {c : Container} :
    c.check = .ok () ↔
      Name.checkLabel "container" c.name = .ok () ∧ Blank.isBlankText c.image = false ∧
        c.env.length ≤ Limit.env ∧ (∀ v ∈ c.env, v.name ≠ "" ∧ '=' ∉ v.name.toList) ∧
        ∀ m ∈ c.mounts, m.check c.name = .ok () := by
  simp only [check, Verdict.bind_eq_ok, Verdict.forM_eq_ok, require_eq_ok]
  simp

theorem Volume.check_eq_ok {v : Volume} :
    v.check = .ok () ↔ Name.checkLabel "volume" v.name = .ok () ∧
      match v.source with
      | .configMap q =>
        Name.checkSubdomain "configMap" q.name = .ok () ∧ q.checkItems v.name = .ok ()
      | .secret q => Name.checkSubdomain "secret" q.name = .ok () ∧ q.checkItems v.name = .ok ()
      | .emptyDir _ => True := by
  rw [check, Verdict.bind_eq_ok]
  cases v.source <;> simp [Verdict.bind_eq_ok]

namespace Pod

variable {p : Pod}

theorem namespace_of_check (admitted : p.check = .ok ()) :
    Name.checkLabel "namespace" p.metadata.ns = .ok () := by
  simp only [check, Verdict.bind_eq_ok] at admitted
  exact admitted.2.1

theorem container_of_check (admitted : p.check = .ok ()) {c : Container}
    (member : c ∈ p.spec.initContainers ++ p.spec.containers) : c.check = .ok () := by
  simp only [check, Verdict.bind_eq_ok, checkDistinct_eq_ok] at admitted
  obtain ⟨-, -, -, -, -, ⟨containers, -⟩, -⟩ := admitted
  exact containers c member

theorem mount_of_check (admitted : p.check = .ok ()) {c : Container}
    (member : c ∈ p.spec.initContainers ++ p.spec.containers) {m : Mount} (mounted : m ∈ c.mounts) :
    m.check c.name = .ok () :=
  (Container.check_eq_ok.1 (container_of_check admitted member)).2.2.2.2 m mounted

theorem volume_of_check (admitted : p.check = .ok ()) {v : Volume}
    (declared : v ∈ p.spec.volumes) : v.check = .ok () := by
  simp only [check, Verdict.bind_eq_ok, checkDistinct_eq_ok] at admitted
  obtain ⟨-, -, -, -, -, -, -, ⟨volumes, -⟩, -⟩ := admitted
  exact volumes v declared

end Pod

end Podkeeper
