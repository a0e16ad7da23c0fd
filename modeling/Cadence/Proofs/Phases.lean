import Cadence.Proofs.Authorization
import Cadence.Proofs.Membership

/-!
# Calls in phases

A registration checks, lets generators run, and enters the participant; a renewal of services
checks, finds the line of the participant, lets generators run, and installs what they made.
Anybody's accesses may come between. `Registers` and `Regenerates` say how such calls come out,
whatever comes between, and what they do to the world themselves.

A thread spans what is done from its first deed to its last (`Thread.Spans`). Of threads side by
side each follows a path through what all of them do (`World.interleave_paths`).
-/

namespace Cadence

variable {M α : Type}

open World

/-! ## Paths through what is done -/

namespace World

/-- Of threads side by side each follows a path through what all of them do, to its own result. -/
theorem interleave_paths {schedule : List Nat} {threads : List (Thread M α)} {w : World M} {i : Nat}
    {t : Thread M α} (at_i : threads[i]? = some t) :
    ∃ r path, (interleave schedule threads w).1[i]? = some r ∧ t.Follows path r ∧
      path.Sublist (deedsSideBySide schedule threads w) := by
  obtain ⟨ways, goes⟩ := interleave_ways schedule threads w
  exact goes.at_place at_i

variable {w w' : World M} {before between after : List (Deed M)} {d d' : Deed M}

/-- From one deed to a later one there lead accesses. -/
lemma Along.reaches_between (h : w.Along (before ++ d :: (between ++ d' :: after)) w') :
    Reaches d.after d'.world := by
  obtain ⟨w₁, -, -, later⟩ := h.split
  obtain ⟨w₂, along, rfl, -⟩ := later.split
  exact along.reaches

end World

/-- The thread can do its deeds among these, the first of them first and the last of them last. -/
def Thread.Spans (t : Thread M α) (during : List (Deed M)) (r : α) : Prop :=
  ∃ path, t.Follows path r ∧ path.Sublist during ∧ path.head? = during.head? ∧
    path.getLast? = during.getLast?

/-! ## How calls come out -/

section Calls

variable (generation : Member → Thread M ServiceSet) (id : ParticipantId)

/-- What a registration does, and its answer: it is refused at once, it is beaten by somebody who
registers the participant while the generators run, or it enters the participant. Unless it enters
the participant, it leaves the world as it is. -/
inductive Registers (name : String) :
    List (Deed M) → Except EnvironmentError Admission → Prop where
  | refused {w : World M} (present : w.environment.isRegistered id = true)
      (unchanged : Deed.after ⟨.checkAbsent id, w⟩ = w) :
      Registers name [⟨.checkAbsent id, w⟩] (.error (.alreadyRegistered id))
  | beaten {w w' : World M} {ds : List (Deed M)} {services : ServiceSet}
      (absent : w.environment.isRegistered id = false)
      (unchanged : Deed.after ⟨.checkAbsent id, w⟩ = w)
      (generates : (generation ⟨id, name⟩).Follows ds services)
      (present : w'.environment.isRegistered id = true)
      (unchanged' : Deed.after ⟨.enrol ⟨id, name⟩ services, w'⟩ = w') :
      Registers name (⟨.checkAbsent id, w⟩ :: (ds ++ [⟨.enrol ⟨id, name⟩ services, w'⟩]))
        (.error (.alreadyRegistered id))
  | entered {w w' : World M} {ds : List (Deed M)} {services : ServiceSet}
      (absent : w.environment.isRegistered id = false)
      (unchanged : Deed.after ⟨.checkAbsent id, w⟩ = w)
      (generates : (generation ⟨id, name⟩).Follows ds services)
      (absent' : w'.environment.isRegistered id = false)
      (enters : Deed.after ⟨.enrol ⟨id, name⟩ services, w'⟩ =
        { w' with environment := w'.environment.enter ⟨id, name⟩ services }) :
      Registers name (⟨.checkAbsent id, w⟩ :: (ds ++ [⟨.enrol ⟨id, name⟩ services, w'⟩]))
        (.ok ⟨id, w'.environment.nextKey.1, services⟩)

/-- What a renewal of services does, and its answer: it is refused at once, its key is not current
any more when the generators have run, or it installs what they made. Unless it installs that, it
leaves the world as it is. -/
inductive Regenerates (key : Key) : List (Deed M) → Except EnvironmentError ServiceSet → Prop where
  | refused {w : World M} (stale : w.environment.isCurrent id key = false)
      (unchanged : Deed.after ⟨.tenant id key, w⟩ = w) :
      Regenerates key [⟨.tenant id key, w⟩] (.error (.invalidAuthorization id))
  | lost {w w₁ w₂ : World M} {name : String} {ds : List (Deed M)} {services : ServiceSet}
      (tenant : w.environment.tenant id key = .ok name)
      (unchanged : Deed.after ⟨.tenant id key, w⟩ = w)
      (unchanged₁ : Deed.after ⟨.memberLine id, w₁⟩ = w₁)
      (generates :
        (generation ((w₁.environment.member? id).getD ⟨id, name⟩)).Follows ds services)
      (stale : w₂.environment.isCurrent id key = false)
      (unchanged₂ : Deed.after ⟨.install id key services, w₂⟩ = w₂) :
      Regenerates key
        (⟨.tenant id key, w⟩ :: ⟨.memberLine id, w₁⟩ :: (ds ++ [⟨.install id key services, w₂⟩]))
        (.error (.invalidAuthorization id))
  | installed {w w₁ w₂ : World M} {name : String} {ds : List (Deed M)} {services : ServiceSet}
      (tenant : w.environment.tenant id key = .ok name)
      (unchanged : Deed.after ⟨.tenant id key, w⟩ = w)
      (unchanged₁ : Deed.after ⟨.memberLine id, w₁⟩ = w₁)
      (generates :
        (generation ((w₁.environment.member? id).getD ⟨id, name⟩)).Follows ds services)
      (current : w₂.environment.isCurrent id key = true)
      (installs : Deed.after ⟨.install id key services, w₂⟩ = { w₂ with
        environment := (w₂.environment.install id key services).2 }) :
      Regenerates key
        (⟨.tenant id key, w⟩ :: ⟨.memberLine id, w₁⟩ :: (ds ++ [⟨.install id key services, w₂⟩]))
        (.ok services)

variable {generation id}

namespace Thread

/-- A single access is followed by its reply. -/
lemma Follows.of_once {a : Access M} {ds : List (Deed M)} {r : a.Reply}
    (h : (Thread.once a).Follows ds r) : ∃ w, ds = [⟨a, w⟩] ∧ (a.apply w).1 = r := by
  obtain ⟨w, rest, rfl, ends⟩ := h.of_access
  obtain ⟨rfl, same⟩ := ends.of_done
  exact ⟨w, rfl, same⟩

/-- A registration comes out in one of the three ways. -/
theorem Follows.registers {name : String} {path : List (Deed M)}
    {r : Except EnvironmentError Admission}
    (h : (register (fun member => some (generation member)) id name).Follows path r) :
    Registers generation id name path r := by
  obtain ⟨w, rest, rfl, goesOn⟩ := h.of_access
  simp only [Access.apply] at goesOn
  cases present : w.environment.isRegistered id with
  | true =>
    rw [Environment.checkAbsent, if_pos present] at goesOn
    obtain ⟨rfl, rfl⟩ := goesOn.of_done
    exact .refused present rfl
  | false =>
    rw [Environment.checkAbsent, present, if_neg Bool.false_ne_true] at goesOn
    obtain ⟨ds, services, last, rfl, generates, enrols⟩ := goesOn.of_bind
    obtain ⟨w', rfl, rfl⟩ := enrols.of_once
    simp only [Access.apply, World.inEnvironment]
    cases present' : w'.environment.keyOf? id with
    | none =>
      rw [Environment.enrol_of_eq present']
      refine .entered present rfl generates ?_ ?_
      · rw [Environment.isRegistered_eq, present']
        rfl
      · rw [Deed.after, Access.apply, World.inEnvironment, Environment.enrol_of_eq present']
    | some key =>
      rw [Environment.enrol_of_some present']
      refine .beaten present rfl generates ?_ ?_
      · rw [Environment.isRegistered_eq, present']
        rfl
      · rw [Deed.after, Access.apply, World.inEnvironment, Environment.enrol_of_some present']

/-- A renewal comes out in one of the three ways. -/
theorem Follows.regenerates {key : Key} {path : List (Deed M)}
    {r : Except EnvironmentError ServiceSet}
    (h : (regenerate (fun member => some (generation member)) id key).Follows path r) :
    Regenerates generation id key path r := by
  obtain ⟨w, rest, rfl, goesOn⟩ := h.of_access
  simp only [Access.apply] at goesOn
  by_cases holds : w.environment.keyOf? id = some key
  · obtain ⟨name, tenant⟩ := Environment.tenant_of_eq holds
    rw [tenant] at goesOn
    obtain ⟨w₁, rest, rfl, finds⟩ := goesOn.of_access
    obtain ⟨ds, services, last, rfl, generates, installs⟩ := finds.of_bind
    obtain ⟨w₂, rfl, rfl⟩ := installs.of_once
    simp only [Access.apply, World.inEnvironment]
    by_cases current : w₂.environment.keyOf? id = some key
    · rw [Environment.install_of_eq current]
      exact .installed tenant rfl rfl generates (Environment.isCurrent_iff.2 current) rfl
    · rw [Environment.install_of_ne current]
      refine .lost tenant rfl rfl generates ?_ ?_
      · exact Bool.eq_false_iff.2 fun h => current (Environment.isCurrent_iff.1 h)
      · rw [Deed.after, Access.apply, World.inEnvironment, Environment.install_of_ne current]
  · rw [Environment.tenant_of_ne holds] at goesOn
    obtain ⟨rfl, rfl⟩ := goesOn.of_done
    exact .refused (Bool.eq_false_iff.2 fun h => holds (Environment.isCurrent_iff.1 h)) rfl

end Thread
end Calls
end Cadence
