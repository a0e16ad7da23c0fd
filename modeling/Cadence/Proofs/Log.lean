import Cadence.Proofs.Thread

/-!
# Logs

The log of a thread lists the accesses that it makes, with their replies. Where the reply to an
access tells what becomes of something in the world, the log tells what becomes of it in a run
(`Thread.foldl_log`), and what it was when an access in the middle was made
(`Thread.exists_world_of_log`).
-/

namespace Cadence

variable {M α S : Type}

/-- An access that was made, with its reply. -/
structure Performed (M : Type) where
  access : Access M
  reply : access.Reply

namespace Thread

/-- The accesses that a thread makes when nothing interrupts it, with their replies. -/
def log : Thread M α → World M → List (Performed M)
  | done _, _ => []
  | access a next, w => ⟨a, (a.apply w).1⟩ :: (next (a.apply w).1).log (a.apply w).2

variable {I : World M → Prop} {f : World M → S} {g : S → Performed M → S}

/-- What every access changes as its reply tells, a thread changes as its log tells. -/
theorem foldl_log (kept : ∀ (a : Access M) w, I w → I (a.apply w).2)
    (step : ∀ (a : Access M) w, I w → f (a.apply w).2 = g (f w) ⟨a, (a.apply w).1⟩)
    (t : Thread M α) {w : World M} (h : I w) : f (t.run w).2 = (t.log w).foldl g (f w) := by
  induction t generalizing w with
  | done a => rfl
  | access a next ih => rw [run_access, ih _ (kept a w h), log, List.foldl_cons, step a w h]

/-- An access in the log was made in a world of which the log up to it tells. -/
theorem exists_world_of_log (kept : ∀ (a : Access M) w, I w → I (a.apply w).2)
    (step : ∀ (a : Access M) w, I w → f (a.apply w).2 = g (f w) ⟨a, (a.apply w).1⟩)
    {t : Thread M α} {w : World M} (h : I w) {before after : List (Performed M)} {q : Performed M}
    (split : t.log w = before ++ q :: after) :
    ∃ w', I w' ∧ q.reply = (q.access.apply w').1 ∧ f w' = before.foldl g (f w) := by
  induction t generalizing w before with
  | done a => simp [log] at split
  | access a next ih =>
    cases before with
    | nil =>
      obtain ⟨rfl, -⟩ := List.cons.inj split
      exact ⟨w, h, rfl, rfl⟩
    | cons first before =>
      obtain ⟨rfl, rest⟩ := List.cons.inj split
      obtain ⟨w', kept', reply, told⟩ := ih _ (kept a w h) rest
      exact ⟨w', kept', reply, told.trans (by rw [step a w h, List.foldl_cons])⟩

end Thread

namespace World

/-- The accesses that a program makes, with their replies: those of its requests, and those of the
generators that run for them. -/
def log (w : World M) (p : Program M α) : List (Performed M) := (w.thread p).log w

/-- The accesses that the generators make for a member, with their replies. -/
def generationLog (w : World M) (member : Member) : List (Performed M) :=
  (Thread.generation (.ofRequest w.generators w.nesting) member w.generators {}).log w

end World

/-! ## The start -/

/-- What a world is made of before anybody joins. -/
structure Setting (M : Type) where
  registry : Registry
  services : ServiceSet
  supply : KeySupply
  generators : List (Generator M)
  nesting : Nat
  database : Database
  operator : Operator
  memory : M

/-- The world before anybody joins. -/
def Setting.world (x : Setting M) : World M where
  environment := .build x.registry x.services x.supply
  generators := x.generators
  nesting := x.nesting
  database := x.database
  operator := x.operator
  memory := x.memory

end Cadence
