import Cadence.Proofs.Perform
import Mathlib.Logic.Function.Basic

/-!
# Threads side by side

An invariant of several threads is stated over what each of them holds, its share: `I g w` relates
the shares `g` of all threads to the world. A thread brings its share along
(`Thread.Brings`) if, wherever it makes an access and whatever the others have made of the world in
between, the invariant holds again after the access with another share for this thread alone. Then
all threads come to their ends and the invariant holds there, in whatever order they make their
accesses (`World.interleave_brings`).
-/

namespace Cadence

variable {M α β L : Type} {I : (Nat → L) → World M → Prop} {i : Nat} {l : L}

namespace Thread

/-- The thread at a place keeps the invariant, with others coming in between, and comes to an end
with a share that is as told. -/
def Brings (I : (Nat → L) → World M → Prop) (i : Nat) (Q : α → L → Prop) : Thread M α → L → Prop
  | done a, l => Q a l
  | access a next, l => ∀ g w, g i = l → I g w →
      ∃ l', I (Function.update g i l') (a.apply w).2 ∧ (next (a.apply w).1).Brings I i Q l'

variable {Q : α → L → Prop} {R : β → L → Prop} {t : Thread M α} {g : Nat → L} {w : World M}

/-- What brings about a state can be followed by what goes on from there. -/
lemma Brings.bind {f : α → Thread M β} (h : t.Brings I i Q l)
    (later : ∀ a l, Q a l → (f a).Brings I i R l) : (t.bind f).Brings I i R l := by
  induction t generalizing l with
  | done a => exact later a l h
  | access a next ih =>
    intro g w holds inv
    obtain ⟨l', inv', goesOn⟩ := h g w holds inv
    exact ⟨l', inv', ih _ goesOn⟩

/-- What is known at the end may be weakened. -/
lemma Brings.mono {R : α → L → Prop} (h : t.Brings I i Q l) (less : ∀ a l, Q a l → R a l) :
    t.Brings I i R l := by
  induction t generalizing l with
  | done a => exact less a l h
  | access a next ih =>
    intro g w holds inv
    obtain ⟨l', inv', goesOn⟩ := h g w holds inv
    exact ⟨l', inv', ih _ goesOn⟩

/-- What a thread brings about it brings about whatever is made of its result. -/
lemma Brings.map {f : α → β} (h : t.Brings I i Q l) (ends : ∀ a l, Q a l → R (f a) l) :
    (t.map f).Brings I i R l :=
  h.bind ends

/-- An access that changes neither the world nor the share of the thread. -/
lemma Brings.look {a : Access M} {next : a.Reply → Thread M α}
    (same : ∀ w : World M, (a.apply w).2 = w)
    (goesOn : ∀ g w, g i = l → I g w → (next (a.apply w).1).Brings I i Q l) :
    (access a next).Brings I i Q l := by
  intro g w holds inv
  refine ⟨l, ?_, goesOn g w holds inv⟩
  rw [same, ← holds, Function.update_eq_self]
  exact inv

/-- A thread that makes its first access goes on bringing its share along. -/
lemma Brings.step (h : t.Brings I i Q (g i)) (inv : I g w) :
    ∃ l', I (Function.update g i l') (t.step w).2 ∧ (t.step w).1.Brings I i Q l' := by
  cases t with
  | done a =>
    refine ⟨g i, ?_, h⟩
    rw [Function.update_eq_self]
    exact inv
  | access a next => exact h g w rfl inv

/-- A thread that nothing interrupts any more brings its share to the end. -/
lemma Brings.run (h : t.Brings I i Q (g i)) (inv : I g w) :
    ∃ l', I (Function.update g i l') (t.run w).2 ∧ Q (t.run w).1 l' := by
  induction t generalizing g w with
  | done a =>
    refine ⟨g i, ?_, h⟩
    rw [Function.update_eq_self]
    exact inv
  | access a next ih =>
    obtain ⟨l', inv', goesOn⟩ := h g w rfl inv
    rw [← Function.update_self i l' g] at goesOn
    obtain ⟨l'', inv'', ended⟩ := ih _ goesOn inv'
    rw [Function.update_idem] at inv''
    exact ⟨l'', inv'', ended⟩

/-! ## Actions -/

/-- An action brings the share along whose handler does one update, if it is routed to that handler,
the update is made, and what the thread holds changes with the update and with the count. -/
theorem brings_act {action : Action} {actor : ParticipantId} {key : Key} {place : StateKey}
    {f : Option Value → Except Refusal Value} {l₂ : L} (entry : RegisteredHandler) (l₁ : L)
    (handles : entry.handler.handle entry.id action actor =
      .update place f fun reply => .stop (.ofUpdate reply))
    (routed : ∀ g w, g i = l → I g w → w.environment.route action actor key = .ok entry)
    (updated : ∀ g w, g i = l → I g w →
      ∃ v, (w.environment.store.update place entry.id f).1 = .ok v ∧
        I (Function.update g i l₁) (w.inStore (w.environment.store.update place entry.id f)).2)
    (counted : ∀ g w, g i = l₁ → I g w →
      I (Function.update g i l₂) { w with environment := w.environment.record .addApplied }) :
    (act action actor key).Brings I i (fun r l => (∃ v, r = .ok (.applied v)) ∧ l = l₂) l := by
  refine .look (fun _ => rfl) fun g w holds inv => ?_
  have accepted : (Access.apply (.route action actor key) w).1 = .ok entry := routed g w holds inv
  rw [accepted]
  dsimp only
  rw [handles, ofHandler, Thread.bind, Brings]
  -- others may have come in between the routing and the update
  intro g w holds inv
  obtain ⟨v, made, inv₁⟩ := updated g w holds inv
  refine ⟨l₁, inv₁, ?_⟩
  have reply : (Access.apply (.update place entry.id f) w).1 = .ok v := made
  rw [reply]
  intro g w holds inv
  exact ⟨l₂, counted g w holds inv, ⟨v, rfl⟩, rfl⟩

/-! ## Programs -/

/-- A program brings about what its parts do one after the other. -/
lemma brings_program_bind {serve : (q : Request M) → Thread M q.Reply} {p : Program M α}
    {f : α → Program M β} (h : (ofProgram serve p).Brings I i Q l)
    (later : ∀ a l, Q a l → (ofProgram serve (f a)).Brings I i R l) :
    (ofProgram serve (p >>= f)).Brings I i R l := by
  show (ofProgram serve (p.bind f)).Brings I i R l
  rw [ofProgram_bind]
  exact h.bind later

section Requests

variable {σ : Type} {place : Place M σ} {s : σ} {generators : List (Generator M)} {levels : Nat}

/-- To read a place brings about what is there. -/
lemma brings_read (holds : ∀ g w, g i = l → I g w → place.get w.memory = s) :
    (ofProgram (ofRequest generators (levels + 1)) place.read).Brings I i
      (fun a l' => a = s ∧ l' = l) l :=
  .look (fun _ => rfl) fun g w has inv => ⟨holds g w has inv, rfl⟩

/-- To write a place brings about what is written. -/
lemma brings_write (l₁ : L) (kept : ∀ g w, g i = l → I g w →
      I (Function.update g i l₁) { w with memory := place.put s w.memory }) :
    (ofProgram (ofRequest generators (levels + 1)) (place.write s)).Brings I i
      (fun _ l' => l' = l₁) l :=
  fun g w has inv => ⟨l₁, kept g w has inv, rfl⟩

/-- To act through a handle brings about what the action does. -/
lemma brings_handle {Q : Except EnvironmentError ActionOutcome → L → Prop} {handle : Handle}
    {action : Action} (h : (act action handle.id handle.key).Brings I i Q l) :
    (ofProgram (ofRequest generators (levels + 1)) (handle.act action)).Brings I i Q l :=
  h.bind fun _ _ ends => ends

end Requests

end Thread

/-! ## All threads -/

namespace World

variable {Q : Nat → α → L → Prop} {g : Nat → L} {w : World M} {threads : List (Thread M α)}

/-- Threads one after another bring their shares to the end; those of other places stay. -/
lemma runAll_brings {n : Nat}
    (brings : ∀ (j : Nat) t, threads[j]? = some t → t.Brings I (n + j) (Q (n + j)) (g (n + j)))
    (inv : I g w) :
    ∃ g', I g' (runAll threads w).2 ∧ (runAll threads w).1.length = threads.length ∧
      (∀ (j : Nat) a, (runAll threads w).1[j]? = some a → Q (n + j) a (g' (n + j))) ∧
      ∀ j < n, g' j = g j := by
  -- on the threads that are left; the shares of the `n` before them are at rest
  induction threads generalizing n g w with
  | nil => exact ⟨g, inv, rfl, fun _ _ at_j => absurd at_j nofun, fun _ _ => rfl⟩
  | cons t rest ih =>
    obtain ⟨l', inv', ended⟩ := (brings 0 t rfl).run inv
    have others : ∀ (j : Nat) u, rest[j]? = some u → u.Brings I (n + 1 + j) (Q (n + 1 + j))
        (Function.update g n l' (n + 1 + j)) := by
      intro j u at_j
      have other : n + 1 + j ≠ n := by omega
      rw [Function.update_of_ne other, Nat.add_assoc, Nat.add_comm 1 j]
      exact brings (j + 1) u at_j
    obtain ⟨g', inv'', length, ends, before⟩ := ih others inv'
    refine ⟨g', inv'', congrArg (· + 1) length, ?_, ?_⟩
    · intro j a at_j
      cases j with
      | zero =>
        obtain rfl : (t.run w).1 = a := Option.some.inj at_j
        have last := before n (Nat.lt_succ_self n)
        rw [Function.update_self] at last
        show Q n _ (g' n)
        rw [last]
        exact ended
      | succ j =>
        have others := ends j a at_j
        rwa [Nat.add_assoc, Nat.add_comm 1 j] at others
    · intro j lower
      rw [before j (Nat.lt_succ_of_lt lower), Function.update_of_ne (Nat.ne_of_lt lower)]

/-- Threads side by side bring their shares to the end, whatever the schedule. -/
theorem interleave_brings (schedule : List Nat)
    (brings : ∀ (j : Nat) t, threads[j]? = some t → t.Brings I j (Q j) (g j)) (inv : I g w) :
    ∃ g', I g' (interleave schedule threads w).2 ∧
      (interleave schedule threads w).1.length = threads.length ∧
      ∀ (j : Nat) a, (interleave schedule threads w).1[j]? = some a → Q j a (g' j) := by
  induction schedule generalizing threads g w with
  | nil =>
    obtain ⟨g', inv', length, ends, -⟩ := runAll_brings (n := 0) (Q := Q)
      (fun j t at_j => by rw [Nat.zero_add]; exact brings j t at_j) inv
    refine ⟨g', inv', length, fun j a at_j => ?_⟩
    have ended := ends j a at_j
    rwa [Nat.zero_add] at ended
  | cons i rest ih =>
    rw [interleave]
    cases at_i : threads[i]? with
    | none => exact ih brings inv
    | some t =>
      obtain ⟨l', inv', goesOn⟩ := (brings i t at_i).step inv
      -- no thread but the one that is scheduled depends on its share
      have others : ∀ (j : Nat) u, (threads.set i (t.step w).1)[j]? = some u →
          u.Brings I j (Q j) (Function.update g i l' j) := by
        intro j u at_j
        rw [List.getElem?_set] at at_j
        split at at_j
        · next same =>
          subst same
          split at at_j
          · obtain rfl := Option.some.inj at_j
            rw [Function.update_self]
            exact goesOn
          · cases at_j
        · next other =>
          rw [Function.update_of_ne (Ne.symm other)]
          exact brings j u at_j
      obtain ⟨g', inv'', length, ends⟩ := ih others inv'
      exact ⟨g', inv'', length.trans List.length_set, ends⟩

end World

end Cadence
