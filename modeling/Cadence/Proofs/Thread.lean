import Cadence.World.Thread
import Mathlib.Logic.Relation

/-!
# What threads do to a world

Two ways to carry a fact through a run. `World.Reaches` relates two worlds when accesses lead from
one to the other: whatever every access preserves is preserved by a thread, by threads one after
another and by threads side by side (`Thread.run_reaches`, `World.runAll_reaches`,
`World.interleave_reaches`). A thread that nothing interrupts performs every action as a whole
(`Thread.run_act`), so `World.perform_respects` asks only what an action, and an access that is no
part of one, preserve.
-/

namespace Cadence

variable {M α β : Type}

/-! ## Runs -/

namespace Thread

/-- A thread that is done leaves the world as it is. -/
@[simp]
theorem run_done (a : α) (w : World M) : (done a : Thread M α).run w = (a, w) := rfl

/-- A thread makes its first access and goes on in the world after it. -/
@[simp]
theorem run_access (a : Access M) (next : a.Reply → Thread M α) (w : World M) :
    (access a next).run w = (next (a.apply w).1).run (a.apply w).2 := rfl

/-- One access is all that such a thread does. -/
@[simp]
theorem run_once (a : Access M) (w : World M) : (once a).run w = a.apply w := rfl

/-- A thread that goes on with another one performs the two in turn. -/
theorem run_bind (t : Thread M α) (f : α → Thread M β) (w : World M) :
    (t.bind f).run w = (f (t.run w).1).run (t.run w).2 := by
  induction t generalizing w with
  | done a => rfl
  | access a next ih => exact ih _ _

/-- A handler changes only the store, as its program does on its own. -/
theorem run_ofHandler (caller : HandlerId) (p : HandlerProgram) (w : World M) :
    (ofHandler caller p).run w = w.inStore (p.run caller w.environment.store) := by
  induction p generalizing w with
  | stop ending => rfl
  | read key next ih => exact ih _ w
  | write key value next ih =>
    exact ih _ (w.inStore (w.environment.store.write key value caller)).2
  | writeBatch entries next ih =>
    exact ih _ (w.inStore (w.environment.store.writeBatch entries caller)).2
  | update key f next ih =>
    rw [ofHandler, run_access, HandlerProgram.run]
    simp only [Access.apply, World.inStore, World.inEnvironment]
    generalize w.environment.store.update key caller f = u
    -- only a panic of the function ends the program; after every other reply it goes on
    rcases u with ⟨⟨_ | ⟨_ | _ | _⟩⟩ | _, s⟩
    case error.function.panicked => rfl
    all_goals exact ih _ (w.inStore ((), s)).2

/-- An action that nothing interrupts is handled as the environment handles it. -/
theorem run_act (action : Action) (actor : ParticipantId) (key : Key) (w : World M) :
    (act action actor key).run w = w.inEnvironment (w.environment.act action actor key) := by
  rw [act, run_access, Environment.act]
  simp only [Access.apply]
  cases w.environment.route action actor key with
  | error e => rfl
  | ok entry =>
    dsimp only
    rw [run_bind, run_ofHandler]
    rfl

/-- A look-up that nothing interrupts finds what the environment finds. -/
theorem run_participantService (id : ParticipantId) (key : Key) (kind : ServiceKind)
    (w : World M) :
    (participantService id key kind).run w = (w.environment.participantService id key kind, w) := by
  rw [participantService, run_access, Environment.participantService]
  simp only [Access.apply]
  rcases w.environment.ownService id key kind with _ | _ | _ <;> rfl

end Thread

/-! ## Reachable worlds -/

namespace World

/-- One access leads from a world to another. -/
def Accessed (w w' : World M) : Prop := ∃ a : Access M, w' = (a.apply w).2

/-- Accesses lead from a world to another. -/
abbrev Reaches : World M → World M → Prop := Relation.ReflTransGen Accessed

/-- An access leads to the world after it. -/
lemma reaches_apply (a : Access M) (w : World M) : Reaches w (a.apply w).2 :=
  .single ⟨a, rfl⟩

/-- Whatever holds of a world with itself, passes from step to step and holds for an access, holds
for worlds that accesses lead between. -/
lemma Reaches.lift {R : World M → World M → Prop} {w w' : World M} (h : Reaches w w')
    (refl : ∀ w, R w w) (trans : ∀ {a b c}, R a b → R b c → R a c)
    (step : ∀ (a : Access M) w, R w (a.apply w).2) : R w w' := by
  induction h with
  | refl => exact refl w
  | tail _ last ih =>
    obtain ⟨a, rfl⟩ := last
    exact trans ih (step a _)

/-- What every access keeps holds wherever accesses lead. -/
lemma Reaches.keeps {P : World M → Prop} {w w' : World M} (h : Reaches w w')
    (step : ∀ (a : Access M) w, P w → P (a.apply w).2) (holds : P w) : P w' :=
  h.lift (R := fun w w' => P w → P w') (fun _ holds => holds) (fun ab bc holds => bc (ab holds))
    step holds

end World

open World

/-- What a thread leaves is reached by its accesses. -/
theorem Thread.run_reaches (t : Thread M α) (w : World M) : Reaches w (t.run w).2 := by
  induction t generalizing w with
  | done a => exact .refl
  | access a next ih => exact (reaches_apply a w).trans (ih _ _)

/-- So is what its first step leaves. -/
theorem Thread.step_reaches (t : Thread M α) (w : World M) : Reaches w (t.step w).2 := by
  cases t with
  | done a => exact .refl
  | access a next => exact reaches_apply a w

namespace World

/-- What a program leaves is reached by accesses. -/
theorem perform_reaches (w : World M) (p : Program M α) : Reaches w (w.perform p).2 :=
  (w.thread p).run_reaches w

/-- Threads one after another reach what they leave. -/
theorem runAll_reaches (threads : List (Thread M α)) (w : World M) :
    Reaches w (runAll threads w).2 := by
  induction threads generalizing w with
  | nil => exact .refl
  | cons t rest ih => exact (t.run_reaches w).trans (ih _)

/-- Threads side by side reach what they leave, whatever the schedule. -/
theorem interleave_reaches (schedule : List Nat) (threads : List (Thread M α)) (w : World M) :
    Reaches w (interleave schedule threads w).2 := by
  induction schedule generalizing threads w with
  | nil => exact runAll_reaches threads w
  | cons i rest ih =>
    rw [interleave]
    cases threads[i]? with
    | none => exact ih _ _
    | some t => exact (t.step_reaches w).trans (ih _ _)

end World

/-! ## What no access changes -/

/-- What two environments have in common between which accesses were made: the handlers, and where
the window stands. -/
structure Environment.SameFrame (e e' : Environment) : Prop where
  registry : e'.registry = e.registry
  phase : e'.window.phase = e.window.phase
  tick : e'.window.tick = e.window.tick

/-- An environment has its own frame. -/
lemma Environment.SameFrame.refl (e : Environment) : e.SameFrame e := ⟨rfl, rfl, rfl⟩

/-- To have the same frame is transitive. -/
lemma Environment.SameFrame.trans {e₁ e₂ e₃ : Environment} (h : e₁.SameFrame e₂)
    (h' : e₂.SameFrame e₃) : e₁.SameFrame e₃ :=
  ⟨h'.registry.trans h.registry, h'.phase.trans h.phase, h'.tick.trans h.tick⟩

/-- Whether an access may change the store. -/
def Access.isWrite : Access M → Bool
  | write _ _ _ => true
  | writeBatch _ _ => true
  | update _ _ _ => true
  | _ => false

/-- An access changes neither the handlers nor where the window stands, and only a write changes the
store. -/
theorem Access.apply_frame (a : Access M) (w : World M) :
    w.environment.SameFrame (a.apply w).2.environment ∧
      (a.isWrite = false → (a.apply w).2.environment.store = w.environment.store) := by
  cases a with
  | write | writeBatch | update => exact ⟨⟨rfl, rfl, rfl⟩, nofun⟩
  | settle action actor handler ending =>
    simp only [apply, inEnvironment, Environment.settle]
    rcases ending.result with reason | _ | _ <;> exact ⟨⟨rfl, rfl, rfl⟩, fun _ => rfl⟩
  | enrol member services =>
    simp only [apply, inEnvironment, Environment.enrol]
    cases w.environment.checkAbsent member.id <;> exact ⟨⟨rfl, rfl, rfl⟩, fun _ => rfl⟩
  | deregister id key =>
    simp only [apply, inEnvironment, Environment.deregister]
    cases w.environment.authorize id key <;> exact ⟨⟨rfl, rfl, rfl⟩, fun _ => rfl⟩
  | install id key services =>
    simp only [apply, inEnvironment, Environment.install]
    cases w.environment.authorize id key <;> exact ⟨⟨rfl, rfl, rfl⟩, fun _ => rfl⟩
  | _ => exact ⟨⟨rfl, rfl, rfl⟩, fun _ => rfl⟩

/-- Nothing that threads do changes the handlers or where the window stands. -/
theorem World.Reaches.frame {w w' : World M} (h : Reaches w w') :
    w.environment.SameFrame w'.environment :=
  h.lift (R := fun w w' => w.environment.SameFrame w'.environment) (fun w => .refl w.environment)
    .trans fun a w => (a.apply_frame w).1

/-! ## Threads that nothing interrupts -/

/-- Whether an access is made only on the way of an action. -/
def Access.isPartOfAction : Access M → Bool
  | route _ _ _ => true
  | refuse => true
  | settle _ _ _ _ => true
  | write _ _ _ => true
  | writeBatch _ _ => true
  | update _ _ _ => true
  | _ => false

/-- Only what is part of an action writes. -/
lemma Access.isWrite_eq_false {a : Access M} (h : a.isPartOfAction = false) :
    a.isWrite = false := by
  cases a with
  | write | writeBatch | update => cases h
  | _ => rfl

/-- A relation between worlds that actions as a whole, and all other accesses, respect. -/
structure World.Respected (R : World M → World M → Prop) : Prop where
  refl : ∀ w, R w w
  trans : ∀ {a b c}, R a b → R b c → R a c
  action : ∀ w action actor key, R w (w.inEnvironment (w.environment.act action actor key)).2
  access : ∀ (a : Access M) w, a.isPartOfAction = false → R w (a.apply w).2

namespace Thread

/-- A property that the threads of programs have as soon as actions, and accesses that are no part
of one, have it. -/
structure Closed (P : ∀ {α : Type}, Thread M α → Prop) : Prop where
  done : ∀ {α : Type} (a : α), P (done a)
  bind : ∀ {α β : Type} {t : Thread M α} {f : α → Thread M β}, P t → (∀ a, P (f a)) → P (t.bind f)
  act : ∀ action actor key, P (act action actor key)
  once : ∀ a : Access M, a.isPartOfAction = false → P (once a)

namespace Closed

variable {P : ∀ {α : Type}, Thread M α → Prop} (h : Closed P)

include h

/-- A property that is closed passes from all that may follow an access outside of actions to the
whole. -/
lemma access {a : Access M} (ha : a.isPartOfAction = false) {next : a.Reply → Thread M α}
    (hnext : ∀ r, P (next r)) : P (access a next) :=
  h.bind (h.once a ha) hnext

/-- It is a property of registrations, if of the making of services. -/
lemma register {generate : Member → Option (Thread M ServiceSet)}
    (hg : ∀ m t, generate m = some t → P t) (id : ParticipantId) (name : String) :
    P (register generate id name) := by
  refine h.access rfl fun r => ?_
  cases r with
  | error e => exact h.done _
  | ok u =>
    cases hgen : generate ⟨id, name⟩ with
    | none => exact h.done _
    | some t => exact h.bind (hg _ t hgen) fun services => h.once _ rfl

/-- It is a property of renewals of services, likewise. -/
lemma regenerate {generate : Member → Option (Thread M ServiceSet)}
    (hg : ∀ m t, generate m = some t → P t) (id : ParticipantId) (key : Key) :
    P (regenerate generate id key) := by
  refine h.access rfl fun r => ?_
  cases r with
  | error e => exact h.done _
  | ok name =>
    refine h.access rfl fun line => ?_
    cases hgen : generate (Option.getD line ⟨id, name⟩) with
    | none => exact h.done _
    | some t => exact h.bind (hg _ t hgen) fun services => h.once _ rfl

/-- It is a property of look-ups of services. -/
lemma participantService (id : ParticipantId) (key : Key) (kind : ServiceKind) :
    P (participantService id key kind) := by
  refine h.access rfl fun r => ?_
  match r with
  | .error e => exact h.done _
  | .ok (some s) => exact h.done _
  | .ok none => exact h.once _ rfl

/-- It is a property of all requests. -/
lemma serve {generate : Member → Option (Thread M ServiceSet)}
    (hg : ∀ m t, generate m = some t → P t) (q : Request M) : P (serve generate q) := by
  cases q with
  | act action actor key => exact h.act action actor key
  | register id name => exact h.register hg id name
  | regenerate id key => exact h.regenerate hg id key
  | participantService id key kind => exact h.participantService id key kind
  | _ => exact h.once _ rfl

/-- It is a property of programs, if of the requests that they make. -/
lemma ofProgram {serve : (q : Request M) → Thread M q.Reply} (hs : ∀ q, P (serve q))
    (p : Program M α) : P (ofProgram serve p) := by
  induction p with
  | done a => exact h.done a
  | ask q next ih => exact h.bind (hs q) ih

/-- It is a property of generators, if of the requests that they make. -/
lemma generation {serve : (q : Request M) → Thread M q.Reply} (hs : ∀ q, P (serve q))
    (member : Member) (gs : List (Generator M)) (services : ServiceSet) :
    P (generation serve member gs services) := by
  induction gs generalizing services with
  | nil => exact h.done services
  | cons g rest ih => exact h.bind (h.ofProgram hs _) ih

/-- It is a property of all requests, however many levels are left to nested registrations. -/
lemma ofRequest (gs : List (Generator M)) (levels : Nat) (q : Request M) :
    P (ofRequest gs levels q) := by
  -- on the levels left; a generator runs with one less, and beyond the last level there is none
  induction levels generalizing q with
  | zero => exact h.serve (fun _ _ e => by cases e) q
  | succ levels ih =>
    refine h.serve (fun member t e => ?_) q
    obtain rfl := Option.some.inj e
    exact h.generation ih member gs {}

/-- Programs have the property, at every level of nesting. -/
theorem thread (w : World M) (p : Program M α) : P (w.thread p) :=
  h.ofProgram (h.ofRequest w.generators _) p

end Closed

/-- A thread that nothing interrupts leaves the world as the relation says. -/
def Keeps (R : World M → World M → Prop) (t : Thread M α) : Prop := ∀ w, R w (t.run w).2

/-- To keep to a relation that every access respects, outside of actions and in whole actions, is
such a property. -/
lemma closed_keeps {R : World M → World M → Prop} (h : Respected R) :
    Closed fun {_} (t : Thread M _) => t.Keeps R where
  done _ := h.refl
  bind ht hf w := by
    rw [run_bind]
    exact h.trans (ht w) (hf _ _)
  act action actor key w := by
    rw [run_act]
    exact h.action w action actor key
  once a ha w := h.access a w ha

end Thread

/-- What a program does to the world, with nothing in between, respects every relation that actions
as a whole and all other accesses respect. -/
theorem World.perform_respects {R : World M → World M → Prop} (h : Respected R) (w : World M)
    (p : Program M α) : R w (w.perform p).2 :=
  (Thread.closed_keeps h).thread w p w

/-! ## Single requests -/

namespace World

variable (w : World M) (id : ParticipantId) (key : Key)

/-- Run the generators for a member. -/
def generate (member : Member) : ServiceSet × World M :=
  (Thread.generation (.ofRequest w.generators w.nesting) member w.generators {}).run w

/-- To make a request is to run the thread of its accesses. -/
lemma call_eq_run (q : Request M) :
    w.call q = (Thread.ofRequest w.generators (w.nesting + 1) q).run w := by
  rw [call, perform, thread, Program.request, Thread.ofProgram, Thread.run_bind]
  rfl

/-- An action with nothing in between comes to the handling of it by the environment. -/
theorem call_act (action : Action) :
    w.call (.act action id key) = w.inEnvironment (w.environment.act action id key) := by
  rw [call_eq_run]
  exact Thread.run_act action id key w

/-- To deregister a participant takes one access. -/
theorem call_deregister :
    w.call (.deregister id key) = w.inEnvironment (w.environment.deregister id key) := by
  rw [call_eq_run]
  rfl

/-- A look-up for a participant with nothing in between changes nothing. -/
theorem call_participantService (kind : ServiceKind) :
    w.call (.participantService id key kind) =
      (w.environment.participantService id key kind, w) := by
  rw [call_eq_run]
  exact Thread.run_participantService id key kind w

/-- A registration checks, runs the generators, and enters the participant into what they leave. -/
theorem call_register (name : String) :
    w.call (.register id name) =
      match w.environment.checkAbsent id with
      | .error e => (.error e, w)
      | .ok () =>
        let g := w.generate ⟨id, name⟩
        g.2.inEnvironment (g.2.environment.enrol ⟨id, name⟩ g.1) := by
  rw [call_eq_run, Thread.ofRequest, Thread.serve, Thread.register, Thread.run_access]
  simp only [Access.apply]
  cases w.environment.checkAbsent id with
  | error e => rfl
  | ok u =>
    dsimp only
    rw [Thread.run_bind]
    rfl

/-- A renewal of services checks, runs the generators, and installs what they made. -/
theorem call_regenerate :
    w.call (.regenerate id key) =
      match w.environment.tenant id key with
      | .error e => (.error e, w)
      | .ok name =>
        let g := w.generate ((w.environment.member? id).getD ⟨id, name⟩)
        g.2.inEnvironment (g.2.environment.install id key g.1) := by
  rw [call_eq_run, Thread.ofRequest, Thread.serve, Thread.regenerate, Thread.run_access]
  simp only [Access.apply]
  cases w.environment.tenant id key with
  | error e => rfl
  | ok name =>
    dsimp only
    rw [Thread.run_access, Thread.run_bind]
    rfl

/-- What generators leave is reached by accesses. -/
lemma generate_reaches (member : Member) : Reaches w (w.generate member).2 :=
  Thread.run_reaches _ w

end World

/-! ## What threads end with -/

namespace Thread

/-- Everything that the thread can end with satisfies the predicate. -/
def EndsIn (P : α → Prop) : Thread M α → Prop
  | done a => P a
  | access a next => ∀ r : a.Reply, (next r).EndsIn P

variable {P : α → Prop}

/-- A thread that always ends well does so in a run. -/
lemma EndsIn.run {t : Thread M α} (h : t.EndsIn P) (w : World M) : P (t.run w).1 := by
  induction t generalizing w with
  | done a => exact h
  | access a next ih => exact ih _ (h _) _

/-- After its first step it still always ends well. -/
lemma EndsIn.step {t : Thread M α} (h : t.EndsIn P) (w : World M) : (t.step w).1.EndsIn P := by
  cases t with
  | done a => exact h
  | access a next => exact h _

/-- What it ends with has every weaker property. -/
lemma EndsIn.imp {P' : α → Prop} {t : Thread M α} (h : t.EndsIn P) (imp : ∀ a, P a → P' a) :
    t.EndsIn P' := by
  induction t with
  | done a => exact imp a h
  | access a next ih => exact fun r => ih r (h r)

/-- What a function makes of any end, a thread followed by that function ends with. -/
lemma endsIn_map {f : α → β} {Q : β → Prop} (h : ∀ a, Q (f a)) (t : Thread M α) :
    (t.map f).EndsIn Q := by
  induction t with
  | done a => exact h a
  | access a next ih => exact fun r => ih r

end Thread

namespace World

variable {Q : Nat → α → Prop}

/-- Threads one after another end each as they always do, at its place. -/
lemma runAll_endsIn {threads : List (Thread M α)}
    (h : ∀ i (t : Thread M α), threads[i]? = some t → t.EndsIn (Q i)) (w : World M) :
    (runAll threads w).1.length = threads.length ∧
      ∀ i a, (runAll threads w).1[i]? = some a → Q i a := by
  induction threads generalizing w Q with
  | nil => exact ⟨rfl, by simp [runAll]⟩
  | cons t rest ih =>
    obtain ⟨size, ends⟩ := ih (Q := fun i => Q (i + 1)) (fun i u hu => h (i + 1) u hu) (t.run w).2
    refine ⟨congrArg (· + 1) size, ?_⟩
    intro i a ha
    cases i with
    | zero =>
      obtain rfl : (t.run w).1 = a := Option.some.inj ha
      exact (h 0 t rfl).run w
    | succ i => exact ends i a ha

/-- So do threads side by side. -/
lemma interleave_endsIn (schedule : List Nat) {threads : List (Thread M α)}
    (h : ∀ i (t : Thread M α), threads[i]? = some t → t.EndsIn (Q i)) (w : World M) :
    (interleave schedule threads w).1.length = threads.length ∧
      ∀ i a, (interleave schedule threads w).1[i]? = some a → Q i a := by
  induction schedule generalizing threads w with
  | nil => exact runAll_endsIn h w
  | cons i rest ih =>
    rw [interleave]
    cases ht : threads[i]? with
    | none => exact ih h w
    | some t =>
      have stepped : ∀ j (u : Thread M α),
          (threads.set i (t.step w).1)[j]? = some u → u.EndsIn (Q j) := by
        intro j u hu
        rw [List.getElem?_set] at hu
        split at hu
        · next hij =>
          subst hij
          split at hu
          · obtain rfl := Option.some.inj hu
            exact (h i t ht).step w
          · cases hu
        · exact h j u hu
      obtain ⟨size, ends⟩ := ih stepped (t.step w).2
      exact ⟨size.trans List.length_set, ends⟩

end World

end Cadence
