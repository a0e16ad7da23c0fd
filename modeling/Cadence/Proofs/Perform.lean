import Cadence.Proofs.Thread
import Cadence.World.Component

/-!
# Programs step by step

A program that nothing interrupts is performed request by request (`World.perform_bind`): no access
changes the generators, so what comes later is performed as by a program of its own. The lemmas on
single requests, places and handles say what one step answers and leaves.
-/

namespace Cadence

variable {M α β σ : Type}

/-- The accesses of a program that goes on with another are those of the one and then of the
other. -/
lemma Thread.ofProgram_bind (serve : (q : Request M) → Thread M q.Reply) (p : Program M α)
    (f : α → Program M β) :
    ofProgram serve (p.bind f) = (ofProgram serve p).bind fun a => ofProgram serve (f a) := by
  have assoc : ∀ {γ : Type} (t : Thread M γ) (g : γ → Thread M α) (h : α → Thread M β),
      (t.bind g).bind h = t.bind fun c => (g c).bind h := by
    intro γ t g h
    induction t with
    | done c => rfl
    | access a next ih => exact congrArg (access a) (funext ih)
  induction p with
  | done a => rfl
  | ask q next ih =>
    rw [Program.bind, ofProgram, ofProgram, assoc]
    exact congrArg ((serve q).bind ·) (funext ih)

namespace World

/-- Worlds in which registrations are served alike. -/
structure Alike (w w' : World M) : Prop where
  generators : w'.generators = w.generators
  nesting : w'.nesting = w.nesting

/-- A world is alike itself. -/
lemma Alike.refl (w : World M) : w.Alike w := ⟨rfl, rfl⟩

/-- Worlds alike a third one are alike. -/
lemma Alike.trans {w₁ w₂ w₃ : World M} (h : w₁.Alike w₂) (h' : w₂.Alike w₃) : w₁.Alike w₃ :=
  ⟨h'.generators.trans h.generators, h'.nesting.trans h.nesting⟩

/-- No access changes how registrations are served. -/
lemma Reaches.alike {w w' : World M} (h : Reaches w w') : w.Alike w' :=
  h.lift Alike.refl Alike.trans fun a w => by cases a <;> exact ⟨rfl, rfl⟩

/-- A thread that was made in one world runs in another as the program does there. -/
lemma run_thread {w w' : World M} (h : w.Alike w') (p : Program M α) :
    (w.thread p).run w' = w'.perform p := by
  rw [perform, thread, thread, h.generators, h.nesting]

variable (w : World M)

/-- A program without requests answers at once. -/
@[simp]
theorem perform_pure (a : α) : w.perform (pure a) = (a, w) := rfl

/-- A program that goes on with another one performs the two in turn. -/
@[simp]
theorem perform_bind (p : Program M α) (f : α → Program M β) :
    w.perform (p >>= f) = (w.perform p).2.perform (f (w.perform p).1) := by
  have alike := (perform_reaches w p).alike
  rw [← run_thread alike, perform, thread]
  show (Thread.ofProgram _ (p.bind f)).run w = _
  rw [Thread.ofProgram_bind, Thread.run_bind]
  rfl

/-! ## Requests of one access -/

/-- A program of one request comes to the request. -/
-- the type of the answer is left out of the index, for it comes in reduced form
@[simp]
theorem perform_request (q : Request M) :
    @perform M (no_index q.Reply) w (Program.request q) = w.call q := rfl

/-- A report adds an event. -/
@[simp]
theorem call_report (e : Event) :
    w.call (.report e) = ((), { w with events := w.events ++ [e] }) := rfl

/-- A snapshot shows the shared state. -/
@[simp]
theorem call_snapshot : w.call .snapshot = (w.environment.store.snapshot, w) := rfl

/-- Reading shows the value at a key. -/
@[simp]
theorem call_readState (key : StateKey) :
    w.call (.readState key) = (w.environment.store.read key, w) := rfl

/-- A look-up among the global services changes nothing. -/
@[simp]
theorem call_globalService (kind : ServiceKind) :
    w.call (.globalService kind) = (w.environment.globalService kind, w) := rfl

/-- A call on the database changes the database alone. -/
@[simp]
theorem call_database (c : DatabaseCall) :
    w.call (.database c) =
      ((w.database.perform c).1, { w with database := (w.database.perform c).2 }) := rfl

/-! ## The reading side of the store -/

/-- The reading side of the store reads what the store has. -/
theorem perform_viewRead (key : StateKey) :
    w.perform (StateView.read key) = (w.environment.store.read key, w) := rfl

/-- It contains the keys that the store contains. -/
theorem perform_viewContains (key : StateKey) :
    w.perform (StateView.contains key) = (w.environment.store.contains key, w) := by
  rw [StateView.contains, StateView.read, perform_bind, perform_request, call_readState, Store.read,
    Store.contains, OrderedMap.contains]
  cases w.environment.store.entries.get? key <;> rfl

/-- It shows all that the store has. -/
theorem perform_viewSnapshot :
    w.perform StateView.snapshot = (w.environment.store.snapshot, w) := rfl

/-! ## Places and handles -/

/-- A place that is read shows what the memory has there. -/
@[simp]
theorem perform_read (p : Place M σ) : w.perform p.read = (p.get w.memory, w) := rfl

/-- A place that is written to has in the memory what is put there. -/
@[simp]
theorem perform_write (p : Place M σ) (s : σ) :
    w.perform (p.write s) = ((), { w with memory := p.put s w.memory }) := rfl

/-- What is submitted through a handle is submitted in the name of its participant and with its
key. -/
@[simp]
theorem perform_act (h : Handle) (action : Action) :
    w.perform (h.act action) = w.inEnvironment (w.environment.act action h.id h.key) :=
  w.call_act h.id h.key action

end World

end Cadence
