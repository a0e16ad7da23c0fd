import Cadence.Proofs.Authorization
import Cadence.Proofs.Driven
import Cadence.Proofs.Generation
import Cadence.Proofs.Ownership
import Cadence.Proofs.Window

/-!
# Where an action goes

The key of an action is checked first, then the window, then the tag. An action that passes all
three goes to the one handler that takes its tag, and one that does not goes nowhere: nothing but
the statistics of the window takes notice of it. Of a handler stays what it has written, however it
ends (`World.Along.store_written`), and the environment is none the worse for one that panics
(`act_obeys_dispatch`).
-/

namespace Cadence

variable {M α : Type}

/-! ## What is written -/

/-- What an access that was made has put into the store, in that order. -/
def Performed.written : Performed M → List (StateKey × Value)
  | ⟨.write k v _, .ok _⟩ => [(k, v)]
  | ⟨.writeBatch entries _, .ok ()⟩ => entries
  | ⟨.update k _ _, .ok v⟩ => [(k, v)]
  | _ => []

/-- What deeds have put into the store, in that order. -/
def written (ds : List (Deed M)) : List (StateKey × Value) :=
  ds.flatMap fun d => d.performed.written

/-- The store with more values set, the last one at a key being the one that stays. -/
def Store.setAll (s : Store) (entries : List (StateKey × Value)) : Store :=
  { s with entries := s.entries.insertAll entries }

/-- To set two lists of values is to set the one and then the other. -/
lemma Store.setAll_append (s : Store) (l₁ l₂ : List (StateKey × Value)) :
    s.setAll (l₁ ++ l₂) = (s.setAll l₁).setAll l₂ := by
  rw [setAll, OrderedMap.insertAll, List.foldl_append]
  rfl

/-- An access changes the store by what it has put there. -/
lemma Access.store_apply (a : Access M) (w : World M) :
    (a.apply w).2.environment.store =
      w.environment.store.setAll (Performed.written ⟨a, (a.apply w).1⟩) := by
  have still := (a.apply_frame w).2
  cases a with
  | write k v caller =>
    simp only [apply, World.inStore, World.inEnvironment]
    obtain ⟨-, eq⟩ | ⟨err, eq⟩ := w.environment.store.write_cases k v caller <;> rw [eq] <;> rfl
  | writeBatch entries caller =>
    simp only [apply, World.inStore, World.inEnvironment]
    obtain ⟨-, eq⟩ | ⟨err, eq⟩ := w.environment.store.writeBatch_cases entries caller <;>
      rw [eq] <;> rfl
  | update k caller f =>
    simp only [apply, World.inStore, World.inEnvironment]
    obtain ⟨v, -, eq⟩ | ⟨err, eq⟩ := w.environment.store.update_cases k caller f <;> rw [eq] <;> rfl
  | _ => exact still rfl

/-- Deeds change the store by what they have put there. -/
theorem World.Along.store_written {w w' : World M} {ds : List (Deed M)} (h : w.Along ds w') :
    w'.environment.store = w.environment.store.setAll (written ds) := by
  induction ds generalizing w with
  | nil =>
    obtain rfl : w = w' := h
    rfl
  | cons d rest ih =>
    obtain ⟨rfl, rest⟩ := h
    have first : d.after.environment.store = d.world.environment.store.setAll d.performed.written :=
      d.access.store_apply d.world
    rw [ih rest, first, ← Store.setAll_append]
    rfl

/-! ## What a handler does -/

/-- Whether the access is a call on the store, in the name of the handler if it is a write. -/
def Access.IsCallOf (caller : HandlerId) : Access M → Prop
  | readState _ => True
  | write _ _ c => c = caller
  | writeBatch _ c => c = caller
  | update _ c _ => c = caller
  | _ => False

/-- Handlers call the store and do nothing else. -/
lemma Thread.ofHandler_does (caller : HandlerId) (p : HandlerProgram) (earlier : List (Deed M))
    (w : World M) :
    (ofHandler caller p).Does (fun _ d => d.access.IsCallOf caller) earlier w := by
  induction p generalizing earlier w with
  | stop ending => exact does_done ending
  | read key next ih => exact does_access trivial (ih _ _ _)
  | write key value next ih => exact does_access rfl (ih _ _ _)
  | writeBatch entries next ih => exact does_access rfl (ih _ _ _)
  | update key f next ih =>
    rw [ofHandler]
    refine does_access rfl ?_
    split
    · exact does_done _
    · exact ih _ _ _

namespace RegisteredHandler

variable (h : RegisteredHandler) (action : Action) (actor : ParticipantId)

/-- What the handler does about an action. -/
def thread : Thread M HandlerEnd := .ofHandler h.id (h.handler.handle h.id action actor)

/-- What the submitter of an action is told when the handler has ended: its outcome, or that it has
failed, with its name and the text of the failure. -/
def answer : HandlerEnd → Except EnvironmentError ActionOutcome
  | .finished outcome => .ok outcome
  | .failed e => .error (.actionExecutionFailed action.tag h.name e.message)
  | .panicked p => .error (.actionExecutionFailed action.tag h.name ("panicked: " ++ p.message))

end RegisteredHandler

/-! ## Where an action goes -/

namespace World

/-- The world with another store and other statistics of the window, and all else as it was. -/
def rewritten (w : World M) (store : Store) (stats : ActionStats) : World M :=
  { w with environment := { w.environment with
      store := store
      window := { w.environment.window with stats := stats } } }

variable (w : World M) (action : Action) (actor : ParticipantId) (key : Key)

/-- An action goes nowhere: no handler is called, and nothing but the statistics changes. -/
structure Refuses (cause : EnvironmentError) : Prop where
  answer : (w.call (.act action actor key)).1 = .error cause
  accesses : (w.deedsOf (.request (.act action actor key))).map Deed.access =
    [.route action actor key, .refuse]
  world : ∃ stats, (w.call (.act action actor key)).2 = w.rewritten w.environment.store stats

/-- An action goes to a handler: it is called once and in its own name, its end is what is answered,
and what it has put into the store is all that changes but for the statistics. -/
structure Hands (h : RegisteredHandler) : Prop where
  deeds : ∃ w', w.deedsOf (.request (.act action actor key)) =
    ⟨.route action actor key, w⟩ :: (h.thread action actor).deeds w ++
      [⟨.settle action actor h.name ((h.thread action actor).run w).1, w'⟩]
  own : ∀ d ∈ (h.thread action actor).deeds w, d.access.IsCallOf h.id
  answer : (w.call (.act action actor key)).1 =
    h.answer action ((h.thread action actor).run w).1
  world : ∃ stats, (w.call (.act action actor key)).2 = w.rewritten
    (w.environment.store.setAll (written ((h.thread action actor).deeds w))) stats

variable {w action actor key}

/-- What an action does is what its thread does. -/
lemma deedsOf_act : w.deedsOf (.request (.act action actor key)) =
    (Thread.act action actor key).deeds w := by
  rw [deedsOf, thread, Program.request, Thread.ofProgram, Thread.deeds_bind]
  exact List.append_nil _

/-- An action that is not routed is refused. -/
lemma refuses_of_route {cause : EnvironmentError}
    (routed : w.environment.route action actor key = .error cause) :
    w.Refuses action actor key cause := by
  constructor
  · rw [call_act, Environment.act_of_route_error routed]
    rfl
  · rw [deedsOf_act, Thread.act, Thread.deeds]
    simp only [Access.apply, routed]
    rfl
  · rw [call_act, Environment.act_of_route_error routed]
    exact ⟨_, rfl⟩

/-- A handler that has ended is answered for, which changes nothing but the statistics. -/
lemma settle_spec (w : World M) (action : Action) (actor : ParticipantId) (h : RegisteredHandler)
    (ending : HandlerEnd) :
    (w.environment.settle action actor h.name ending).1 = h.answer action ending ∧
      ∃ stats, (w.inEnvironment (w.environment.settle action actor h.name ending)).2 =
        w.rewritten w.environment.store stats := by
  rw [Environment.settle]
  rcases ending with (_ | _) | _ | _ <;> exact ⟨rfl, _, rfl⟩

/-- An action that is routed is handed to its handler. -/
lemma hands_of_route {h : RegisteredHandler}
    (routed : w.environment.route action actor key = .ok h) : w.Hands action actor key h := by
  -- the handler, with nothing in between, changes the store and nothing else
  obtain ⟨stats, handled⟩ : ∃ stats, ((h.thread action actor).run w).2 =
      w.rewritten (w.environment.store.setAll (written ((h.thread action actor).deeds w)))
        stats := by
    rw [← ((h.thread action actor).deeds_along w).store_written, RegisteredHandler.thread,
      Thread.run_ofHandler]
    exact ⟨_, rfl⟩
  have settles : w.call (.act action actor key) =
      ((h.thread action actor).run w).2.inEnvironment
        (((h.thread action actor).run w).2.environment.settle action actor h.name
          ((h.thread action actor).run w).1) := by
    rw [call_act, ← Thread.run_act, Thread.act, Thread.run_access]
    simp only [Access.apply, routed]
    exact Thread.run_bind _ _ w
  obtain ⟨answer, stats', world⟩ := settle_spec ((h.thread action actor).run w).2 action actor h
    ((h.thread action actor).run w).1
  refine ⟨?_, fun _ => (Thread.ofHandler_does _ _ [] w).of_mem, ?_, ?_⟩
  · rw [deedsOf_act, Thread.act, Thread.deeds]
    simp only [Access.apply, routed]
    rw [Thread.deeds_bind]
    exact ⟨_, rfl⟩
  · rw [settles]
    exact answer
  · rw [settles, world, handled]
    exact ⟨stats', rfl⟩

end World

/-! ## The law of actions -/

/-- An action whose key is not current is refused for that, whatever else is wrong with it; with the
current key it is refused for the window if that is closed, and then for the lack of a handler that
takes its tag. What is refused calls no handler and changes nothing but the statistics. Every other
action goes to the one handler that takes its tag. Whatever has been done before, with handlers that
failed or panicked, it is so for every action. -/
theorem act_obeys_dispatch (offers : List Handler) (start : World M)
    (registry : start.environment.registry = .ofOffers offers) (before : Program M α)
    (action : Action) (actor : ParticipantId) (key : Key) :
    let w := (start.perform before).2
    let e := w.environment
    let accepted := (Registry.ofOffers offers).handlers
    (e.keyOf? actor ≠ some key → w.Refuses action actor key (.invalidAuthorization actor)) ∧
    (e.keyOf? actor = some key → e.window.phase = .closed →
      w.Refuses action actor key (.tickClosed e.window.tick)) ∧
    (e.keyOf? actor = some key → e.window.phase ≠ .closed →
      (∀ h ∈ accepted, action.tag ∉ h.handler.tags) →
      w.Refuses action actor key (.noHandlerFound action.tag)) ∧
    (e.keyOf? actor = some key → e.window.phase ≠ .closed →
      ∀ h ∈ accepted, action.tag ∈ h.handler.tags →
      (∀ h' ∈ accepted, action.tag ∈ h'.handler.tags → h' = h) ∧ w.Hands action actor key h) := by
  intro w e accepted
  have sound : (Registry.ofOffers offers).Sound := Registry.sound_ofOffers offers
  have kept : e.registry = .ofOffers offers :=
    (World.perform_reaches start before).frame.registry.trans registry
  refine ⟨fun other => ?_, fun current closed => ?_, fun current opened untaken => ?_,
    fun current opened h accept tagged => ?_⟩
  · exact World.refuses_of_route (Environment.route_of_ne other action)
  · exact World.refuses_of_route
      (Environment.route_of_closed closed (Environment.isCurrent_iff.2 current) action)
  · refine World.refuses_of_route ?_
    rw [Environment.route_of_open opened (Environment.isCurrent_iff.2 current), kept,
      Registry.resolve]
    cases found : (Registry.ofOffers offers).handlerOf? action.tag with
    | none => rfl
    | some h =>
      obtain ⟨accept, tagged⟩ := sound.handlerOf?_eq_some_iff.1 found
      exact absurd tagged (untaken h accept)
  · have found : (Registry.ofOffers offers).handlerOf? action.tag = some h :=
      sound.handlerOf?_eq_some_iff.2 ⟨accept, tagged⟩
    refine ⟨fun h' accept' tagged' => ?_, World.hands_of_route ?_⟩
    · have found' := sound.handlerOf?_eq_some_iff.2 ⟨accept', tagged'⟩
      exact Option.some.inj (found'.symm.trans found)
    · rw [Environment.route_of_open opened (Environment.isCurrent_iff.2 current), kept,
        Registry.resolve, found]

section Breakdown

/-- A handler that writes, and then panics in an update. -/
def till : Handler where
  name := "till"
  tags := [⟨"pay"⟩]
  keys := [⟨"paid"⟩, ⟨"total"⟩]
  handle _ _ _ := .write ⟨"paid"⟩ (.bool true) fun _ =>
    .update ⟨"total"⟩ (fun _ => .error (.panicked (.text "overflow"))) fun r =>
      .stop (.ofUpdate r)

/-- A participant registers, and pays once. -/
def payment : Program Key Unit :=
  .ask (.register ⟨1⟩ "payer") fun _ => .ask (.act ⟨⟨"pay"⟩, .null⟩ ⟨1⟩ ⟨1⟩) fun _ => .done ()

/-- The first payment makes the handler panic, and so does the second; what was written stays, and a
wrong key is refused before the tag is looked at. -/
theorem act_obeys_dispatch_till :
    let start := (plain.toSetting.accepting [till]).world
    let w := (start.perform payment).2
    start.environment.registry = .ofOffers [till] ∧
      (w.call (.act ⟨⟨"pay"⟩, .null⟩ ⟨1⟩ ⟨1⟩)).1 =
        .error (.actionExecutionFailed ⟨"pay"⟩ "till" "panicked: overflow") ∧
      w.environment.store.read ⟨"paid"⟩ = .ok (.bool true) ∧
      w.environment.store.contains ⟨"total"⟩ = false ∧
      (w.call (.act ⟨⟨"rob"⟩, .null⟩ ⟨1⟩ ⟨2⟩)).1 = .error (.invalidAuthorization ⟨1⟩) := by
  intro start w
  have law := act_obeys_dispatch [till] start rfl payment
  have current : w.environment.keyOf? ⟨1⟩ = some ⟨1⟩ := by decide +kernel
  have opened : w.environment.window.phase ≠ .closed := by decide +kernel
  have taken : (⟨⟨0⟩, till⟩ : RegisteredHandler) ∈ (Registry.ofOffers [till]).handlers := .head _
  refine ⟨rfl, ?_, by decide +kernel, by decide +kernel, ?_⟩
  · have goes := (law ⟨⟨"pay"⟩, .null⟩ ⟨1⟩ ⟨1⟩).2.2.2 current opened _ taken (.head _)
    rw [goes.2.answer]
    decide +kernel
  · exact ((law ⟨⟨"rob"⟩, .null⟩ ⟨1⟩ ⟨2⟩).1 (by decide +kernel)).answer

end Breakdown

end Cadence
