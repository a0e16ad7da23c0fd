import Cadence.Proofs.Authorization
import Cadence.Proofs.Callers
import Cadence.Proofs.Maps
import Cadence.Proofs.Perform
import Mathlib.Data.List.Induction

/-!
# Scopes of services

A look-up for a participant sees the services made for it, and behind them the global ones. The
former are those that the participant was given last (`exists_gift`), the latter those that were
added last and not withdrawn (`Access.global_apply`), and nobody else's accesses matter to either
(`Access.registration?_apply`, `Access.globals_apply`).
-/

namespace Cadence

variable {M α : Type}

/-- The answer of a look-up that has found a service or none. -/
def ServiceKind.answer (kind : ServiceKind) : Option Service → Except EnvironmentError Service
  | some s => .ok s
  | none => .error (.unavailableService kind)

/-- A service is answered if and only if it is found. -/
lemma ServiceKind.answer_eq_ok_iff {kind : ServiceKind} {found : Option Service} {s : Service} :
    kind.answer found = .ok s ↔ found = some s := by
  cases found <;> simp [answer]

/-! ## The services of a participant -/

namespace Environment

/-- The services that stand in the registration of a participant. -/
def ownServices? (e : Environment) (id : ParticipantId) : Option ServiceSet :=
  (e.registration? id).map Registration.services

variable {e e' : Environment} {id : ParticipantId} {key : Key}

/-- A global service is looked for among the global ones. -/
lemma globalService_eq (kind : ServiceKind) :
    e.globalService kind = kind.answer (e.globals.get? kind) := by
  rw [globalService]
  cases e.globals.get? kind <;> rfl

/-- Whoever has the key of a participant sees its services and behind them the global ones. -/
lemma participantService_eq {services : ServiceSet} (current : e.isCurrent id key = true)
    (own : e.ownServices? id = some services) (kind : ServiceKind) :
    e.participantService id key kind =
      kind.answer ((services.get? kind).or (e.globals.get? kind)) := by
  obtain ⟨r, holds⟩ := exists_holder?_iff.2 (isCurrent_iff.1 current)
  obtain ⟨registered, -⟩ := holder?_eq_some_iff.1 holds
  rw [ownServices?, registered] at own
  obtain rfl : r.services = services := Option.some.inj own
  rw [participantService, ownService, holds]
  dsimp only
  cases r.services.get? kind with
  | none => exact globalService_eq kind
  | some s => rfl

/-- Who holds a current key has services of its own. -/
lemma exists_ownServices? (current : e.isCurrent id key = true) :
    ∃ services, e.ownServices? id = some services := by
  obtain ⟨r, registered, -⟩ := Option.map_eq_some_iff.1 (isCurrent_iff.1 current)
  exact ⟨r.services, by rw [ownServices?, registered]; rfl⟩

/-- A participant finds the same services as long as its registration and the global services are
the same. -/
lemma participantService_congr (registration : e'.registration? id = e.registration? id)
    (globals : e'.globals = e.globals) (kind : ServiceKind) :
    e'.participantService id key kind = e.participantService id key kind := by
  simp only [participantService, ownService, holder?, globalService, registration, globals]

end Environment

/-- Whether a participant has gone with an access that was made. -/
def Performed.removes (id : ParticipantId) : Performed M → Bool
  | ⟨.deregister i _, .ok ()⟩ => id = i
  | _ => false

/-- The services of a participant after an access that was made, given those before: those that it
is given, else the ones before unless it goes. -/
def Performed.servicesAfter (id : ParticipantId) (services : Option ServiceSet) (q : Performed M) :
    Option ServiceSet :=
  (q.given? id).or (if q.removes id then none else services)

/-- An access changes the services of a participant as its reply tells. -/
theorem Access.ownServices?_apply (a : Access M) (w : World M) (id : ParticipantId) :
    (a.apply w).2.environment.ownServices? id =
      Performed.servicesAfter id (w.environment.ownServices? id) ⟨a, (a.apply w).1⟩ := by
  cases a with
  | settle action actor handler ending =>
    simp only [apply, World.inEnvironment, Environment.settle]
    rcases ending.result with reason | _ | _ <;> rfl
  | enrol member services =>
    simp only [apply, World.inEnvironment]
    cases h : w.environment.keyOf? member.id with
    | none =>
      rw [Environment.enrol_of_eq h, Environment.ownServices?, Environment.registration?_enter h]
      simp only [Performed.servicesAfter, Performed.given?]
      split <;> rfl
    | some key =>
      rw [Environment.enrol_of_some h]
      rfl
  | deregister i key =>
    simp only [apply, World.inEnvironment]
    by_cases h : w.environment.keyOf? i = some key
    · rw [Environment.deregister_of_eq h, Environment.ownServices?, Environment.registration?_leave]
      by_cases same : id = i <;>
        simp [Performed.servicesAfter, Performed.given?, Performed.removes, same,
          Environment.ownServices?]
    · rw [Environment.deregister_of_ne h]
      rfl
  | install i key services =>
    simp only [apply, World.inEnvironment]
    by_cases h : w.environment.keyOf? i = some key
    · rw [Environment.ownServices?, Environment.registration?_install h,
        Environment.install_of_eq h]
      simp only [Performed.servicesAfter, Performed.given?]
      by_cases same : id = i
      · subst same
        obtain ⟨r, registered, -⟩ := Option.map_eq_some_iff.1 h
        simp [registered]
      · simp [same, Performed.removes, Environment.ownServices?]
    · rw [Environment.install_of_ne h]
      rfl
  | _ => rfl

/-- The services that a participant has at last are those of the last deed that gave it any. -/
lemma exists_gift {id : ParticipantId} {services : ServiceSet} {ds : List (Deed M)}
    (h : (ds.map Deed.performed).foldl (Performed.servicesAfter id) none = some services) :
    ∃ before d after, ds = before ++ d :: after ∧ d.performed.given? id = some services ∧
      ∀ d' ∈ after, d'.performed.given? id = none := by
  induction ds using List.reverseRecOn with
  | nil => cases h
  | append_singleton ds d ih =>
    rw [List.map_append, List.foldl_append, List.map_singleton, List.foldl_cons, List.foldl_nil,
      Performed.servicesAfter] at h
    cases given : d.performed.given? id with
    | some made =>
      rw [given, Option.some_or] at h
      exact ⟨ds, d, [], rfl, given.trans h, fun _ mem => absurd mem List.not_mem_nil⟩
    | none =>
      rw [given, Option.none_or] at h
      obtain ⟨-, h⟩ := Option.ite_none_left_eq_some.1 h
      obtain ⟨before, d', after, rfl, gave, later⟩ := ih h
      refine ⟨before, d', after ++ [d], by simp, gave, fun d'' mem => ?_⟩
      rcases List.mem_append.1 mem with mem | mem
      · exact later d'' mem
      · rw [List.mem_singleton.1 mem, given]

/-! ## Global services -/

/-- An access changes the global services only if it is there for that. -/
theorem Access.globals_apply {a : Access M} (quiet : a.isGlobal = false) (w : World M) :
    (a.apply w).2.environment.globals = w.environment.globals := by
  cases a with
  | settle action actor handler ending =>
    simp only [apply, World.inEnvironment, Environment.settle]
    rcases ending.result with reason | _ | _ <;> rfl
  | enrol member services =>
    simp only [apply, World.inEnvironment, Environment.enrol]
    cases w.environment.checkAbsent member.id <;> rfl
  | deregister id key =>
    simp only [apply, World.inEnvironment, Environment.deregister]
    cases w.environment.authorize id key <;> rfl
  | install id key services =>
    simp only [apply, World.inEnvironment, Environment.install]
    cases w.environment.authorize id key <;> rfl
  | addService | removeService => cases quiet
  | _ => rfl

/-- The global service of a kind after an access that was made, given the one before. -/
def Performed.globalAfter (kind : ServiceKind) (service : Option Service) :
    Performed M → Option Service
  | ⟨.addService s, _⟩ => if kind = s.kind then some s else service
  | ⟨.removeService k, _⟩ => if kind = k then none else service
  | _ => service

/-- A global service changes as the access says. -/
theorem Access.global_apply (a : Access M) (w : World M) (kind : ServiceKind) :
    (a.apply w).2.environment.globals.get? kind =
      Performed.globalAfter kind (w.environment.globals.get? kind) ⟨a, (a.apply w).1⟩ := by
  cases a with
  | addService s => exact OrderedMap.get?_insert _ _ _ _
  | removeService k => exact OrderedMap.get?_erase _ _ _
  | _ =>
    rw [globals_apply rfl]
    rfl

/-- The global services that there are from the start: the two built-in ones, and those that the
environment is built with. -/
def Setting.standing (x : Setting M) (kind : ServiceKind) : Option Service :=
  if kind = .view then some .view
  else if kind = .members then some (.members .environment)
  else x.services.get? kind

/-- At the start the global services are those of the setting. -/
lemma Setting.globals_world (x : Setting M) (kind : ServiceKind) :
    x.world.environment.globals.get? kind = x.standing kind := by
  rw [standing, ← OrderedMap.get?_insert, ← OrderedMap.get?_insert]
  rfl

/-! ## What does not matter to a participant -/

/-- An access changes no registration but that of its participant. -/
theorem Access.registration?_apply {a : Access M} {id : ParticipantId}
    (other : a.participant? ≠ some id) (w : World M) :
    (a.apply w).2.environment.registration? id = w.environment.registration? id := by
  cases a with
  | settle action actor handler ending =>
    simp only [apply, World.inEnvironment, Environment.settle]
    rcases ending.result with reason | _ | _ <;> rfl
  | enrol member services =>
    have other : id ≠ member.id := fun same => other (congrArg some same.symm)
    simp only [apply, World.inEnvironment]
    cases h : w.environment.keyOf? member.id with
    | none => rw [Environment.enrol_of_eq h, Environment.registration?_enter h, if_neg other]
    | some key => rw [Environment.enrol_of_some h]
  | deregister i key =>
    have other : id ≠ i := fun same => other (congrArg some same.symm)
    simp only [apply, World.inEnvironment]
    by_cases h : w.environment.keyOf? i = some key
    · rw [Environment.deregister_of_eq h, Environment.registration?_leave, if_neg other]
    · rw [Environment.deregister_of_ne h]
  | install i key services =>
    have other : id ≠ i := fun same => other (congrArg some same.symm)
    simp only [apply, World.inEnvironment]
    by_cases h : w.environment.keyOf? i = some key
    · rw [Environment.registration?_install h]
      simp only [if_neg other, Option.map_id']
    · rw [Environment.install_of_ne h]
  | _ => rfl

namespace World

variable {w : World M} {p : Program M α}

/-- Nobody's registration changes but in a call of its own. -/
theorem registration?_perform {id : ParticipantId}
    (others : ∀ q ∈ w.callsOf p, q.caller? ≠ some id) :
    (w.perform p).2.environment.registration? id = w.environment.registration? id := by
  refine (w.deedsOf_along p).lift (R := fun w w' => w'.environment.registration? id =
    w.environment.registration? id) (fun _ => rfl) (fun ab bc => bc.trans ab) fun d mem => ?_
  obtain ⟨q, call, covers⟩ := exists_call_of_mem mem
  exact Access.registration?_apply (fun own => others q call (covers.own id own)) d.world

/-- The global services change in no call but those that are there for it. -/
theorem globals_perform (others : ∀ q ∈ w.callsOf p, q.isGlobal = false) :
    (w.perform p).2.environment.globals = w.environment.globals := by
  refine (w.deedsOf_along p).lift (R := fun w w' => w'.environment.globals =
    w.environment.globals) (fun _ => rfl) (fun ab bc => bc.trans ab) fun d mem => ?_
  obtain ⟨q, call, covers⟩ := exists_call_of_mem mem
  refine Access.globals_apply (Bool.eq_false_iff.2 fun global => ?_) d.world
  exact absurd (covers.global global) (Bool.eq_false_iff.1 (others q call))

end World

/-! ## Answers -/

namespace World

variable {w w' : World M} {id : ParticipantId}

/-- A registration that succeeds has entered the participant with the services that have just been
generated for it, which it answers and which then stand. -/
lemma generated_of_register {name : String} {admission : Admission}
    (h : w.call (.register id name) = (.ok admission, w')) :
    (w.generate ⟨id, name⟩).1 = admission.services ∧
      (Access.enrol ⟨id, name⟩ admission.services).apply (w.generate ⟨id, name⟩).2 =
        (.ok admission, w') ∧
      w'.environment.ownServices? id = some admission.services := by
  rw [call_register] at h
  cases absent : w.environment.checkAbsent id with
  | error e =>
    rw [absent] at h
    cases h
  | ok u =>
    rw [absent] at h
    dsimp only at h
    generalize w.generate ⟨id, name⟩ = g at h ⊢
    cases registered : g.2.environment.keyOf? id with
    | some key =>
      rw [Environment.enrol_of_some registered] at h
      cases h
    | none =>
      have entered := h
      rw [Environment.enrol_of_eq registered] at h
      cases h
      refine ⟨rfl, entered, ?_⟩
      dsimp only [inEnvironment]
      rw [Environment.ownServices?, Environment.registration?_enter registered, if_pos rfl]
      rfl

/-- A renewal of services that succeeds has installed those that have just been generated for the
participant. -/
lemma generated_of_regenerate {key : Key} {services : ServiceSet}
    (h : w.call (.regenerate id key) = (.ok services, w')) :
    ∃ member : Member, member.id = id ∧ (w.generate member).1 = services ∧
      (Access.install id key services).apply (w.generate member).2 = (.ok services, w') ∧
      w'.environment.ownServices? id = some services := by
  by_cases current : w.environment.keyOf? id = some key
  · obtain ⟨member, named, call⟩ := call_regenerate_of_eq current
    rw [call] at h
    by_cases still : (w.generate member).2.environment.keyOf? id = some key
    · have installed := h
      obtain ⟨r, registered, -⟩ := Option.map_eq_some_iff.1 still
      obtain ⟨answer, rfl⟩ := Prod.mk.inj h
      rw [Environment.install_of_eq still] at answer
      cases answer
      refine ⟨member, named, rfl, installed, ?_⟩
      dsimp only [inEnvironment]
      rw [Environment.ownServices?, Environment.registration?_install still, registered,
        Option.map_some, if_pos rfl]
      rfl
    · rw [Environment.install_of_ne still] at h
      cases h
  · rw [call_regenerate_of_ne current] at h
    cases h

/-- A plugin that was given its services at any time looks among those that are there now. -/
lemma perform_pluginManager (w : World M) (e : Environment) (kind : ServiceKind) :
    w.perform ((PluginManager.ofEnvironment e).service kind) = w.call (.globalService kind) := by
  rw [PluginManager.service, PluginManager.ofEnvironment]
  simp only [perform_bind, perform_request, perform_pure, call_globalService,
    Environment.globalService]
  cases w.environment.globals.get? kind <;> rfl

end World

/-- Whatever a program has done, a look-up with a current key finds the service that is among those
which the participant was given last, and only if there is none the global one: that which was added
last and not withdrawn since. What was given last had been generated for the participant right
before, by all generators one after another and from no services at first. A registration or renewal
that succeeds gives, and answers, what generators have left in the same way. A plugin manager from
any time finds the global services of the moment. Whatever a program then does, a participant in
whose name no call is made keeps its registration, and finds the same as long as no call is made
that adds or withdraws global services; if none is, these are the same. Each single access has this
from the call that it belongs to. -/
theorem services_are_scoped (x : Setting M) (p : Program M α) :
    let w := (x.world.perform p).2
    let ds := x.world.deedsOf p
    let global kind := (ds.map Deed.performed).foldl (Performed.globalAfter kind) (x.standing kind)
    (∀ id key, w.environment.isCurrent id key = true →
      ∃ before d after services, ds = before ++ d :: after ∧
        d.performed.given? id = some services ∧
        (∀ d' ∈ after, d'.performed.given? id = none) ∧
        d.Generated x.generators x.nesting id services before ∧
        ∀ kind, w.call (.participantService id key kind) =
          (kind.answer ((services.get? kind).or (global kind)), w)) ∧
    (∀ kind, w.call (.globalService kind) = (kind.answer (global kind), w)) ∧
    (∀ before : World M, ∀ kind,
      w.perform ((PluginManager.ofEnvironment before.environment).service kind) =
        w.call (.globalService kind)) ∧
    (∀ id name admission w', w.call (.register id name) = (.ok admission, w') →
      ∃ left, Leaves (.ofRequest x.generators x.nesting) ⟨id, name⟩ w x.generators
          admission.services left ∧
        (Access.enrol ⟨id, name⟩ admission.services).apply left = (.ok admission, w') ∧
        w'.environment.ownServices? id = some admission.services) ∧
    (∀ id key services w', w.call (.regenerate id key) = (.ok services, w') →
      ∃ member left, member.id = id ∧
        Leaves (.ofRequest x.generators x.nesting) member w x.generators services left ∧
        (Access.install id key services).apply left = (.ok services, w') ∧
        w'.environment.ownServices? id = some services) ∧
    (∀ {β : Type} (later : Program M β),
      let w' := (w.perform later).2
      let calls := w.callsOf later
      (∀ id, (∀ q ∈ calls, q.caller? ≠ some id) →
        w'.environment.registration? id = w.environment.registration? id ∧
        ((∀ q ∈ calls, q.isGlobal = false) → ∀ key kind,
          (w'.call (.participantService id key kind)).1 =
            (w.call (.participantService id key kind)).1)) ∧
      ((∀ q ∈ calls, q.isGlobal = false) →
        w'.environment.globals = w.environment.globals)) ∧
    ∀ d ∈ ds, (∃ q ∈ x.world.callsOf p, q.Covers d.access) ∧
      (∀ id, d.access.participant? ≠ some id →
        d.after.environment.registration? id = d.world.environment.registration? id) ∧
      (d.access.isGlobal = false → d.after.environment.globals = d.world.environment.globals) := by
  intro w ds global
  have along : x.world.Along ds w := x.world.deedsOf_along p
  have own (id : ParticipantId) : w.environment.ownServices? id =
      (ds.map Deed.performed).foldl (Performed.servicesAfter id) none :=
    along.foldl (f := fun w => w.environment.ownServices? id) fun a w => a.ownServices?_apply w id
  have globals (kind : ServiceKind) : w.environment.globals.get? kind = global kind := by
    rw [along.foldl (f := fun w => w.environment.globals.get? kind) fun a w =>
      a.global_apply w kind, x.globals_world]
  -- the generators are those of the start, for nothing changes them
  have alike : x.world.Alike w := (x.world.perform_reaches p).alike
  have generated (member : Member) : Leaves (.ofRequest x.generators x.nesting) member w
      x.generators (w.generate member).1 (w.generate member).2 := by
    have left := w.leaves_generate member
    rwa [alike.generators, alike.nesting] at left
  refine ⟨fun id key current => ?_, fun kind => ?_, fun before kind => ?_,
    fun id name admission w' h => ?_, fun id key services w' h => ?_, fun later =>
    ⟨fun id others => ⟨World.registration?_perform others, fun quiet key kind => ?_⟩,
      World.globals_perform⟩, fun d mem => ⟨World.exists_call_of_mem mem, fun _ other => ?_,
      fun quiet => ?_⟩⟩
  · obtain ⟨services, stands⟩ := Environment.exists_ownServices? current
    obtain ⟨before, d, after, split, given, last⟩ := exists_gift ((own id).symm.trans stands)
    refine ⟨before, d, after, services, split, given, last,
      World.sound_of_mem split id services given, fun kind => ?_⟩
    rw [World.call_participantService, Environment.participantService_eq current stands, globals]
  · rw [World.call_globalService, Environment.globalService_eq, globals]
  · exact w.perform_pluginManager before.environment kind
  · obtain ⟨answer, entered, stands⟩ := World.generated_of_register h
    exact ⟨_, answer ▸ generated ⟨id, name⟩, entered, stands⟩
  · obtain ⟨member, named, answer, installed, stands⟩ := World.generated_of_regenerate h
    exact ⟨member, _, named, answer ▸ generated member, installed, stands⟩
  · rw [World.call_participantService, World.call_participantService]
    exact Environment.participantService_congr (World.registration?_perform others)
      (World.globals_perform quiet) kind
  · exact Access.registration?_apply other d.world
  · exact Access.globals_apply quiet d.world

/-! ### Generators for the same kind -/

section Overwriting

/-- A generator that gives a member a note of one kind, in place of one that it finds. -/
def noting (kind : ServiceKind) (text : String) : Generator Unit := fun member found =>
  .done (ServiceSet.add found (.note kind (text ++ member.name)))

/-- A setting in which a generator gives the members desks, one before it badges, and one after it
badges again. -/
def badging : Setting Unit where
  registry := {}
  services := ServiceSet.add {} (.note ⟨"manual"⟩ "read me")
  supply := .counting
  generators :=
    [noting ⟨"badge"⟩ "guest ", noting ⟨"desk"⟩ "desk of ", noting ⟨"badge"⟩ "member "]
  nesting := 1
  database := {}
  operator := {}
  memory := ()

/-- Two participants are registered, and a desk is added for everybody. -/
def arrivals : Program Unit Unit :=
  .ask (.register ⟨1⟩ "ada") fun _ => .ask (.register ⟨2⟩ "bob") fun _ =>
    .ask (.addService (.note ⟨"desk"⟩ "any desk")) fun _ => .done ()

/-- The badge is from the last generator and the desk from the one in the middle; what no generator
gives is found among the global services or not at all. When the other participant leaves and comes
back, that changes nothing. -/
theorem services_are_scoped_overwriting :
    let w := (badging.world.perform arrivals).2
    let found kind := (w.call (.participantService ⟨1⟩ ⟨1⟩ kind)).1
    let back : Program Unit Unit := .ask (.deregister ⟨2⟩ ⟨2⟩) fun _ =>
      .ask (.register ⟨2⟩ "bob") fun _ => .done ()
    (∃ before d after services, badging.world.deedsOf arrivals = before ++ d :: after ∧
      d.Generated badging.generators badging.nesting ⟨1⟩ services before ∧
      services.get? ⟨"badge"⟩ = some (.note ⟨"badge"⟩ "member ada") ∧
      services.get? ⟨"desk"⟩ = some (.note ⟨"desk"⟩ "desk of ada")) ∧
    found ⟨"badge"⟩ = .ok (.note ⟨"badge"⟩ "member ada") ∧
    found ⟨"desk"⟩ = .ok (.note ⟨"desk"⟩ "desk of ada") ∧
    found ⟨"manual"⟩ = .ok (.note ⟨"manual"⟩ "read me") ∧
    found ⟨"map"⟩ = .error (.unavailableService ⟨"map"⟩) ∧
    (w.perform back).2.environment.registration? ⟨1⟩ = w.environment.registration? ⟨1⟩ := by
  intro w found back
  obtain ⟨looked, -, -, -, -, apart, -⟩ := services_are_scoped badging arrivals
  obtain ⟨before, d, after, services, split, -, -, generated, answers⟩ :=
    looked ⟨1⟩ ⟨1⟩ (by decide +kernel)
  have badge : found ⟨"badge"⟩ = .ok (.note ⟨"badge"⟩ "member ada") := by decide +kernel
  have desk : found ⟨"desk"⟩ = .ok (.note ⟨"desk"⟩ "desk of ada") := by decide +kernel
  -- neither is the global service of its kind, so both are among those of the participant
  have own {kind : ServiceKind} {s : Service} (answer : found kind = .ok s)
      (other : (badging.world.deedsOf arrivals |>.map Deed.performed).foldl
        (Performed.globalAfter kind) (badging.standing kind) ≠ some s) :
      services.get? kind = some s := by
    have found := (congrArg Prod.fst (answers kind)).symm.trans answer
    rcases Option.or_eq_some_iff.1 (ServiceKind.answer_eq_ok_iff.1 found) with own | ⟨-, global⟩
    · exact own
    · exact absurd global other
  refine ⟨⟨before, d, after, services, split, generated, own badge (by decide +kernel),
    own desk (by decide +kernel)⟩, badge, desk, by decide +kernel, by decide +kernel, ?_⟩
  exact ((apart back).1 ⟨1⟩ (by decide +kernel)).1

end Overwriting

end Cadence
