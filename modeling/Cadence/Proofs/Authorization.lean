import Cadence.Proofs.Registration

/-!
# Authorization

Who presents a key is admitted exactly if the key is the one that the most recent successful
registration of the participant issued and no removal of the participant has succeeded since. The
log of a run, `World.log`, tells which key that is (`issued`); `Access.error?_apply` says that every
single check agrees with it, and `pass_iff_issued` that every call does.
-/

namespace Cadence

variable {M α β : Type}

/-! ## Issued keys -/

/-- The key that the most recent successful registration of a participant has issued, unless the
participant has been removed since. -/
def issued (id : ParticipantId) (log : List (Performed M)) : Option Key :=
  log.foldl (Performed.keyAfter id) none

/-- A thread changes the key of a participant as its log tells. -/
lemma Thread.keyOf?_run (t : Thread M α) (w : World M) (id : ParticipantId) :
    (t.run w).2.environment.keyOf? id =
      (t.log w).foldl (Performed.keyAfter id) (w.environment.keyOf? id) :=
  foldl_log (I := fun _ => True) (f := fun w => w.environment.keyOf? id) (fun _ _ _ => trivial)
    (fun a w _ => a.keyOf?_apply w id) t trivial

/-- After a program the key of a participant is the one that its log tells. -/
lemma Setting.keyOf?_perform (x : Setting M) (p : Program M α) (id : ParticipantId) :
    (x.world.perform p).2.environment.keyOf? id = issued id (x.world.log p) :=
  Thread.keyOf?_run _ _ id

/-- So it is after generators have run for a member. -/
lemma Setting.keyOf?_generate (x : Setting M) (p : Program M α) (member : Member)
    (id : ParticipantId) :
    ((x.world.perform p).2.generate member).2.environment.keyOf? id =
      issued id (x.world.log p ++ (x.world.perform p).2.generationLog member) := by
  rw [issued, List.foldl_append]
  refine (Thread.keyOf?_run _ _ id).trans ?_
  rw [x.keyOf?_perform p id]
  rfl

/-- An access in the log was made when the key was the one that the log up to it has issued. -/
lemma Setting.exists_world_of_log (x : Setting M) {p : Program M α}
    {before after : List (Performed M)} {q : Performed M}
    (split : x.world.log p = before ++ q :: after) (id : ParticipantId) :
    ∃ w : World M, q.reply = (q.access.apply w).1 ∧
      w.environment.keyOf? id = issued id before := by
  obtain ⟨w, -, reply, told⟩ := Thread.exists_world_of_log (I := fun _ => True)
    (f := fun w => w.environment.keyOf? id) (fun _ _ _ => trivial)
    (fun a w _ => a.keyOf?_apply w id) trivial split
  exact ⟨w, reply, told⟩

/-! ## Checks -/

/-- The participant and the key that an access checks. -/
def Access.presents? : Access M → Option (ParticipantId × Key)
  | route _ actor key => some (actor, key)
  | deregister id key => some (id, key)
  | tenant id key => some (id, key)
  | install id key _ => some (id, key)
  | ownService id key _ => some (id, key)
  | _ => none

/-- The error with which an access was refused that checks a key. -/
def Performed.error? : Performed M → Option EnvironmentError
  | ⟨.route _ _ _, .error e⟩ => some e
  | ⟨.deregister _ _, .error e⟩ => some e
  | ⟨.tenant _ _, .error e⟩ => some e
  | ⟨.install _ _ _, .error e⟩ => some e
  | ⟨.ownService _ _ _, .error e⟩ => some e
  | _ => none

namespace Environment

variable {e : Environment} {id : ParticipantId} {key : Key}

/-- An action with the current key is not refused for the key. -/
lemma route_ne_of_eq (h : e.keyOf? id = some key) (action : Action) :
    e.route action id key ≠ .error (.invalidAuthorization id) := by
  rw [route, authorize_of_eq h]
  dsimp only
  cases hw : e.window.check with
  | error err =>
    rw [Window.check] at hw
    split at hw
    · obtain rfl := Except.error.inj hw
      simp
    · cases hw
  | ok u =>
    dsimp only
    rw [Registry.resolve]
    split <;> simp

/-- An action with another key is. -/
lemma route_of_ne (h : e.keyOf? id ≠ some key) (action : Action) :
    e.route action id key = .error (.invalidAuthorization id) := by
  rw [route, authorize_of_ne h]

/-- With the current key one learns under which name the participant is registered. -/
lemma tenant_of_eq (h : e.keyOf? id = some key) : ∃ name, e.tenant id key = .ok name := by
  obtain ⟨r, hr⟩ := exists_holder?_iff.2 h
  exact ⟨r.name, by rw [tenant, hr]⟩

/-- With another key one is refused. -/
lemma tenant_of_ne (h : e.keyOf? id ≠ some key) :
    e.tenant id key = .error (.invalidAuthorization id) := by
  rw [tenant, holder?_eq_none h]

/-- Services are installed with the current key. -/
lemma install_of_eq (h : e.keyOf? id = some key) (services : ServiceSet) :
    (e.install id key services).1 = .ok services := by
  rw [install, authorize_of_eq h]

/-- With another key nothing is installed. -/
lemma install_of_ne (h : e.keyOf? id ≠ some key) (services : ServiceSet) :
    e.install id key services = (.error (.invalidAuthorization id), e) := by
  rw [install, authorize_of_ne h]

/-- With the current key one looks among the services of the participant. -/
lemma ownService_of_eq (h : e.keyOf? id = some key) (kind : ServiceKind) :
    ∃ found, e.ownService id key kind = .ok found := by
  obtain ⟨r, hr⟩ := exists_holder?_iff.2 h
  exact ⟨r.services.get? kind, by rw [ownService, hr]⟩

/-- With another key one is refused. -/
lemma ownService_of_ne (h : e.keyOf? id ≠ some key) (kind : ServiceKind) :
    e.ownService id key kind = .error (.invalidAuthorization id) := by
  rw [ownService, holder?_eq_none h]

/-- A look-up with the current key is not refused for the key. -/
lemma participantService_ne_of_eq (h : e.keyOf? id = some key) (kind : ServiceKind) :
    e.participantService id key kind ≠ .error (.invalidAuthorization id) := by
  obtain ⟨found, hf⟩ := ownService_of_eq h kind
  rw [participantService, hf]
  cases found with
  | some s => simp
  | none =>
    dsimp only
    rw [globalService]
    split <;> simp

/-- A look-up with another key is. -/
lemma participantService_of_ne (h : e.keyOf? id ≠ some key) (kind : ServiceKind) :
    e.participantService id key kind = .error (.invalidAuthorization id) := by
  rw [participantService, ownService_of_ne h]

/-- What comes of an action with the current key is no refusal for the key. -/
lemma act_ne_of_eq (h : e.keyOf? id = some key) (action : Action) :
    (e.act action id key).1 ≠ .error (.invalidAuthorization id) := by
  have routed := route_ne_of_eq h action
  rw [act]
  cases hr : e.route action id key with
  | error err =>
    rw [hr] at routed
    exact fun refused => routed (congrArg Except.error (Except.error.inj refused))
  | ok entry =>
    dsimp only
    rw [settle]
    split <;> simp

/-- An action with another key is refused and counted as such. -/
lemma act_of_ne (h : e.keyOf? id ≠ some key) (action : Action) :
    e.act action id key = (.error (.invalidAuthorization id), e.record .addRefused) := by
  rw [act, route_of_ne h]

end Environment

open Environment in
/-- A check refuses a key exactly if it is not that of the live registration. -/
theorem Access.error?_apply {a : Access M} {id : ParticipantId} {key : Key}
    (h : a.presents? = some (id, key)) (w : World M) :
    Performed.error? ⟨a, (a.apply w).1⟩ = some (.invalidAuthorization id) ↔
      w.environment.keyOf? id ≠ some key := by
  cases a
  case route action actor key' =>
    obtain ⟨rfl, rfl⟩ := Prod.mk.inj (Option.some.inj h)
    by_cases hk : w.environment.keyOf? actor = some key'
    · have passes := route_ne_of_eq hk action
      simp only [apply]
      cases hr : w.environment.route action actor key' with
      | error e => simp_all [Performed.error?]
      | ok entry => simp [Performed.error?, hk]
    · simp [apply, route_of_ne hk, Performed.error?, hk]
  case deregister id' key' =>
    obtain ⟨rfl, rfl⟩ := Prod.mk.inj (Option.some.inj h)
    by_cases hk : w.environment.keyOf? id' = some key'
    · simp [apply, World.inEnvironment, deregister_of_eq hk, Performed.error?, hk]
    · simp [apply, World.inEnvironment, deregister_of_ne hk, Performed.error?, hk]
  case tenant id' key' =>
    obtain ⟨rfl, rfl⟩ := Prod.mk.inj (Option.some.inj h)
    by_cases hk : w.environment.keyOf? id' = some key'
    · obtain ⟨name, hn⟩ := tenant_of_eq hk
      simp [apply, hn, Performed.error?, hk]
    · simp [apply, tenant_of_ne hk, Performed.error?, hk]
  case install id' key' services =>
    obtain ⟨rfl, rfl⟩ := Prod.mk.inj (Option.some.inj h)
    by_cases hk : w.environment.keyOf? id' = some key'
    · simp [apply, World.inEnvironment, install_of_eq hk, Performed.error?, hk]
    · simp [apply, World.inEnvironment, install_of_ne hk, Performed.error?, hk]
  case ownService id' key' kind =>
    obtain ⟨rfl, rfl⟩ := Prod.mk.inj (Option.some.inj h)
    by_cases hk : w.environment.keyOf? id' = some key'
    · obtain ⟨found, hf⟩ := ownService_of_eq hk kind
      simp [apply, hf, Performed.error?, hk]
    · simp [apply, ownService_of_ne hk, Performed.error?, hk]
  all_goals cases h

/-! ## Calls -/

namespace World

variable {w : World M} {id : ParticipantId} {key : Key}

/-- A call with the current key is not refused for the key. -/
lemma call_act_ne_of_eq (h : w.environment.keyOf? id = some key) (action : Action) :
    (w.call (.act action id key)).1 ≠ .error (.invalidAuthorization id) := by
  rw [call_act]
  exact Environment.act_ne_of_eq h action

/-- A call with another key is refused, and nothing changes but the count of refusals. -/
lemma call_act_of_ne (h : w.environment.keyOf? id ≠ some key) (action : Action) :
    w.call (.act action id key) =
      (.error (.invalidAuthorization id),
        { w with environment := w.environment.record .addRefused }) := by
  rw [call_act, Environment.act_of_ne h]
  rfl

/-- A participant is removed by a call with its current key. -/
lemma call_deregister_of_eq (h : w.environment.keyOf? id = some key) :
    w.call (.deregister id key) = (.ok (), { w with environment := w.environment.leave id }) := by
  rw [call_deregister, Environment.deregister_of_eq h]
  rfl

/-- A call with another key removes nobody. -/
lemma call_deregister_of_ne (h : w.environment.keyOf? id ≠ some key) :
    w.call (.deregister id key) = (.error (.invalidAuthorization id), w) := by
  rw [call_deregister, Environment.deregister_of_ne h]
  rfl

/-- A call for a service with the current key is not refused for the key. -/
lemma call_participantService_ne_of_eq (h : w.environment.keyOf? id = some key)
    (kind : ServiceKind) :
    (w.call (.participantService id key kind)).1 ≠ .error (.invalidAuthorization id) := by
  rw [call_participantService]
  exact Environment.participantService_ne_of_eq h kind

/-- A call for a service with another key is refused. -/
lemma call_participantService_of_ne (h : w.environment.keyOf? id ≠ some key) (kind : ServiceKind) :
    w.call (.participantService id key kind) = (.error (.invalidAuthorization id), w) := by
  rw [call_participantService, Environment.participantService_of_ne h]

/-- A renewal that passes its first check generates services and passes or fails a second one. -/
lemma call_regenerate_of_eq (h : w.environment.keyOf? id = some key) :
    ∃ member : Member, member.id = id ∧ w.call (.regenerate id key) =
      (w.generate member).2.inEnvironment
        ((w.generate member).2.environment.install id key (w.generate member).1) := by
  obtain ⟨name, hn⟩ := Environment.tenant_of_eq h
  refine ⟨(w.environment.member? id).getD ⟨id, name⟩, Environment.id_getD_member? id name, ?_⟩
  rw [call_regenerate, hn]

/-- A call for new services with another key is refused at the first check. -/
lemma call_regenerate_of_ne (h : w.environment.keyOf? id ≠ some key) :
    w.call (.regenerate id key) = (.error (.invalidAuthorization id), w) := by
  rw [call_regenerate, Environment.tenant_of_ne h]

end World

/-- After every sequence of calls, and at every check made during it, a key is accepted exactly if
the most recent successful registration of the participant issued it and no removal has succeeded
since. A call that is not accepted says so, and changes nothing but the count of refused actions. A
renewal of services checks the key before and after the generators run. -/
theorem pass_iff_issued (x : Setting M) (p : Program M α) (id : ParticipantId) (key : Key) :
    let w := (x.world.perform p).2
    let log := x.world.log p
    let live := issued id log = some key
    let refused : EnvironmentError := .invalidAuthorization id
    (∀ before q after, log = before ++ q :: after → q.access.presents? = some (id, key) →
      (q.error? = some refused ↔ issued id before ≠ some key)) ∧
    (w.environment.isCurrent id key = true ↔ live) ∧
    (∀ action,
      (live → (w.call (.act action id key)).1 ≠ .error refused) ∧
      (¬live → w.call (.act action id key) =
        (.error refused, { w with environment := w.environment.record .addRefused }))) ∧
    ((live → (w.call (.deregister id key)).1 = .ok ()) ∧
      (¬live → w.call (.deregister id key) = (.error refused, w))) ∧
    (∀ kind,
      (live → (w.call (.participantService id key kind)).1 ≠ .error refused) ∧
      (¬live → w.call (.participantService id key kind) = (.error refused, w))) ∧
    (live → ∃ member : Member, member.id = id ∧
      let stillLive := issued id (log ++ w.generationLog member) = some key
      let g := w.generate member
      (stillLive → (w.call (.regenerate id key)).1 = .ok g.1) ∧
      (¬stillLive → w.call (.regenerate id key) = (.error refused, g.2))) ∧
    (¬live → w.call (.regenerate id key) = (.error refused, w)) := by
  intro w log live refused
  have keys : w.environment.keyOf? id = issued id log := x.keyOf?_perform p id
  have of_live (h : live) : w.environment.keyOf? id = some key := keys.trans h
  have of_not_live (h : ¬live) : w.environment.keyOf? id ≠ some key := keys ▸ h
  refine ⟨?_, ?_, fun action => ⟨fun h => ?_, fun h => ?_⟩, ⟨fun h => ?_, fun h => ?_⟩,
    fun kind => ⟨fun h => ?_, fun h => ?_⟩, fun h => ?_, fun h => ?_⟩
  · intro before q after split presented
    obtain ⟨w', reply, told⟩ := x.exists_world_of_log split id
    have checked := Access.error?_apply presented w'
    rw [told, ← reply] at checked
    exact checked
  · rw [Environment.isCurrent_iff, keys]
  · exact World.call_act_ne_of_eq (of_live h) action
  · exact World.call_act_of_ne (of_not_live h) action
  · rw [World.call_deregister_of_eq (of_live h)]
  · exact World.call_deregister_of_ne (of_not_live h)
  · exact World.call_participantService_ne_of_eq (of_live h) kind
  · exact World.call_participantService_of_ne (of_not_live h) kind
  · -- the generators may have removed the participant by the time of the second check
    obtain ⟨member, same, call⟩ := World.call_regenerate_of_eq (of_live h)
    have renewed : (w.generate member).2.environment.keyOf? id = _ := x.keyOf?_generate p member id
    refine ⟨member, same, fun still => ?_, fun lost => ?_⟩
    · rw [call]
      exact Environment.install_of_eq (renewed.trans still) _
    · rw [call, Environment.install_of_ne (renewed ▸ lost)]
      rfl
  · exact World.call_regenerate_of_ne (of_not_live h)

end Cadence
