import Cadence.Proofs.Log

/-!
# Live registrations

What an environment knows of a participant is the key of its live registration,
`Environment.keyOf?`: every check of a key reads it, and it says what every access does to the
registrations (`Access.keyOf?_apply`). Keys are drawn from the supply at growing places, so when no
key is drawn twice, one that is not current any more stays so, whatever happens
(`World.Reaches.later`).
-/

namespace Cadence

variable {M α : Type}

namespace Environment

variable (e : Environment) (id : ParticipantId) (key : Key)

/-- The key of the live registration of a participant. -/
def keyOf? : Option Key := (e.registration? id).map Registration.key

/-! ## Checks -/

variable {e id key}

/-- Who is registered has a key. -/
lemma isRegistered_eq : e.isRegistered id = (e.keyOf? id).isSome := by
  rw [isRegistered, keyOf?, Option.isSome_map]

/-- The holder of a key is the registration of the participant, if that has the key. -/
lemma holder?_eq_some_iff {r : Registration} :
    e.holder? id key = some r ↔ e.registration? id = some r ∧ r.key = key := by
  rw [holder?, Option.filter_eq_some_iff, beq_iff_eq]

/-- A key has a holder exactly if it is that of the participant. -/
lemma exists_holder?_iff : (∃ r, e.holder? id key = some r) ↔ e.keyOf? id = some key := by
  simp only [holder?_eq_some_iff, keyOf?, Option.map_eq_some_iff]

/-- A key that is not that of the participant has no holder. -/
lemma holder?_eq_none (h : e.keyOf? id ≠ some key) : e.holder? id key = none := by
  rw [Ne, ← exists_holder?_iff] at h
  cases hr : e.holder? id key with
  | none => rfl
  | some r => exact absurd ⟨r, hr⟩ h

/-- A key is current exactly if it is that of the live registration. -/
theorem isCurrent_iff : e.isCurrent id key = true ↔ e.keyOf? id = some key := by
  rw [isCurrent, Option.isSome_iff_exists, exists_holder?_iff]

/-- The key of a participant passes the check. -/
lemma authorize_of_eq (h : e.keyOf? id = some key) : e.authorize id key = .ok () := by
  rw [authorize, if_pos (isCurrent_iff.2 h)]

/-- Any other key is refused. -/
lemma authorize_of_ne (h : e.keyOf? id ≠ some key) :
    e.authorize id key = .error (.invalidAuthorization id) := by
  rw [authorize, if_neg fun hc => h (isCurrent_iff.1 hc)]

/-- Who is not registered is found absent. -/
lemma checkAbsent_of_eq (h : e.keyOf? id = none) : e.checkAbsent id = .ok () := by
  rw [checkAbsent, isRegistered_eq, h]
  rfl

/-- Who is registered is refused as such. -/
lemma checkAbsent_of_some (h : e.keyOf? id = some key) :
    e.checkAbsent id = .error (.alreadyRegistered id) := by
  rw [checkAbsent, isRegistered_eq, h]
  rfl

/-- The line of a participant is under its name, and so is the one that is made up for want of it.
-/
lemma id_getD_member? (id : ParticipantId) (name : String) :
    ((e.member? id).getD ⟨id, name⟩).id = id := by
  rw [member?]
  cases found : e.members.find? fun m => m.id == id with
  | none => rfl
  | some m =>
    have same : (m.id == id) = true := List.find?_some (p := fun m : Member => m.id == id) found
    exact beq_iff_eq.1 same

/-! ## Changes -/

section Changes

variable {member : Member} {services : ServiceSet}

/-- A member that is not registered is entered under a new key. -/
lemma enrol_of_eq (h : e.keyOf? member.id = none) :
    e.enrol member services =
      (.ok ⟨member.id, e.nextKey.1, services⟩, e.enter member services) := by
  rw [enrol, checkAbsent_of_eq h]

/-- A member that is registered is refused, and nothing changes. -/
lemma enrol_of_some (h : e.keyOf? member.id = some key) :
    e.enrol member services = (.error (.alreadyRegistered member.id), e) := by
  rw [enrol, checkAbsent_of_some h]

/-- Whoever shows the key of a participant removes it. -/
lemma deregister_of_eq (h : e.keyOf? id = some key) :
    e.deregister id key = (.ok (), e.leave id) := by
  rw [deregister, authorize_of_eq h]

/-- With any other key nothing happens. -/
lemma deregister_of_ne (h : e.keyOf? id ≠ some key) :
    e.deregister id key = (.error (.invalidAuthorization id), e) := by
  rw [deregister, authorize_of_ne h]

/-- After a member has been entered, it is found with its services under the new key, and all others
as before. -/
lemma registration?_enter (h : e.keyOf? member.id = none) (i : ParticipantId) :
    (e.enter member services).registration? i =
      if i = member.id then some ⟨member.id, member.name, e.nextKey.1, services⟩
      else e.registration? i := by
  rw [registration?, enter, List.find?_append, List.find?_singleton]
  by_cases hi : i = member.id
  · subst hi
    have absent : e.registration? member.id = none := Option.map_eq_none_iff.1 h
    rw [registration?] at absent
    simp [absent]
  · rw [if_neg (by simpa using Ne.symm hi), if_neg hi, Option.or_none]
    rfl

/-- After a participant has left, it is not found, and all others are as before. -/
lemma registration?_leave (i : ParticipantId) :
    (e.leave id).registration? i = if i = id then none else e.registration? i := by
  rw [registration?, leave, List.find?_filter]
  split
  · next hi =>
    subst hi
    rw [List.find?_eq_none]
    intro r _
    cases hr : r.id == i <;> simp_all
  · next hi =>
    rw [registration?]
    congr 1
    funext r
    cases hr : r.id == i with
    | false => simp
    | true => simpa [beq_iff_eq.1 hr] using hi

/-- With the key of a participant, services are installed in its registration and in no other. -/
lemma registration?_install (h : e.keyOf? id = some key) (i : ParticipantId) :
    (e.install id key services).2.registration? i =
      (e.registration? i).map fun r => if i = id then { r with services := services } else r := by
  have same : ((fun r : Registration => r.id == i) ∘ fun r =>
      if r.id = id then { r with services := services } else r) = fun r => r.id == i := by
    funext r
    simp only [Function.comp]
    split <;> rfl
  rw [install, authorize_of_eq h]
  dsimp only
  rw [registration?, List.find?_map, same, registration?]
  refine Option.map_congr fun r found => ?_
  have named : (r.id == i) = true :=
    List.find?_some (p := fun r : Registration => r.id == i) found
  rw [beq_iff_eq.1 named]

/-- Entering a member gives it the next key, and all others keep theirs. -/
lemma keyOf?_enter (h : e.keyOf? member.id = none) (i : ParticipantId) :
    (e.enter member services).keyOf? i =
      if i = member.id then some e.nextKey.1 else e.keyOf? i := by
  rw [keyOf?, registration?_enter h]
  split <;> rfl

/-- Leaving takes the key of the participant, and all others keep theirs. -/
lemma keyOf?_leave (i : ParticipantId) :
    (e.leave id).keyOf? i = if i = id then none else e.keyOf? i := by
  rw [keyOf?, registration?_leave]
  split <;> rfl

/-- Installing services changes no key. -/
lemma keyOf?_install (i : ParticipantId) :
    (e.install id key services).2.keyOf? i = e.keyOf? i := by
  by_cases h : e.keyOf? id = some key
  · rw [keyOf?, registration?_install h, Option.map_map, keyOf?]
    refine Option.map_congr fun r _ => ?_
    simp only [Function.comp]
    split <;> rfl
  · rw [install, authorize_of_ne h]

end Changes

/-- Settling an action changes no key. -/
lemma keyOf?_settle (action : Action) (actor : ParticipantId) (handler : String)
    (ending : HandlerEnd) : (e.settle action actor handler ending).2.keyOf? = e.keyOf? := by
  cases h : ending.result with
  | error reason =>
    rw [settle, h]
    rfl
  | ok outcome =>
    cases outcome <;>
    · rw [settle, h]
      rfl

end Environment

/-! ## What accesses do to keys -/

/-- The key of a participant after an access that was made, given the one before: a successful
registration issues a key, and a successful removal takes it back. -/
def Performed.keyAfter (id : ParticipantId) (key : Option Key) : Performed M → Option Key
  | ⟨.enrol member _, .ok admission⟩ => if id = member.id then some admission.key else key
  | ⟨.deregister i _, .ok ()⟩ => if id = i then none else key
  | _ => key

/-- An access changes the key of a participant as its reply tells. -/
theorem Access.keyOf?_apply (a : Access M) (w : World M) (id : ParticipantId) :
    (a.apply w).2.environment.keyOf? id =
      Performed.keyAfter id (w.environment.keyOf? id) ⟨a, (a.apply w).1⟩ := by
  cases a with
  | settle action actor handler ending =>
    exact congrFun (Environment.keyOf?_settle action actor handler ending) id
  | enrol member services =>
    simp only [apply, World.inEnvironment]
    cases h : w.environment.keyOf? member.id with
    | none =>
      rw [Environment.enrol_of_eq h]
      exact Environment.keyOf?_enter h id
    | some key =>
      rw [Environment.enrol_of_some h]
      rfl
  | deregister i key =>
    simp only [apply, World.inEnvironment]
    by_cases h : w.environment.keyOf? i = some key
    · rw [Environment.deregister_of_eq h]
      exact Environment.keyOf?_leave id
    · rw [Environment.deregister_of_ne h]
      rfl
  | install i key services => exact Environment.keyOf?_install id
  | _ => rfl

/-! ## Keys that are not current any more -/

namespace Environment

/-- What every change of an environment respects: keys are drawn at growing places, and when no key
is drawn twice, one drawn before is current only if it has been all the time. -/
structure Later (e e' : Environment) : Prop where
  supply : e'.supply = e.supply
  drawn : e.drawn ≤ e'.drawn
  retired : Function.Injective e.supply.draw → ∀ id n, n < e.drawn →
    e'.keyOf? id = some (e.supply.draw n) → e.keyOf? id = some (e.supply.draw n)

/-- An environment in which no key has changed and none was drawn counts as later. -/
lemma Later.of_eq {e e' : Environment} (supply : e'.supply = e.supply) (drawn : e'.drawn = e.drawn)
    (keys : e'.keyOf? = e.keyOf?) : e.Later e' :=
  ⟨supply, Nat.le_of_eq drawn.symm, fun _ _ _ _ h => keys ▸ h⟩

/-- Every environment follows itself. -/
lemma Later.refl (e : Environment) : e.Later e := .of_eq rfl rfl rfl

/-- To be later is transitive. -/
lemma Later.trans {a b c : Environment} (ab : a.Later b) (bc : b.Later c) : a.Later c := by
  refine ⟨bc.supply.trans ab.supply, Nat.le_trans ab.drawn bc.drawn, ?_⟩
  intro distinct id n hn hc
  rw [← ab.supply] at hc
  have hb := bc.retired (ab.supply ▸ distinct) id n (Nat.lt_of_lt_of_le hn ab.drawn) hc
  rw [ab.supply] at hb
  exact ab.retired distinct id n hn hb

/-- A registration is under a key drawn later than all before. -/
lemma exists_nextKey_eq (e : Environment) :
    ∃ n, e.drawn ≤ n ∧ e.nextKey = (e.supply.draw n, n + 1) :=
  e.supply.exists_next_eq _ _

/-- An environment that a member has entered is later than before. -/
lemma later_enter {e : Environment} {member : Member} {services : ServiceSet}
    (h : e.keyOf? member.id = none) : e.Later (e.enter member services) := by
  obtain ⟨place, le, eq⟩ := e.exists_nextKey_eq
  refine ⟨rfl, ?_, ?_⟩
  · rw [enter, eq]
    exact Nat.le_succ_of_le le
  · intro distinct id n hn hkey
    rw [keyOf?_enter h, eq] at hkey
    split at hkey
    · -- the new key comes from a later place than any drawn before
      have same : place = n := distinct (Option.some.inj hkey)
      omega
    · exact hkey

/-- So is one that a participant has left. -/
lemma later_leave (e : Environment) (id : ParticipantId) : e.Later (e.leave id) := by
  refine ⟨rfl, Nat.le_refl _, ?_⟩
  intro _ i n _ hkey
  rw [keyOf?_leave] at hkey
  split at hkey
  · cases hkey
  · exact hkey

end Environment

/-- The environment after an access is later than the one before. -/
lemma Access.later_apply (a : Access M) (w : World M) :
    w.environment.Later (a.apply w).2.environment := by
  cases a with
  | settle action actor handler ending =>
    refine .of_eq ?_ ?_ (Environment.keyOf?_settle action actor handler ending)
    all_goals
      simp only [apply, World.inEnvironment, Environment.settle]
      rcases ending.result with reason | _ | _ <;> rfl
  | enrol member services =>
    simp only [apply, World.inEnvironment]
    cases h : w.environment.keyOf? member.id with
    | none =>
      rw [Environment.enrol_of_eq h]
      exact Environment.later_enter h
    | some key =>
      rw [Environment.enrol_of_some h]
      exact .refl _
  | deregister id key =>
    simp only [apply, World.inEnvironment]
    by_cases h : w.environment.keyOf? id = some key
    · rw [Environment.deregister_of_eq h]
      exact Environment.later_leave _ id
    · rw [Environment.deregister_of_ne h]
      exact .refl _
  | install id key services =>
    refine .of_eq ?_ ?_ (funext fun i => Environment.keyOf?_install i)
    all_goals
      simp only [apply, World.inEnvironment, Environment.install]
      cases w.environment.authorize id key <;> rfl
  | _ => exact .of_eq rfl rfl rfl

/-- So is every one that accesses reach. -/
theorem World.Reaches.later {w w' : World M} (h : Reaches w w') :
    w.environment.Later w'.environment :=
  h.lift (R := fun w w' => w.environment.Later w'.environment) (fun w => .refl w.environment)
    .trans Access.later_apply

/-- A registration that succeeds is under a key drawn since. -/
theorem World.call_register_ok {w w' : World M} {id : ParticipantId} {name : String}
    {admission : Admission} (h : w.call (.register id name) = (.ok admission, w')) :
    ∃ n, w.environment.drawn ≤ n ∧ n < w'.environment.drawn ∧
      admission.key = w.environment.supply.draw n := by
  rw [call_register] at h
  cases absent : w.environment.checkAbsent id with
  | error e =>
    rw [absent] at h
    cases h
  | ok u =>
    rw [absent] at h
    dsimp only at h
    have later := (w.generate_reaches ⟨id, name⟩).later
    generalize w.generate ⟨id, name⟩ = g at h later
    obtain ⟨place, le, eq⟩ := g.2.environment.exists_nextKey_eq
    cases registered : g.2.environment.keyOf? id with
    | some key =>
      rw [Environment.enrol_of_some registered] at h
      cases h
    | none =>
      rw [Environment.enrol_of_eq registered, eq] at h
      obtain ⟨admitted, rfl⟩ := Prod.mk.inj h
      obtain rfl := Except.ok.inj admitted
      refine ⟨place, Nat.le_trans later.drawn le, ?_, congrArg (fun s => s.draw place) later.supply⟩
      rw [Environment.enter, eq]
      exact Nat.lt_succ_self place

/-- Without generators a participant that is not registered is entered without services. -/
lemma World.call_register_unguided {w : World M} (unguided : w.generators = [])
    {id : ParticipantId} (absent : w.environment.keyOf? id = none) (name : String) :
    w.call (.register id name) =
      (.ok ⟨id, w.environment.nextKey.1, {}⟩,
        { w with environment := w.environment.enter ⟨id, name⟩ {} }) := by
  have generated : w.generate ⟨id, name⟩ = ({}, w) := by
    rw [generate, unguided]
    rfl
  rw [call_register, Environment.checkAbsent_of_eq absent, generated]
  dsimp only
  rw [Environment.enrol_of_eq absent]
  rfl

end Cadence
