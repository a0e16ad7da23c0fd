import Cadence.Proofs.Membership
import Mathlib.Logic.Function.Basic

/-!
# Other keys

A `Rekeying` puts in place of every key that one supply draws the key that another supply draws at
the same place. A world under other keys looks the same to whoever presents the other keys: a key is
current in the one if and only if its counterpart is in the other, and as no supply draws a key
twice, registrations are issued keys that correspond. So an access is answered as before, but for
the key that it issues (`Rekeying.apply_access`).
-/

namespace Cadence

variable {M α : Type}

open World

/-- The keys of one supply in place of those of another, draw for draw; neither supply draws a key
twice. -/
structure Rekeying where
  source : KeySupply
  target : KeySupply
  rename : Key → Key
  rename_draw : ∀ n, rename (source.draw n) = target.draw n
  distinct : Function.Injective source.draw
  distinct' : Function.Injective target.draw

/-- A supply that draws no key twice yields the next key at once. -/
lemma Environment.nextKey_eq {e : Environment} (distinct : Function.Injective e.supply.draw)
    (drawn : ∀ r ∈ e.registrations, ∃ n < e.drawn, r.key = e.supply.draw n) :
    e.nextKey = (e.supply.draw e.drawn, e.drawn + 1) := by
  have free : e.supply.draw e.drawn ∉ e.registrations.map Registration.key := by
    intro mem
    obtain ⟨r, inside, key⟩ := List.mem_map.1 mem
    obtain ⟨n, less, eq⟩ := drawn r inside
    exact Nat.ne_of_lt less (distinct (eq.symm.trans key))
  rw [nextKey, KeySupply.next]
  cases e.supply.patience (e.registrations.map Registration.key) e.drawn with
  | zero => rfl
  | succ bound => rw [KeySupply.firstFree, if_neg free]

namespace Rekeying

/-- Supplies that draw no key twice can be put in place of each other. -/
theorem exists_between {s s' : KeySupply} (distinct : Function.Injective s.draw)
    (distinct' : Function.Injective s'.draw) : ∃ c : Rekeying, c.source = s ∧ c.target = s' :=
  ⟨⟨s, s', Function.extend s.draw s'.draw id, distinct.extend_apply _ _, distinct, distinct'⟩,
    rfl, rfl⟩

variable (c : Rekeying)

/-- A key that the first supply draws sooner or later. -/
def Known (k : Key) : Prop := ∃ n, k = c.source.draw n

variable {c} in
/-- Keys that are drawn sooner or later stay apart under their new names. -/
lemma rename_inj {k k' : Key} (known : c.Known k) (known' : c.Known k') :
    c.rename k = c.rename k' ↔ k = k' := by
  obtain ⟨n, rfl⟩ := known
  obtain ⟨m, rfl⟩ := known'
  rw [c.rename_draw, c.rename_draw, c.distinct'.eq_iff, c.distinct.eq_iff]

/-! ## Environments under other keys -/

/-- A registration under the other key. -/
def registration (r : Registration) : Registration := { r with key := c.rename r.key }

/-- An environment under the other keys, with the other supply. -/
def environment (e : Environment) : Environment :=
  { e with registrations := e.registrations.map c.registration, supply := c.target }

/-- A world under the other keys. -/
def world (w : World M) : World M := { w with environment := c.environment w.environment }

/-- An answer to a registration, with the other key. -/
def admission (a : Admission) : Admission := { a with key := c.rename a.key }

/-- A handle with the other key. -/
def handle (h : Handle) : Handle := { h with key := c.rename h.key }

/-- An environment whose keys are all from the first supply. -/
structure Fits (e : Environment) : Prop where
  agrees : e.Agrees
  supply : e.supply = c.source

section Environments

variable {c} {e : Environment} {id : ParticipantId} {key : Key} {member : Member}
  {services : ServiceSet}

/-- The keys of registrations are from the first supply. -/
lemma Fits.drawn (h : c.Fits e) {r : Registration} (mem : r ∈ e.registrations) :
    ∃ n < e.drawn, r.key = c.source.draw n := by
  have order := h.agrees.order
  rw [h.supply, Environment.entries, List.map_map] at order
  exact order.drawn r.key (List.mem_map_of_mem (f := Entry.key ∘ Registration.entry) mem)

/-- Under the other keys the same participants are registered. -/
lemma registration?_environment (e : Environment) (id : ParticipantId) :
    (c.environment e).registration? id = (e.registration? id).map c.registration :=
  List.find?_map

/-- Whoever presents a key is who presents its counterpart. -/
lemma Fits.holder? (h : c.Fits e) (known : c.Known key) (id : ParticipantId) :
    (c.environment e).holder? id (c.rename key) = (e.holder? id key).map c.registration := by
  rw [Environment.holder?, registration?_environment, Environment.holder?]
  cases found : e.registration? id with
  | none => rfl
  | some r =>
    obtain ⟨n, -, drawn⟩ := h.drawn (List.mem_of_find?_eq_some found)
    have same : ((c.registration r).key == c.rename key) = (r.key == key) := by
      rw [Bool.eq_iff_iff, beq_iff_eq, beq_iff_eq]
      exact rename_inj ⟨n, drawn⟩ known
    rw [Option.map_some, Option.filter_some, Option.filter_some, same]
    cases r.key == key <;> rfl

/-- A key is current exactly if its new name is. -/
lemma Fits.isCurrent (h : c.Fits e) (known : c.Known key) (id : ParticipantId) :
    (c.environment e).isCurrent id (c.rename key) = e.isCurrent id key := by
  rw [Environment.isCurrent, h.holder? known, Option.isSome_map]
  rfl

/-- It passes the check exactly if that does. -/
lemma Fits.authorize (h : c.Fits e) (known : c.Known key) (id : ParticipantId) :
    (c.environment e).authorize id (c.rename key) = e.authorize id key := by
  rw [Environment.authorize, h.isCurrent known]
  rfl

/-- Who is registered does not depend on the keys. -/
lemma isRegistered_environment (e : Environment) (id : ParticipantId) :
    (c.environment e).isRegistered id = e.isRegistered id := by
  rw [Environment.isRegistered, registration?_environment, Option.isSome_map]
  rfl

/-- Neither does who is found absent. -/
lemma checkAbsent_environment (e : Environment) (id : ParticipantId) :
    (c.environment e).checkAbsent id = e.checkAbsent id := by
  rw [Environment.checkAbsent, isRegistered_environment]
  rfl

/-- The next keys are the next draws of either supply. -/
lemma Fits.nextKey (h : c.Fits e) :
    e.nextKey = (c.source.draw e.drawn, e.drawn + 1) ∧
      (c.environment e).nextKey = (c.target.draw e.drawn, e.drawn + 1) := by
  constructor
  · rw [← h.supply]
    refine Environment.nextKey_eq ?_ fun r mem => ?_
    · rw [h.supply]
      exact c.distinct
    · rw [h.supply]
      exact h.drawn mem
  · refine Environment.nextKey_eq (e := c.environment e) c.distinct' fun r mem => ?_
    obtain ⟨r, inside, rfl⟩ := List.mem_map.1 mem
    obtain ⟨n, less, drawn⟩ := h.drawn inside
    exact ⟨n, less, (congrArg c.rename drawn).trans (c.rename_draw n)⟩

/-- To enter a member comes to the same under the other keys. -/
lemma Fits.enter (h : c.Fits e) (member : Member) (services : ServiceSet) :
    (c.environment e).enter member services = c.environment (e.enter member services) := by
  obtain ⟨next, next'⟩ := h.nextKey
  have renamed := c.rename_draw e.drawn
  rw [Environment.enter, next', Environment.enter, next]
  simp only [environment, registration, List.map_append, List.map_cons, List.map_nil, renamed]

/-- A participant that enters is issued the key that corresponds. -/
lemma Fits.enrol (h : c.Fits e) (member : Member) (services : ServiceSet) :
    (c.environment e).enrol member services =
      ((e.enrol member services).1.map c.admission,
        c.environment (e.enrol member services).2) := by
  rw [Environment.enrol, checkAbsent_environment, Environment.enrol]
  cases e.checkAbsent member.id with
  | error err => rfl
  | ok u =>
    obtain ⟨next, next'⟩ := h.nextKey
    dsimp only
    rw [next', next, h.enter, ← c.rename_draw]
    rfl

/-- So does leaving. -/
lemma leave_environment (e : Environment) (id : ParticipantId) :
    (c.environment e).leave id = c.environment (e.leave id) := by
  simp only [Environment.leave, environment, List.filter_map]
  rfl

/-- So does deregistering, with a key or its new name. -/
lemma Fits.deregister (h : c.Fits e) (known : c.Known key) (id : ParticipantId) :
    (c.environment e).deregister id (c.rename key) =
      ((e.deregister id key).1, c.environment (e.deregister id key).2) := by
  rw [Environment.deregister, h.authorize known, Environment.deregister]
  cases e.authorize id key with
  | error err => rfl
  | ok u => exact congrArg _ (leave_environment e id)

/-- So does asking for the name of whoever has the key. -/
lemma Fits.tenant (h : c.Fits e) (known : c.Known key) (id : ParticipantId) :
    (c.environment e).tenant id (c.rename key) = e.tenant id key := by
  rw [Environment.tenant, h.holder? known, Environment.tenant]
  cases e.holder? id key <;> rfl

/-- So does a look-up among somebody's own services. -/
lemma Fits.ownService (h : c.Fits e) (known : c.Known key) (id : ParticipantId)
    (kind : ServiceKind) :
    (c.environment e).ownService id (c.rename key) kind = e.ownService id key kind := by
  rw [Environment.ownService, h.holder? known, Environment.ownService]
  cases e.holder? id key <;> rfl

/-- So does installing services. -/
lemma Fits.install (h : c.Fits e) (known : c.Known key) (id : ParticipantId)
    (services : ServiceSet) :
    (c.environment e).install id (c.rename key) services =
      ((e.install id key services).1, c.environment (e.install id key services).2) := by
  rw [Environment.install, h.authorize known, Environment.install]
  cases e.authorize id key with
  | error err => rfl
  | ok u =>
    simp only [environment, List.map_map]
    congr 2
    refine List.map_congr_left fun r _ => ?_
    by_cases same : r.id = id <;> simp [registration, same]

/-- So does routing an action. -/
lemma Fits.route (h : c.Fits e) (known : c.Known key) (action : Action) (id : ParticipantId) :
    (c.environment e).route action id (c.rename key) = e.route action id key := by
  rw [Environment.route, h.authorize known, Environment.route]
  rfl

/-- So does settling one. -/
lemma settle_environment (e : Environment) (action : Action) (id : ParticipantId)
    (handler : String) (ending : HandlerEnd) :
    (c.environment e).settle action id handler ending =
      ((e.settle action id handler ending).1,
        c.environment (e.settle action id handler ending).2) := by
  rw [Environment.settle, Environment.settle]
  rcases ending.result with reason | _ | _ <;> rfl

end Environments

end Rekeying

/-! ## Accesses under other keys -/

/-- The key that an access presents. -/
def Access.key? : Access M → Option Key
  | route _ _ key => some key
  | deregister _ key => some key
  | tenant _ key => some key
  | install _ key _ => some key
  | ownService _ key _ => some key
  | isCurrent _ key => some key
  | _ => none

/-- The key that an access issues by its reply. -/
def Access.issued? : (a : Access M) → a.Reply → Option Key
  | enrol _ _, .ok admission => some admission.key
  | _, _ => none

namespace Rekeying

variable (c : Rekeying)

/-- An access that presents the other key. -/
def access : Access M → Access M
  | .route action actor key => .route action actor (c.rename key)
  | .deregister id key => .deregister id (c.rename key)
  | .tenant id key => .tenant id (c.rename key)
  | .install id key services => .install id (c.rename key) services
  | .ownService id key kind => .ownService id (c.rename key) kind
  | .isCurrent id key => .isCurrent id (c.rename key)
  | a => a

/-- The reply to an access with the other key in it. -/
def answer : (a : Access M) → a.Reply → (c.access a).Reply
  | .enrol _ _, r => r.map c.admission
  | .remembered, r => r
  | .keep _, r => r
  | .report _, r => r
  | .route _ _ _, r => r
  | .refuse, r => r
  | .settle _ _ _ _, r => r
  | .readState _, r => r
  | .write _ _ _, r => r
  | .writeBatch _ _, r => r
  | .update _ _ _, r => r
  | .snapshot, r => r
  | .checkAbsent _, r => r
  | .deregister _ _, r => r
  | .tenant _ _, r => r
  | .memberLine _, r => r
  | .install _ _ _, r => r
  | .ownService _ _ _, r => r
  | .globalService _, r => r
  | .addService _, r => r
  | .removeService _, r => r
  | .isRegistered _, r => r
  | .isCurrent _ _, r => r
  | .members, r => r
  | .tableNames, r => r
  | .database _, r => r
  | .control _, r => r

variable {c}

/-- An access with the other key is answered as the access itself, but for a key issued, and leaves
the world that it leaves, under the other keys. -/
theorem apply_access {w : World M} (h : c.Fits w.environment) {a : Access M}
    (known : ∀ k ∈ a.key?, c.Known k) :
    (c.access a).apply (c.world w) = (c.answer a (a.apply w).1, c.world (a.apply w).2) := by
  cases a with
  | route action actor key => exact Prod.ext (h.route (known key rfl) action actor) rfl
  | settle action actor handler ending =>
    exact congrArg (inEnvironment (c.world w))
      (settle_environment w.environment action actor handler ending)
  | checkAbsent id => exact Prod.ext (checkAbsent_environment w.environment id) rfl
  | enrol member services =>
    exact congrArg (inEnvironment (c.world w)) (h.enrol member services)
  | deregister id key =>
    exact congrArg (inEnvironment (c.world w)) (h.deregister (known key rfl) id)
  | tenant id key => exact Prod.ext (h.tenant (known key rfl) id) rfl
  | install id key services =>
    exact congrArg (inEnvironment (c.world w)) (h.install (known key rfl) id services)
  | ownService id key kind => exact Prod.ext (h.ownService (known key rfl) id kind) rfl
  | isRegistered id => exact Prod.ext (isRegistered_environment w.environment id) rfl
  | isCurrent id key => exact Prod.ext (h.isCurrent (known key rfl) id) rfl
  | _ => rfl

/-- An access leaves an environment whose keys are from the first supply. -/
lemma Fits.after {w : World M} (h : c.Fits w.environment) (a : Access M) :
    c.Fits (a.apply w).2.environment :=
  ⟨a.agrees_apply w h.agrees, (a.later_apply w).supply.trans h.supply⟩

/-- A key that is issued comes from the supply. -/
lemma Fits.issued {w : World M} (h : c.Fits w.environment) (a : Access M) :
    ∀ k ∈ a.issued? (a.apply w).1, c.Known k := by
  cases a with
  | enrol member services =>
    simp only [Access.apply, inEnvironment, Environment.enrol]
    cases w.environment.checkAbsent member.id with
    | error err => rintro k ⟨⟩
    | ok u =>
      rintro k same
      cases same
      exact ⟨w.environment.drawn, congrArg Prod.fst h.nextKey.1⟩
  | _ => rintro k ⟨⟩

end Rekeying
end Cadence
