import Cadence.Proofs.Departure
import Cadence.Proofs.Restraint

/-!
# Participants that cannot join

A participant is registered before its hook is called, and one whose hook fails is deregistered
again. Whatever the hook has done to its own registration by then, nothing of it is left: who is
registered, under which key and with which services, is what it was before, and the key that it was
given is of no use any more (`failed_join_leaves_no_trace`). That takes generators that keep to the
member they run for; one that registers the participant itself stands in the way of its registration
and stays behind (`join_behind_sneaking`).
-/

namespace Cadence

variable {M T : Type}

open World Simulation

/-! ## Registrations that succeed -/

namespace World

variable {w : World M} {id : ParticipantId} {key : Key}

/-- A participant that is registered neither before its services are generated nor after is entered
with them. -/
lemma call_register_of_absent {name : String} (absent : w.environment.keyOf? id = none)
    (still : (w.generate ⟨id, name⟩).2.environment.keyOf? id = none) :
    let g := w.generate ⟨id, name⟩
    w.call (.register id name) = (.ok ⟨id, g.2.environment.nextKey.1, g.1⟩,
      { g.2 with environment := g.2.environment.enter ⟨id, name⟩ g.1 }) := by
  rw [call_register, Environment.checkAbsent_of_eq absent]
  dsimp only
  rw [@Environment.enrol_of_eq _ ⟨id, name⟩ _ still]
  rfl

/-- Who is registered is refused another registration. -/
lemma call_register_of_some {name : String} (held : w.environment.keyOf? id = some key) :
    w.call (.register id name) = (.error (.alreadyRegistered id), w) := by
  rw [call_register, Environment.checkAbsent_of_some held]

/-- Whoever comes with the key in the name of the participant is turned away. -/
structure TurnsAway (w : World M) (id : ParticipantId) (key : Key) : Prop where
  act : ∀ action, (w.call (.act action id key)).1 = .error (.invalidAuthorization id)
  service : ∀ kind,
    (w.call (.participantService id key kind)).1 = .error (.invalidAuthorization id)
  leave : (w.call (.deregister id key)).1 = .error (.invalidAuthorization id)
  renew : (w.call (.regenerate id key)).1 = .error (.invalidAuthorization id)

/-- Who holds another key than the current one is turned away. -/
lemma turnsAway_of_ne (h : w.environment.keyOf? id ≠ some key) : w.TurnsAway id key where
  act action := by rw [call_act_of_ne h]
  service kind := by rw [call_participantService_of_ne h]
  leave := by rw [call_deregister_of_ne h]
  renew := by rw [call_regenerate_of_ne h]

/-- As long as generators keep to the member they run for, whoever is not registered can register,
and all others stay as they are. -/
lemma call_register_spares
    (guarded : ∀ g ∈ w.generators, g.KeepsTo Request.Spares)
    (absent : w.environment.keyOf? id = none) (name : String) :
    ∃ admission w', w.call (.register id name) = (.ok admission, w') ∧
      admission.participant = id ∧ w'.environment.keyOf? id = some admission.key ∧
      w'.environment.registrations.filter (fun r => r.id != id) =
        w.environment.registrations.filter fun r => r.id != id := by
  have spares : w.environment.Spares id (w.generate ⟨id, name⟩).2.environment :=
    (restraint_spares guarded id).generate fun g mem services => guarded g mem ⟨id, name⟩ services
  have still : (w.generate ⟨id, name⟩).2.environment.keyOf? id = none :=
    spares.key.elim (·.trans absent) (·)
  refine ⟨_, _, call_register_of_absent absent still, rfl, ?_, ?_⟩
  · exact (@Environment.keyOf?_enter _ ⟨id, name⟩ _ still id).trans (if_pos rfl)
  · refine Eq.trans ?_ spares.others
    simp [Environment.enter, List.filter_append]

end World

/-- A registration is over once the key that it was given is not current any more. -/
lemma ended_of_registered {w w₁ w₂ : World M} {id : ParticipantId} {name : String}
    {admission : Admission} (registered : w.call (.register id name) = (.ok admission, w₁))
    (since : Reaches w₁ w₂) (dead : w₂.environment.keyOf? id ≠ some admission.key) :
    Incarnation.Ended ⟨id, name, admission.key⟩ w₂.environment := by
  obtain ⟨n, -, before, drawn⟩ := call_register_ok registered
  have whole : Reaches w w₂ := (respected_reaches.of_call registered).trans since
  refine ⟨Incarnation.isLive_eq_false_iff.2 dead, n,
    Nat.lt_of_lt_of_le before since.later.drawn, ?_⟩
  rw [whole.later.supply]
  exact drawn

/-! ## Outcomes of a registration -/

namespace Simulation

variable {s : Simulation M T} {w w₁ w₂ : World M} {p : Participant M T} {admission : Admission}
  {ending : HookEnd}

/-- The hook of a participant that has been registered is called, whatever comes of it. -/
lemma addParticipant_calls (runnable : ¬s.status.isOver = true)
    (registered : w.call (.register p.id p.name) = (.ok admission, w₁))
    (initialised : w₁.perform (p.initialise (.ofAdmission admission)) = (ending, w₂)) :
    (s.addParticipant w p).calls =
      [⟨.participant p.id p.name, some admission.key, .initialise, none, ending⟩] := by
  cases guarded : ending.guarded with
  | ok u => rw [addParticipant_of_joined runnable registered initialised guarded]
  | error cause => rw [addParticipant_of_failed runnable registered initialised guarded]

/-- Whoever is not registered can be added, as far as its hook is concerned. -/
lemma addParticipant_admits (guarded : ∀ g ∈ w.generators, g.KeepsTo Request.Spares)
    (runnable : ¬s.status.isOver = true) (absent : w.environment.keyOf? p.id = none) :
    let out := s.addParticipant w p
    ∃ key ending, out.calls =
        [⟨.participant p.id p.name, some key, .initialise, none, ending⟩] ∧
      (ending.guarded = .ok () → out.result = .ok p.id ∧
        out.simulation = { s with participants := s.participants ++ [⟨p, key, false⟩] }) := by
  obtain ⟨admission, w₁, registered, -⟩ := call_register_spares guarded absent p.name
  rcases initialised : w₁.perform (p.initialise (.ofAdmission admission)) with ⟨ending, w₂⟩
  refine ⟨admission.key, ending, addParticipant_calls runnable registered initialised,
    fun fine => ?_⟩
  rw [addParticipant_of_joined runnable registered initialised fine]
  exact ⟨rfl, rfl⟩

end Simulation

/-! ## What a failure leaves -/

/-- Generators are those of the plan after every history. -/
lemma Plan.generators_after [Time T] (x : Plan M T) (history : List (DriverCall M T)) :
    (x.after history).world.generators = x.generators := by
  refine x.after_induction (P := fun g => g.world.generators = x.generators) rfl ?_ history
  intro g c same
  refine (DriverCall.keeps (P := fun w => w.generators = x.generators) g.simulation g.world
    (fun content same => ?_) (fun a w same => ?_) c same).2
  · exact (congrArg World.generators content).trans same
  · exact (World.reaches_apply a w).alike.generators.trans same

/-- Whoever leaves at last, having done nothing to others, is registered no more, and all others are
as they were. -/
lemma World.gone_of_spares {w w' : World M} {id : ParticipantId} {key : Key}
    (entered : w.environment.keyOf? id = some key)
    (spares : w.environment.Spares id w'.environment) :
    (w'.call (.deregister id key)).2.environment.keyOf? id = none ∧
      (w'.call (.deregister id key)).2.environment.registrations.filter (fun r => r.id != id) =
        w.environment.registrations.filter fun r => r.id != id := by
  have leaves := w'.environment.spares_deregister id key
  rw [World.call_deregister]
  refine ⟨?_, leaves.others.trans spares.others⟩
  -- the registration is as it was until now, or is over already
  dsimp only [World.inEnvironment]
  rcases spares.key with same | gone
  · rw [Environment.deregister_of_eq (same.trans entered), Environment.keyOf?_leave, if_pos rfl]
  · exact leaves.key.elim (·.trans gone) (·)

/-- A participant that is registered already is refused, and nothing is called or changed. One that
is not registered is registered and its hook is called, as long as generators register nobody and
touch nobody's registration but that of the member they run for. If then the hook, which keeps to
the same, fails, the failure is reported and names the participant, the simulation and all
registrations are as they were before, the key is refused from then on, and the participant can be
added again. -/
theorem failed_join_leaves_no_trace [Time T] (x : Plan M T) (history : List (DriverCall M T))
    (runnable : ¬(x.after history).simulation.status.isOver = true) (p : Participant M T) :
    let g := x.after history
    let out := g.simulation.addParticipant g.world p
    (g.environment.isRegistered p.id = true →
      out = { result := .error (.environment (.alreadyRegistered p.id))
              simulation := g.simulation
              world := g.world }) ∧
    (g.environment.isRegistered p.id = false →
      (∀ gen ∈ x.generators, gen.KeepsTo Request.Spares) →
      (∀ h : Handle, h.id = p.id → (p.initialise h).Uses (Request.Spares p.id)) →
      ∃ key ending, out.calls =
          [⟨.participant p.id p.name, some key, .initialise, none, ending⟩] ∧
        ∀ cause, ending.guarded = .error cause →
          out.result = .error (.initialise (.participant p.id p.name) cause) ∧
          out.simulation = g.simulation ∧
          out.world.environment.registrations = g.environment.registrations ∧
          out.world.environment.members = g.environment.members ∧
          out.world.TurnsAway p.id key ∧
          (Function.Injective x.supply.draw → ∀ later : List (DriverCall M T),
            (later.foldl Progress.next (g.next (.add p))).world.TurnsAway p.id key) ∧
          ∀ q : Participant M T, q.id = p.id →
            let again := out.simulation.addParticipant out.world q
            ∃ key' ending', again.calls =
                [⟨.participant q.id q.name, some key', .initialise, none, ending'⟩] ∧
              (ending'.guarded = .ok () → again.result = .ok q.id ∧
                again.simulation = { g.simulation with
                  participants := g.simulation.participants ++ [⟨q, key', false⟩] })) := by
  intro g out
  have agrees : g.environment.Agrees := x.agrees_after history
  have supply : g.environment.supply = x.supply := (Progress.foldl_later x.start history).supply
  rw [Environment.isRegistered_eq, Option.isSome_iff_exists, Option.isSome_eq_false_iff,
    Option.isNone_iff_eq_none]
  refine ⟨fun ⟨key, held⟩ => ?_, fun absent guarded hook => ?_⟩
  · exact addParticipant_of_refused runnable (call_register_of_some held)
  · have guarded_at {w : World M} (reached : Reaches g.world w) :
        ∀ gen ∈ w.generators, gen.KeepsTo Request.Spares := by
      rw [reached.alike.generators, x.generators_after history]
      exact guarded
    obtain ⟨admission, w₁, registered, self, entered, others⟩ :=
      call_register_spares (guarded_at .refl) absent p.name
    have reached : Reaches g.world w₁ := respected_reaches.of_call registered
    rcases initialised : w₁.perform (p.initialise (.ofAdmission admission)) with ⟨ending, w₂⟩
    refine ⟨admission.key, ending, addParticipant_calls runnable registered initialised,
      fun cause bad => ?_⟩
    have failed : out = _ := addParticipant_of_failed runnable registered initialised bad
    have spares := (restraint_spares (guarded_at reached) p.id).perform
      (hook (.ofAdmission admission) self)
    rw [initialised] at spares
    obtain ⟨gone, kept⟩ := gone_of_spares entered spares
    have ended : Reaches w₁ (w₂.call (.deregister p.id admission.key)).2 :=
      (respected_reaches.of_perform initialised).trans (perform_reaches _ (.request _))
    have next : (g.next (.add p)).world = (w₂.call (.deregister p.id admission.key)).2 :=
      congrArg Outcome.world failed
    rw [failed]
    generalize (w₂.call (.deregister p.id admission.key)).2 = w₃ at gone kept ended next ⊢
    have whole : Reaches g.world w₃ := reached.trans ended
    have restored : w₃.environment.registrations = g.environment.registrations :=
      Environment.registrations_eq_of_others (kept.trans others) absent gone
    have refused : w₃.environment.keyOf? p.id ≠ some admission.key := gone ▸ nofun
    refine ⟨rfl, rfl, restored, ?_, turnsAway_of_ne refused, fun distinct later => ?_,
      fun q same => ?_⟩
    · rw [(whole.agrees agrees).members, agrees.members, Environment.entries, restored]
      rfl
    · have past :
          Incarnation.Ended ⟨p.id, p.name, admission.key⟩ (g.next (.add p)).environment := by
        rw [Progress.environment, next]
        exact ended_of_registered registered ended refused
      have still := past.later ((g.next_later (.add p)).supply ▸ supply ▸ distinct)
        ((g.next (.add p)).foldl_later later)
      exact turnsAway_of_ne (Incarnation.isLive_eq_false_iff.1 still.dead)
    · exact addParticipant_admits (guarded_at whole) runnable (same ▸ gone)

section Fickle

/-- A simulation in which everybody is given a badge. -/
def badged : Plan Key IntegerTime :=
  { plain with
    generators := [fun _ services => .done (ServiceSet.add services (.note ⟨"badge"⟩ "welcome"))] }

/-- A participant that acts, has its services made anew, leaves, and then fails. -/
def fickle : Participant Key IntegerTime where
  id := ⟨2⟩
  name := "fickle"
  initialise h := .ask (.act ⟨⟨"greet"⟩, .null⟩ h.id h.key) fun _ =>
    .ask (.regenerate h.id h.key) fun _ => .ask (.deregister h.id h.key) fun _ =>
      .done (.failed (.failed "no"))
  step _ := .done .fine

/-- Who has joined before stays alone, and the key that was given in between is refused. -/
theorem failed_join_of_fickle :
    let history : List (DriverCall Key IntegerTime) := [.add settled]
    let g := badged.after history
    let out := g.simulation.addParticipant g.world fickle
    ¬g.simulation.status.isOver = true ∧ g.environment.isRegistered fickle.id = false ∧
      out.calls = [⟨.participant ⟨2⟩ "fickle", some ⟨2⟩, .initialise, none,
        .failed (.failed "no")⟩] ∧
      out.result = .error (.initialise (.participant ⟨2⟩ "fickle") (.failed "no")) ∧
      out.world.environment.members = g.environment.members ∧
      g.environment.members = [⟨⟨1⟩, "settled"⟩] ∧ out.world.TurnsAway ⟨2⟩ ⟨2⟩ := by
  intro history g out
  have guarded : ∀ gen ∈ badged.generators, gen.KeepsTo Request.Spares := by
    intro gen mem member services
    obtain rfl := List.mem_singleton.1 mem
    exact trivial
  have runnable : ¬g.simulation.status.isOver = true := by decide
  have absent : g.environment.isRegistered fickle.id = false := by decide
  have hook : ∀ h : Handle, h.id = fickle.id →
      (fickle.initialise h).Uses (Request.Spares fickle.id) :=
    fun h self => ⟨trivial, fun _ => ⟨self, fun _ => ⟨self, fun _ => trivial⟩⟩⟩
  have calls : out.calls = [⟨.participant ⟨2⟩ "fickle", some ⟨2⟩, .initialise, none,
      .failed (.failed "no")⟩] := by decide
  obtain ⟨key, ending, called, rest⟩ :=
    (failed_join_leaves_no_trace badged history runnable fickle).2 absent guarded hook
  obtain ⟨-, rfl, rfl⟩ := by simpa using called.symm.trans calls
  obtain ⟨result, -, -, members, refuses, -⟩ := rest _ rfl
  exact ⟨runnable, absent, calls, result, members, by decide, refuses⟩

end Fickle

section Sneaking

/-- A generator that registers the member it runs for, when it runs for the first time. -/
def sneaky : Generator Bool := fun member services =>
  .ask .remembered fun ran =>
    if ran then .done services
    else .ask (.keep fun _ => true) fun _ =>
      .ask (.register member.id "sneak") fun _ => .done services

/-- A simulation with such a generator, which keeps in its memory whether it has run. -/
def sneaking : Plan Bool IntegerTime where
  registry := {}
  services := {}
  supply := .counting
  generators := [sneaky]
  nesting := 1
  database := {}
  operator := {}
  memory := false
  clock := .new
  driver := {}
  schedule _ := []
  participantIds n := ⟨n⟩
  pluginIds n := ⟨n⟩

/-- A participant whose hook fails without asking for anything. -/
def barred : Participant Bool IntegerTime where
  id := ⟨7⟩
  name := "barred"
  initialise _ := .done (.failed (.failed "no"))
  step _ := .done .fine

/-- Nobody is registered, and a participant whose hook fails at once is added: its registration
fails behind that which the generator makes, its hook is not called, and it is registered
afterwards. -/
theorem join_behind_sneaking :
    let g := sneaking.after []
    let out := g.simulation.addParticipant g.world barred
    ¬g.simulation.status.isOver = true ∧ g.environment.isRegistered barred.id = false ∧
      (∀ h, (barred.initialise h).Uses fun _ => False) ∧
      (∀ h w, (World.perform w (barred.initialise h)).1.guarded = .error (.failed "no")) ∧
      out.result = .error (.environment (.alreadyRegistered barred.id)) ∧
      (∀ cause, out.result ≠ .error (.initialise (.participant barred.id barred.name) cause)) ∧
      out.calls = [] ∧ g.environment.members = [] ∧
      out.world.environment.members = [⟨barred.id, "sneak"⟩] := by
  intro g out
  have result : out.result = .error (.environment (.alreadyRegistered barred.id)) := by decide
  refine ⟨by decide, by decide, fun _ => trivial, fun _ _ => rfl, result, fun cause other => ?_,
    by decide, by decide, by decide⟩
  rw [result] at other
  cases other

end Sneaking

end Cadence
