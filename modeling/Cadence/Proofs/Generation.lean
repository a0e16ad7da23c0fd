import Cadence.Proofs.Deeds
import Cadence.Proofs.Registration

/-!
# What is given was generated

A participant is given services when it is entered and when services are installed for it, and
nowhere else. Whatever a program does, and whatever generators do that run for it, such an access
comes right after a run of all generators for that participant, one after another, of which the
first has found no services (`World.sound_of_mem`).
-/

namespace Cadence

variable {M α β : Type}

/-! ## Generators one after another -/

/-- Generators have run for a member one after another, from a world on and from no services at
first. Each has run on the services that the one before it left, in the world that it left; the last
two arguments are what the last one has left. -/
inductive Leaves (serve : (q : Request M) → Thread M q.Reply) (member : Member) (start : World M) :
    List (Generator M) → ServiceSet → World M → Prop where
  | nothing : Leaves serve member start [] {} start
  | next {earlier : List (Generator M)} {g : Generator M} {found left : ServiceSet}
      {w w' : World M} (before : Leaves serve member start earlier found w)
      (run : (Thread.ofProgram serve (g member found)).run w = (left, w')) :
      Leaves serve member start (earlier ++ [g]) left w'

/-- Generators that are run after others go on with what those have left. -/
lemma Leaves.generation {serve : (q : Request M) → Thread M q.Reply} {member : Member}
    {start w : World M} {earlier : List (Generator M)} {found : ServiceSet}
    (before : Leaves serve member start earlier found w) (rest : List (Generator M)) :
    Leaves serve member start (earlier ++ rest)
      ((Thread.generation serve member rest found).run w).1
      ((Thread.generation serve member rest found).run w).2 := by
  induction rest generalizing earlier found w with
  | nil => rwa [List.append_nil]
  | cons g rest ih =>
    rw [Thread.generation, Thread.run_bind, List.append_cons]
    exact ih (before.next rfl)

/-- What the generators leave that are run for a member in a world. -/
lemma World.leaves_generate (w : World M) (member : Member) :
    Leaves (.ofRequest w.generators w.nesting) member w w.generators (w.generate member).1
      (w.generate member).2 :=
  Leaves.nothing.generation w.generators

/-- The services that a participant is given with an access that was made. -/
def Performed.given? (id : ParticipantId) : Performed M → Option ServiceSet
  | ⟨.enrol member services, .ok _⟩ => if id = member.id then some services else none
  | ⟨.install i _ services, .ok _⟩ => if id = i then some services else none
  | _ => none

/-- Right before the deed all generators have run for the participant, one after another and from no
services at first, and what they have left are the services. Registrations could then be nested in
others to at most the given number of levels. -/
def Deed.Generated (generators : List (Generator M)) (nesting : Nat) (id : ParticipantId)
    (services : ServiceSet) (before : List (Deed M)) (d : Deed M) : Prop :=
  ∃ member : Member, member.id = id ∧ ∃ levels ≤ nesting, ∃ earlier made start,
    before = earlier ++ made ∧ World.Along start made d.world ∧
      Leaves (.ofRequest generators levels) member start generators services d.world

/-- What a deed gives was generated right before it. -/
def Deed.Sound (generators : List (Generator M)) (nesting : Nat) (before : List (Deed M))
    (d : Deed M) : Prop :=
  ∀ id services, d.performed.given? id = some services →
    d.Generated generators nesting id services before

/-! ## What a thread does -/

namespace Thread

variable {P Q : List (Deed M) → Deed M → Prop} {earlier : List (Deed M)} {w : World M}

/-- Whatever the thread does from a world on has the property, which may be about what has been done
before it: by the thread, and earlier. -/
def Does (P : List (Deed M) → Deed M → Prop) (t : Thread M α) (earlier : List (Deed M))
    (w : World M) : Prop :=
  ∀ before d after, t.deeds w = before ++ d :: after → P (earlier ++ before) d

/-- What holds along a thread of each deed by itself holds of its deeds. -/
lemma Does.of_mem {P : Deed M → Prop} {t : Thread M α} (h : t.Does (fun _ => P) earlier w)
    {d : Deed M} (mem : d ∈ t.deeds w) : P d := by
  obtain ⟨before, after, split⟩ := List.append_of_mem mem
  exact h before d after split

/-- What holds along a thread may be weakened. -/
lemma Does.imp {t : Thread M α} (h : t.Does P earlier w)
    (weaker : ∀ before d, P before d → Q before d) : t.Does Q earlier w :=
  fun before d after split => weaker _ d (h before d after split)

/-- A thread that is done does nothing. -/
lemma does_done (a : α) : (done a : Thread M α).Does P earlier w := by
  intro before d after split
  cases before <;> cases split

/-- An access is made after what was done before, and the rest after the access. -/
lemma does_access {a : Access M} {next : a.Reply → Thread M α} (first : P earlier ⟨a, w⟩)
    (rest : (next (a.apply w).1).Does P (earlier ++ [⟨a, w⟩]) (a.apply w).2) :
    (access a next).Does P earlier w := by
  intro before d after split
  cases before with
  | nil =>
    obtain ⟨rfl, -⟩ := List.cons.inj split
    rwa [List.append_nil]
  | cons d' before =>
    obtain ⟨rfl, later⟩ := List.cons.inj split
    rw [List.append_cons]
    exact rest before d after later

/-- A thread that makes one access does nothing else. -/
lemma does_once {a : Access M} (first : P earlier ⟨a, w⟩) : (once a).Does P earlier w :=
  does_access first (does_done _)

/-- A thread that goes on with another does what both do, the latter after the former. -/
lemma does_bind {t : Thread M α} {f : α → Thread M β} (first : t.Does P earlier w)
    (rest : (f (t.run w).1).Does P (earlier ++ t.deeds w) (t.run w).2) :
    (t.bind f).Does P earlier w := by
  intro before d after split
  rw [deeds_bind] at split
  rcases List.append_eq_append_iff.1 split with ⟨made, rfl, later⟩ | ⟨others, made, later⟩
  · rw [← List.append_assoc]
    exact rest made d after later
  · cases others with
    | nil =>
      rw [List.append_nil] at made
      rw [← List.append_nil before, ← made, ← List.append_assoc]
      exact rest [] d after later.symm
    | cons d' others =>
      obtain ⟨rfl, -⟩ := List.cons.inj later
      exact first before d others made

end Thread

/-! ## Threads of requests

Most accesses change neither a registration nor a global service. Whatever they have in common, a
thread that serves a request has it as soon as those have it that end a registration or the making
of services, and those by which somebody leaves or a global service comes or goes. -/

/-- The participant whose registration an access may change. -/
def Access.participant? : Access M → Option ParticipantId
  | enrol member _ => some member.id
  | deregister id _ => some id
  | install id _ _ => some id
  | _ => none

/-- Whether an access may change the global services. -/
def Access.isGlobal : Access M → Bool
  | addService _ => true
  | removeService _ => true
  | _ => false

namespace Request

/-- Whether a call may change the global services. -/
def isGlobal : Request M → Bool
  | addService _ => true
  | removeService _ => true
  | _ => false

/-- The member for whom services are generated when a call is made in a world: the one to be
registered, or the one in the line of the participant whose services are made anew. A call that is
refused at once has none generated. -/
def generates? (w : World M) : Request M → Option Member
  | register id name =>
    match w.environment.checkAbsent id with
    | .error _ => none
    | .ok () => some ⟨id, name⟩
  | regenerate id key =>
    match w.environment.tenant id key with
    | .error _ => none
    | .ok name => some ((w.environment.member? id).getD ⟨id, name⟩)
  | _ => none

/-- Services are made anew for the participant of the call. -/
lemma id_of_generates? {id : ParticipantId} {key : Key} {w : World M} {member : Member}
    (h : (regenerate id key : Request M).generates? w = some member) : member.id = id := by
  rw [generates?] at h
  cases passes : w.environment.tenant id key with
  | error e =>
    rw [passes] at h
    cases h
  | ok name =>
    rw [passes] at h
    obtain rfl := Option.some.inj h
    exact Environment.id_getD_member? id name

end Request

namespace Thread

section Serve

variable {P : List (Deed M) → Deed M → Prop}
  (quiet : ∀ {a : Access M}, a.participant? = none → a.isGlobal = false →
    ∀ earlier w, P earlier ⟨a, w⟩)

include quiet

/-- What a handler does is quiet. -/
lemma does_ofHandler (caller : HandlerId) (p : HandlerProgram) (earlier : List (Deed M))
    (w : World M) : (ofHandler caller p).Does P earlier w := by
  induction p generalizing earlier w with
  | stop ending => exact does_done ending
  | read key next ih => exact does_access (quiet rfl rfl _ _) (ih _ _ _)
  | write key value next ih => exact does_access (quiet rfl rfl _ _) (ih _ _ _)
  | writeBatch entries next ih => exact does_access (quiet rfl rfl _ _) (ih _ _ _)
  | update key f next ih =>
    rw [ofHandler]
    refine does_access (quiet rfl rfl _ _) ?_
    split
    · exact does_done _
    · exact ih _ _ _

/-- So is all that is done about an action. -/
lemma does_act (action : Action) (actor : ParticipantId) (key : Key) (earlier : List (Deed M))
    (w : World M) : (act action actor key).Does P earlier w := by
  refine does_access (quiet rfl rfl _ _) ?_
  cases (Access.apply (.route action actor key) w).1 with
  | error e => exact does_access (quiet rfl rfl _ _) (does_done _)
  | ok entry => exact does_bind (does_ofHandler quiet _ _ _ _) (does_once (quiet rfl rfl _ _))

/-- Looking up a service is quiet. -/
lemma does_participantService (id : ParticipantId) (key : Key) (kind : ServiceKind)
    (earlier : List (Deed M)) (w : World M) :
    (participantService id key kind).Does P earlier w := by
  refine does_access (quiet rfl rfl _ _) ?_
  match (Access.apply (.ownService id key kind) w).1 with
  | .error e => exact does_done _
  | .ok (some s) => exact does_done _
  | .ok none => exact does_once (quiet rfl rfl _ _)

variable {generate : Member → Option (Thread M ServiceSet)} {w : World M}

/-- A registration that is not refused at once enters the participant with what is generated. -/
lemma does_register {id : ParticipantId} {name : String}
    (enters : (Request.register id name).generates? w = some ⟨id, name⟩ →
      ∀ t, generate ⟨id, name⟩ = some t → ∀ earlier,
        (t.bind fun services => once (.enrol ⟨id, name⟩ services)).Does P earlier w)
    (earlier : List (Deed M)) : (register generate id name).Does P earlier w := by
  refine does_access (quiet rfl rfl _ _) ?_
  rw [Request.generates?] at enters
  simp only [Access.apply]
  cases passes : w.environment.checkAbsent id with
  | error e => exact does_done _
  | ok u =>
    rw [passes] at enters
    cases made : generate ⟨id, name⟩ with
    | none => exact does_done _
    | some t => exact enters rfl t made _

/-- The making of services installs what is generated for the line of the participant. -/
lemma does_regenerate {id : ParticipantId} {key : Key}
    (renews : ∀ member, (Request.regenerate id key).generates? w = some member →
      ∀ t, generate member = some t → ∀ earlier,
        (t.bind fun services => once (.install id key services)).Does P earlier w)
    (earlier : List (Deed M)) : (regenerate generate id key).Does P earlier w := by
  refine does_access (quiet rfl rfl _ _) ?_
  rw [Request.generates?] at renews
  simp only [Access.apply]
  cases passes : w.environment.tenant id key with
  | error e => exact does_done _
  | ok name =>
    rw [passes] at renews
    refine does_access (quiet rfl rfl _ _) ?_
    simp only [Access.apply]
    cases made : generate ((w.environment.member? id).getD ⟨id, name⟩) with
    | none => exact does_done _
    | some t => exact renews _ rfl t made _

/-- A request is served as it asks for: who enters or renews a registration has the generators run,
and the other requests make their accesses. -/
lemma does_serve {q : Request M} {earlier : List (Deed M)}
    (enters : ∀ id name, q = .register id name → q.generates? w = some ⟨id, name⟩ →
      ∀ t, generate ⟨id, name⟩ = some t → ∀ earlier,
        (t.bind fun services => once (.enrol ⟨id, name⟩ services)).Does P earlier w)
    (leaves : ∀ id key, q = .deregister id key → P earlier ⟨.deregister id key, w⟩)
    (renews : ∀ id key, q = .regenerate id key → ∀ member, q.generates? w = some member →
      ∀ t, generate member = some t → ∀ earlier,
        (t.bind fun services => once (.install id key services)).Does P earlier w)
    (global : ∀ {a : Access M}, a.participant? = none → q.isGlobal = true → P earlier ⟨a, w⟩) :
    (serve generate q).Does P earlier w := by
  cases q with
  | act action actor key => exact does_act quiet action actor key _ _
  | register id name => exact does_register quiet (enters id name rfl) _
  | deregister id key => exact does_once (leaves id key rfl)
  | regenerate id key => exact does_regenerate quiet (renews id key rfl) _
  | participantService id key kind => exact does_participantService quiet id key kind _ _
  | addService | removeService => exact does_once (global rfl rfl)
  | _ => exact does_once (quiet rfl rfl _ _)

end Serve

variable {P : List (Deed M) → Deed M → Prop} {serve : (q : Request M) → Thread M q.Reply}

/-- A program does what its requests do. -/
lemma does_ofProgram {allowed : Request M → Prop}
    (serves : ∀ q, allowed q → ∀ earlier w, (serve q).Does P earlier w) {p : Program M α}
    (uses : p.Uses allowed) (earlier : List (Deed M)) (w : World M) :
    (ofProgram serve p).Does P earlier w := by
  induction p generalizing earlier w with
  | done a => exact does_done a
  | ask q next ih => exact does_bind (serves q uses.1 _ _) (ih _ (uses.2 _) _ _)

/-- Generators do what their requests do. -/
lemma does_generation {allowed : Request M → Prop}
    (serves : ∀ q, allowed q → ∀ earlier w, (serve q).Does P earlier w)
    {member : Member} {generators : List (Generator M)}
    (uses : ∀ g ∈ generators, ∀ services, (g member services).Uses allowed)
    (services : ServiceSet) (earlier : List (Deed M)) (w : World M) :
    (generation serve member generators services).Does P earlier w := by
  induction generators generalizing services earlier w with
  | nil => exact does_done services
  | cons g rest ih =>
    have first := does_ofProgram serves (uses g List.mem_cons_self services) earlier w
    exact does_bind first (ih (fun g' mem => uses g' (List.mem_cons_of_mem g mem)) _ _ _)

end Thread

/-- A program uses the requests that it makes, if all are allowed. -/
lemma Program.uses_of_forall {allowed : Request M → Prop} (all : ∀ q, allowed q)
    (p : Program M α) : p.Uses allowed := by
  induction p with
  | done a => trivial
  | ask q next ih => exact ⟨all q, ih⟩

/-! ## What gives services -/

/-- Whether a participant may be given services with an access. -/
def Access.gives : Access M → Bool
  | enrol _ _ => true
  | install _ _ _ => true
  | _ => false

variable {gs : List (Generator M)} {nesting : Nat} {id : ParticipantId} {services : ServiceSet}

namespace Deed

/-- An access that gives nothing has nothing to account for. -/
lemma sound_of_quiet {a : Access M} (quiet : a.gives = false) (before : List (Deed M))
    (w : World M) : Sound gs nesting before ⟨a, w⟩ := by
  intro id services given
  cases a with
  | enrol | install => cases quiet
  | _ => cases given

/-- Whoever is entered is given the services that it is entered with. -/
lemma given?_enrol {member : Member} {made : ServiceSet} {w : World M}
    (h : (Deed.performed ⟨.enrol member made, w⟩).given? id = some services) :
    member.id = id ∧ made = services := by
  rw [performed] at h
  generalize reply ⟨.enrol member made, w⟩ = r at h
  cases r with
  | error e => cases h
  | ok admission =>
    obtain ⟨same, given⟩ := Option.ite_none_right_eq_some.1 h
    exact ⟨same.symm, Option.some.inj given⟩

/-- A participant for whom services are installed is given these. -/
lemma given?_install {i : ParticipantId} {key : Key} {made : ServiceSet} {w : World M}
    (h : (Deed.performed ⟨.install i key made, w⟩).given? id = some services) :
    i = id ∧ made = services := by
  rw [performed] at h
  generalize reply ⟨.install i key made, w⟩ = r at h
  cases r with
  | error e => cases h
  | ok installed =>
    obtain ⟨same, given⟩ := Option.ite_none_right_eq_some.1 h
    exact ⟨same.symm, Option.some.inj given⟩

end Deed

namespace Thread

/-- A thread that runs the generators for a member: what it does itself is sound, and it leaves what
they leave. -/
structure Generates (gs : List (Generator M)) (nesting : Nat) (member : Member)
    (t : Thread M ServiceSet) : Prop where
  does : ∀ earlier w, t.Does (Deed.Sound gs nesting) earlier w
  leaves : ∀ w, ∃ levels ≤ nesting,
    Leaves (.ofRequest gs levels) member w gs (t.run w).1 (t.run w).2

/-- What such a thread leaves was generated for its member, and directly before whatever is done
next. -/
lemma Generates.generated {member : Member} {t : Thread M ServiceSet}
    (h : t.Generates gs nesting member) (named : member.id = id) (a : Access M)
    (earlier : List (Deed M)) (w : World M) :
    Deed.Generated gs nesting id (t.run w).1 (earlier ++ t.deeds w) ⟨a, (t.run w).2⟩ := by
  obtain ⟨levels, le, leaves⟩ := h.leaves w
  exact ⟨member, named, levels, le, earlier, t.deeds w, w, rfl, t.deeds_along w, leaves⟩

/-- What a request gives has been generated: a registration for its member, and a renewal for the
line of its participant. -/
lemma sound_serve {generate : Member → Option (Thread M ServiceSet)}
    (generates : ∀ member t, generate member = some t → t.Generates gs nesting member)
    (q : Request M) (earlier : List (Deed M)) (w : World M) :
    (serve generate q).Does (Deed.Sound gs nesting) earlier w := by
  have still {a : Access M} (unchanged : a.participant? = none) (before : List (Deed M))
      (w : World M) : Deed.Sound gs nesting before ⟨a, w⟩ := by
    refine Deed.sound_of_quiet ?_ before w
    cases a with
    | enrol | install => cases unchanged
    | _ => rfl
  refine does_serve (fun unchanged _ => still unchanged) ?_ ?_ ?_
    (fun unchanged _ => still unchanged _ _)
  · rintro id name rfl - t made earlier
    refine does_bind ((generates _ t made).does _ _) (does_once fun i services given => ?_)
    obtain ⟨same, rfl⟩ := Deed.given?_enrol given
    exact (generates _ t made).generated same _ _ _
  · exact fun id key _ => Deed.sound_of_quiet rfl _ _
  · rintro id key rfl member forced t made earlier
    refine does_bind ((generates _ t made).does _ _) (does_once fun i services given => ?_)
    obtain ⟨rfl, rfl⟩ := Deed.given?_install given
    exact (generates _ t made).generated (Request.id_of_generates? forced) _ _ _

/-- Every request comes to deeds that are sound, however deep in generators it is made. -/
lemma sound_ofRequest {levels : Nat} (le : levels ≤ nesting + 1) (q : Request M)
    (earlier : List (Deed M)) (w : World M) :
    (ofRequest gs levels q).Does (Deed.Sound gs nesting) earlier w := by
  -- on the levels left; the generators that run for a request have one less
  induction levels generalizing q earlier w with
  | zero => exact sound_serve (fun _ _ made => by cases made) q earlier w
  | succ levels ih =>
    refine sound_serve (fun member t made => ?_) q earlier w
    obtain rfl := Option.some.inj made
    refine ⟨does_generation (fun q _ => ih (Nat.le_of_succ_le le) q)
      (fun g _ services => (g member services).uses_of_forall fun _ => trivial) {}, fun w => ?_⟩
    exact ⟨levels, Nat.le_of_succ_le_succ le, Leaves.nothing.generation gs⟩

end Thread

/-- Whatever a program does, everything it gives was generated right before. -/
theorem World.sound_of_mem {w : World M} {p : Program M α} {before after : List (Deed M)}
    {d : Deed M} (split : w.deedsOf p = before ++ d :: after) :
    d.Sound w.generators w.nesting before :=
  Thread.does_ofProgram (fun q _ => Thread.sound_ofRequest (Nat.le_refl _) q)
    (p.uses_of_forall fun _ => trivial) [] w before d after split

end Cadence
