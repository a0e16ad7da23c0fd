import Cadence.Proofs.Membership
import Cadence.Proofs.Services

/-!
# Restraint

What components do not ask for does not happen, as long as the generators, which run on their
behalf, do not ask for it either. `Restraint` is what it takes of a relation between environments:
programs that keep to what is allowed respect it (`Restraint.perform`), and so do the generators
that run for a member (`Restraint.generate`). One that touches nobody's registration but its own
leaves all others as they are (`restraint_spares`), and one that removes nobody and registers nobody
new leaves all who are registered (`restraint_mild`).
-/

namespace Cadence

variable {M α : Type}

/-! ## Programs that keep to what is allowed -/

/-- A relation between environments that is about registrations, and that is respected by whatever
is done for requests that are allowed. -/
structure Restraint (gs : List (Generator M)) (allowed : Request M → Prop)
    (R : Environment → Environment → Prop) : Prop where
  trans : ∀ {a b c}, R a b → R b c → R a c
  quiet : ∀ {e e' : Environment}, e'.registrations = e.registrations → R e e'
  register : ∀ {id name}, allowed (.register id name) →
    (∀ g ∈ gs, ∀ services, (g ⟨id, name⟩ services).Uses allowed) ∧
      ∀ e services, R e (e.enrol ⟨id, name⟩ services).2
  deregister : ∀ {id key}, allowed (.deregister id key) → ∀ e, R e (e.deregister id key).2
  regenerate : ∀ {id key}, allowed (.regenerate id key) →
    (∀ g ∈ gs, ∀ member : Member, member.id = id → ∀ services, (g member services).Uses allowed) ∧
      ∀ e services, R e (e.install id key services).2

/-- An access changes registrations only if it is there for that. -/
lemma Access.registrations_apply {a : Access M} (unchanged : a.participant? = none) (w : World M) :
    (a.apply w).2.environment.registrations = w.environment.registrations := by
  cases a with
  | settle action actor handler ending =>
    simp only [apply, World.inEnvironment, Environment.settle]
    rcases ending.result with reason | _ | _ <;> rfl
  | enrol | deregister | install => cases unchanged
  | _ => rfl

namespace Restraint

variable {gs : List (Generator M)} {allowed : Request M → Prop}
  {R : Environment → Environment → Prop}

/-- What is done respects the relation. -/
abbrev Respects (R : Environment → Environment → Prop) (_ : List (Deed M)) (d : Deed M) : Prop :=
  R d.world.environment d.after.environment

/-- A thread each of whose deeds respects the relation respects it as a whole. -/
lemma of_does (h : Restraint gs allowed R) {t : Thread M α} {w : World M}
    (does : t.Does (Respects R) [] w) : R w.environment (t.run w).2.environment :=
  (t.deeds_along w).lift (R := fun w w' => R w.environment w'.environment) (fun _ => h.quiet rfl)
    h.trans fun _ => does.of_mem

/-- So does whatever is done for a request that is allowed. -/
lemma does_ofRequest (h : Restraint gs allowed R) (levels : Nat) {q : Request M}
    (keeps : allowed q) (earlier : List (Deed M)) (w : World M) :
    (Thread.ofRequest gs levels q).Does (Respects R) earlier w := by
  have quiet {a : Access M} (unchanged : a.participant? = none) (before : List (Deed M))
      (w : World M) : Respects R before ⟨a, w⟩ := h.quiet (a.registrations_apply unchanged w)
  have leaves {q : Request M} (keeps : allowed q) {id : ParticipantId} {key : Key}
      (leaving : q = .deregister id key) (before : List (Deed M)) (w : World M) :
      Respects R before ⟨.deregister id key, w⟩ :=
    h.deregister (leaving ▸ keeps) w.environment
  -- on the levels left; the generators that run for a request have one less
  induction levels generalizing q earlier w with
  | zero =>
    exact Thread.does_serve (fun unchanged _ => quiet unchanged)
      (fun _ _ _ _ _ made => by cases made) (fun _ _ leaving => leaves keeps leaving _ _)
      (fun _ _ _ _ _ _ made => by cases made) (fun unchanged _ => quiet unchanged _ _)
  | succ levels ih =>
    refine Thread.does_serve (fun unchanged _ => quiet unchanged) ?_
      (fun _ _ leaving => leaves keeps leaving _ _) ?_ (fun unchanged _ => quiet unchanged _ _)
    · rintro id name rfl - t made earlier
      obtain rfl := Option.some.inj made
      obtain ⟨uses, enters⟩ := h.register keeps
      exact Thread.does_bind (Thread.does_generation (fun q => ih) uses {} _ _)
        (Thread.does_once (enters _ _))
    · rintro id key rfl member forced t made earlier
      obtain rfl := Option.some.inj made
      obtain ⟨uses, renews⟩ := h.regenerate keeps
      have named : member.id = id := Request.id_of_generates? forced
      have generated : (Thread.generation _ member gs {}).Does _ earlier w :=
        Thread.does_generation (fun q => ih) (fun g mem => uses g mem member named) {} _ _
      exact Thread.does_bind generated (Thread.does_once (renews _ _))

/-- A program that keeps to what is allowed respects the relation. -/
theorem perform {w : World M} (h : Restraint w.generators allowed R) {p : Program M α}
    (uses : p.Uses allowed) : R w.environment (w.perform p).2.environment :=
  h.of_does (Thread.does_ofProgram (fun _ => h.does_ofRequest _) uses [] w)

/-- So do generators that keep to it. -/
theorem generate {w : World M} (h : Restraint w.generators allowed R) {member : Member}
    (uses : ∀ g ∈ w.generators, ∀ services, (g member services).Uses allowed) :
    R w.environment (w.generate member).2.environment :=
  h.of_does (Thread.does_generation (fun _ => h.does_ofRequest _) uses {} [] w)

end Restraint

/-- Whatever member the generator runs for, it keeps to what is allowed for that member. -/
def Generator.KeepsTo (allowed : ParticipantId → Request M → Prop) (g : Generator M) : Prop :=
  ∀ member services, (g member services).Uses (allowed member.id)

/-! ## Nobody else is touched -/

/-- A request by which nobody is registered, and nobody but one participant is removed or served
anew. -/
def Request.Spares (id : ParticipantId) : Request M → Prop
  | register _ _ => False
  | deregister i _ => i = id
  | regenerate i _ => i = id
  | _ => True

namespace Environment

/-- All registrations but that of one participant are the same, in the same order, and if that
participant is registered then under the same key. -/
structure Spares (id : ParticipantId) (e e' : Environment) : Prop where
  others : e'.registrations.filter (fun r => r.id != id) =
    e.registrations.filter fun r => r.id != id
  key : e'.keyOf? id = e.keyOf? id ∨ e'.keyOf? id = none

variable {e e' : Environment} {id : ParticipantId}

/-- What spares a participant twice spares it. -/
lemma Spares.trans {a b c : Environment} (ab : a.Spares id b) (bc : b.Spares id c) :
    a.Spares id c where
  others := bc.others.trans ab.others
  key := by
    rcases bc.key with same | gone
    · rw [same]
      exact ab.key
    · exact .inr gone

/-- A departure spares the other participants. -/
lemma spares_deregister (e : Environment) (id : ParticipantId) (key : Key) :
    e.Spares id (e.deregister id key).2 := by
  by_cases current : e.keyOf? id = some key
  · rw [deregister_of_eq current]
    refine ⟨?_, .inr ?_⟩
    · rw [leave, List.filter_filter]
      exact List.filter_congr fun r _ => Bool.and_self _
    · rw [keyOf?_leave, if_pos rfl]
  · rw [deregister_of_ne current]
    exact ⟨rfl, .inl rfl⟩

/-- To install services spares the other participants. -/
lemma spares_install (e : Environment) (id : ParticipantId) (key : Key) (services : ServiceSet) :
    e.Spares id (e.install id key services).2 := by
  refine ⟨?_, .inl (keyOf?_install id)⟩
  rw [install]
  cases e.authorize id key with
  | error err => rfl
  | ok u =>
    rw [List.filter_map]
    have named : ((fun r : Registration => r.id != id) ∘ fun r =>
        if r.id = id then { r with services := services } else r) = fun r => r.id != id := by
      funext r
      simp only [Function.comp]
      split <;> rfl
    rw [named]
    -- the registrations that are left are those that stay as they are
    refine (List.map_congr_left fun r mem => ?_).trans (List.map_id _)
    exact if_neg (bne_iff_ne.1 (List.mem_filter.1 mem).2)

/-- Who is not registered is not among the registrations. -/
lemma registrations_filter_of_absent (absent : e.keyOf? id = none) :
    (e.registrations.filter fun r => r.id != id) = e.registrations := by
  rw [List.filter_eq_self]
  intro r mem
  rw [keyOf?_eq_none_iff, entries, List.map_map] at absent
  rw [bne_iff_ne]
  rintro rfl
  exact absent (List.mem_map_of_mem mem)

/-- What spares all others has changed nothing if the participant is not registered either way. -/
lemma registrations_eq_of_others
    (others : e'.registrations.filter (fun r => r.id != id) =
      e.registrations.filter fun r => r.id != id)
    (absent : e.keyOf? id = none) (absent' : e'.keyOf? id = none) :
    e'.registrations = e.registrations := by
  rwa [registrations_filter_of_absent absent, registrations_filter_of_absent absent'] at others

end Environment

/-- Programs that touch nobody's registration but one participant's spare all others, as long as
generators touch nobody's but that of the member they run for. -/
theorem restraint_spares {gs : List (Generator M)}
    (guarded : ∀ g ∈ gs, g.KeepsTo Request.Spares) (id : ParticipantId) :
    Restraint gs (Request.Spares id) (Environment.Spares id) where
  trans := .trans
  quiet same :=
    ⟨by rw [same], .inl (by rw [Environment.keyOf?, Environment.registration?, same]; rfl)⟩
  register := False.elim
  deregister := by
    rintro _ key rfl e
    exact e.spares_deregister _ key
  regenerate := by
    rintro _ key rfl
    refine ⟨fun g mem member named services => ?_, fun e => e.spares_install _ key⟩
    rw [← named]
    exact guarded g mem member services

/-! ## Nobody leaves, and nobody new comes -/

/-- A request by which nobody is removed, and nobody but certain participants registered. -/
def Request.Mild (own : ParticipantId → Prop) : Request M → Prop
  | register id _ => own id
  | deregister _ _ => False
  | _ => True

/-- The keys of participants depend on nothing but who is registered. -/
lemma Environment.keyOf?_congr {e e' : Environment} (same : e'.entries = e.entries)
    (id : ParticipantId) : e'.keyOf? id = e.keyOf? id := by
  rw [keyOf?_eq, same, ← keyOf?_eq]

/-- What a program uses may be weakened. -/
lemma Program.Uses.imp {allowed allowed' : Request M → Prop} {p : Program M α}
    (uses : p.Uses allowed) (weaker : ∀ q, allowed q → allowed' q) : p.Uses allowed' := by
  induction p with
  | done a => trivial
  | ask q next ih => exact ⟨weaker q uses.1, fun r => ih r (uses.2 r)⟩

/-- A request by which nobody is removed and nobody registered. -/
abbrev Request.Still : Request M → Prop := Mild fun _ => False

/-- What makes a request mild may be weakened. -/
lemma Request.Mild.imp {own own' : ParticipantId → Prop} (weaker : ∀ id, own id → own' id)
    {q : Request M} (mild : q.Mild own) : q.Mild own' := by
  cases q with
  | register id name => exact weaker id mild
  | _ => exact mild

/-- Programs that remove nobody, and register nobody but participants that are registered already,
change nothing about who is registered, as long as generators neither remove nor register anybody.
-/
theorem restraint_mild {gs : List (Generator M)}
    (guarded : ∀ g ∈ gs, g.KeepsTo fun _ => Request.Still) (own : ParticipantId → Prop) :
    Restraint gs (Request.Mild own) fun e e' =>
      (∀ id, own id → e.keyOf? id ≠ none) → e'.entries = e.entries where
  trans {a b c} ab bc registered := by
    have first := ab registered
    exact (bc fun id mem => Environment.keyOf?_congr first id ▸ registered id mem).trans first
  quiet same _ := by rw [Environment.entries, same]; rfl
  register {id name} mem := by
    refine ⟨fun g mem services => (guarded g mem _ services).imp fun _ => .imp fun _ => False.elim,
      fun e services registered => ?_⟩
    obtain ⟨key, held⟩ := Option.ne_none_iff_exists'.1 (registered id mem)
    have refused : e.enrol ⟨id, name⟩ services = _ := Environment.enrol_of_some held
    rw [refused]
  deregister := False.elim
  regenerate _ :=
    ⟨fun g mem member _ services =>
      (guarded g mem member services).imp fun _ => .imp fun _ => False.elim,
      fun e services _ => e.entries_install _ _ services⟩

end Cadence
