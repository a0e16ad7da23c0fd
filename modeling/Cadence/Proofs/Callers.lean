import Cadence.Proofs.Generation

/-!
# Whose calls

A program makes calls, and so do the generators that run for them. `World.callsOf` lists all of
these, in the order in which they are made. A call is made in the name of one participant or of
nobody, and all that is done is done within the rights of one of the calls
(`World.exists_call_of_mem`): nobody's registration changes but in a call of its own, and no global
service but in a call that is there for it.
-/

namespace Cadence

variable {M α : Type}

namespace Request

/-- The participant in whose name a call is made. -/
def caller? : Request M → Option ParticipantId
  | act _ actor _ => some actor
  | register id _ => some id
  | deregister id _ => some id
  | regenerate id _ => some id
  | participantService id _ _ => some id
  | _ => none

/-- Whether an access is within the rights of a call: a registration that it may change is the
caller's own, and only a call that is there for them may change global services. -/
structure Covers (q : Request M) (a : Access M) : Prop where
  own : ∀ id, a.participant? = some id → q.caller? = some id
  global : a.isGlobal = true → q.isGlobal = true

/-- An access that changes neither is within the rights of everybody. -/
lemma Covers.of_quiet {q : Request M} {a : Access M} (unchanged : a.participant? = none)
    (still : a.isGlobal = false) : q.Covers a where
  own id changes := by
    rw [unchanged] at changes
    cases changes
  global changes := by
    rw [still] at changes
    cases changes

end Request

/-! ## The calls of a program -/

namespace Thread

section Calls

variable (serve : (q : Request M) → Thread M q.Reply)
  (within : Request M → World M → List (Request M))

/-- The calls that a program makes in a world, each followed by those that are made within it. -/
def calls : Program M α → World M → List (Request M)
  | .done _, _ => []
  | .ask q next, w =>
    (q :: within q w) ++ calls (next ((serve q).run w).1) ((serve q).run w).2

/-- The calls that generators make, which run one after another. -/
def callsOfGeneration (member : Member) :
    List (Generator M) → ServiceSet → World M → List (Request M)
  | [], _, _ => []
  | g :: rest, services, w =>
    let made := (ofProgram serve (g member services)).run w
    calls serve within (g member services) w ++ callsOfGeneration member rest made.1 made.2

end Calls

/-- The calls that are made within a call: those of the generators that run for it, if any do. -/
def callsWithin (generators : List (Generator M)) : Nat → Request M → World M → List (Request M)
  | 0, _, _ => []
  | levels + 1, q, w =>
    match q.generates? w with
    | none => []
    | some member =>
      callsOfGeneration (ofRequest generators levels) (callsWithin generators levels) member
        generators {} w

variable {serve : (q : Request M) → Thread M q.Reply}
  {within : Request M → World M → List (Request M)}

/-- What is done is within the rights of one of the calls. -/
abbrev CoveredBy (calls : List (Request M)) (_ : List (Deed M)) (d : Deed M) : Prop :=
  ∃ q ∈ calls, q.Covers d.access

/-- What is within the rights of some calls is within those of more. -/
lemma CoveredBy.mono {calls calls' : List (Request M)} (more : calls ⊆ calls')
    {before : List (Deed M)} {d : Deed M} (covered : CoveredBy calls before d) :
    CoveredBy calls' before d := by
  obtain ⟨q, mem, covers⟩ := covered
  exact ⟨q, more mem, covers⟩

/-- If that holds of every call that a program may make, it holds of the program. -/
lemma covered_ofProgram
    (serves : ∀ q earlier w, (serve q).Does (CoveredBy (q :: within q w)) earlier w)
    (p : Program M α) (earlier : List (Deed M)) (w : World M) :
    (ofProgram serve p).Does (CoveredBy (calls serve within p w)) earlier w := by
  induction p generalizing earlier w with
  | done a => exact does_done a
  | ask q next ih =>
    have first := serves q earlier w
    exact does_bind (first.imp fun _ _ => CoveredBy.mono (List.subset_append_left _ _))
      ((ih _ _ _).imp fun _ _ => CoveredBy.mono (List.subset_append_right _ _))

/-- It then also holds of generators. -/
lemma covered_generation
    (serves : ∀ q earlier w, (serve q).Does (CoveredBy (q :: within q w)) earlier w)
    (member : Member) (gs : List (Generator M)) (services : ServiceSet) (earlier : List (Deed M))
    (w : World M) :
    (generation serve member gs services).Does
      (CoveredBy (callsOfGeneration serve within member gs services w)) earlier w := by
  induction gs generalizing services earlier w with
  | nil => exact does_done services
  | cons g rest ih =>
    have first := covered_ofProgram serves (g member services) earlier w
    exact does_bind (first.imp fun _ _ => CoveredBy.mono (List.subset_append_left _ _))
      ((ih _ _ _).imp fun _ _ => CoveredBy.mono (List.subset_append_right _ _))

/-- What a call does besides having services generated is within its own rights. -/
lemma covered_serve {generate : Member → Option (Thread M ServiceSet)} {q : Request M}
    {inner : List (Request M)} {w : World M}
    (generated : ∀ member, q.generates? w = some member → ∀ t, generate member = some t →
      ∀ earlier, t.Does (CoveredBy inner) earlier w) (earlier : List (Deed M)) :
    (Thread.serve generate q).Does (CoveredBy (q :: inner)) earlier w := by
  have own {before : List (Deed M)} {a : Access M} {w' : World M} (covers : q.Covers a) :
      CoveredBy (q :: inner) before ⟨a, w'⟩ := ⟨q, List.mem_cons_self, covers⟩
  have within {before : List (Deed M)} {d : Deed M} (covered : CoveredBy inner before d) :
      CoveredBy (q :: inner) before d := covered.mono (List.subset_cons_self q inner)
  refine does_serve (fun unchanged still _ _ => own (.of_quiet unchanged still)) ?_ ?_ ?_ ?_
  · rintro id name rfl forced t made earlier
    refine does_bind ((generated _ forced t made earlier).imp fun _ _ => within) (does_once ?_)
    exact own ⟨fun _ changes => changes, nofun⟩
  · rintro id key rfl
    exact own ⟨fun _ changes => changes, nofun⟩
  · rintro id key rfl member forced t made earlier
    refine does_bind ((generated _ forced t made earlier).imp fun _ _ => within) (does_once ?_)
    exact own ⟨fun _ changes => changes, nofun⟩
  · intro a unchanged global
    refine own ⟨fun id changes => ?_, fun _ => global⟩
    rw [unchanged] at changes
    cases changes

/-- What a call does is within its own rights or those of a call that is made within it. -/
lemma covered_ofRequest (gs : List (Generator M)) (levels : Nat) (q : Request M)
    (earlier : List (Deed M)) (w : World M) :
    (ofRequest gs levels q).Does (CoveredBy (q :: callsWithin gs levels q w)) earlier w := by
  -- on the levels left; the generators that run for a request have one less
  induction levels generalizing q earlier w with
  | zero => exact covered_serve (fun _ _ _ made => by cases made) earlier
  | succ levels ih =>
    refine covered_serve (fun member forced t made earlier => ?_) earlier
    obtain rfl := Option.some.inj made
    rw [callsWithin, forced]
    exact covered_generation ih member gs {} earlier w

end Thread

namespace World

/-- All calls that are made as a program runs in a world: its own, and those of the generators that
run for them. -/
def callsOf (w : World M) (p : Program M α) : List (Request M) :=
  Thread.calls (.ofRequest w.generators (w.nesting + 1))
    (Thread.callsWithin w.generators (w.nesting + 1)) p w

/-- Whatever is done as a program runs is within the rights of one of the calls that are made. -/
theorem exists_call_of_mem {w : World M} {p : Program M α} {d : Deed M} (mem : d ∈ w.deedsOf p) :
    ∃ q ∈ w.callsOf p, q.Covers d.access :=
  (Thread.covered_ofProgram (fun q => Thread.covered_ofRequest _ _ q) p [] w).of_mem mem

end World

end Cadence
