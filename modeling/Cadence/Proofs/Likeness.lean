import Cadence.Proofs.Rekeying

/-!
# Threads and programs under other keys

Two threads, or two programs, are like each other if they do the same but present other keys, and go
on alike whatever keys they are issued (`Thread.Like`, `Program.Like`). Threads that are like each
other do the same to a world and to that world under the other keys (`Thread.Like.run`). Requests
are served alike as long as generators are blind, that is, like themselves whatever the keys are
(`Generator.Blind`).
-/

namespace Cadence

variable {M α β γ δ : Type} {c : Rekeying}

/-! ## Threads -/

namespace Thread

/-- The second thread makes the accesses of the first with the other keys, goes on alike after
replies that are the same but for a key issued, and ends with a result that is related. -/
inductive Like (c : Rekeying) (R : α → β → Prop) : Thread M α → Thread M β → Prop where
  | done {a : α} {b : β} (related : R a b) : Like c R (.done a) (.done b)
  | access {a : Access M} {next : a.Reply → Thread M α} {next' : (c.access a).Reply → Thread M β}
      (known : ∀ k ∈ a.key?, c.Known k)
      (goesOn : ∀ r, (∀ k ∈ a.issued? r, c.Known k) → Like c R (next r) (next' (c.answer a r))) :
      Like c R (.access a next) (.access (c.access a) next')

variable {R : α → β → Prop} {S : γ → δ → Prop} {t : Thread M α} {t' : Thread M β}

/-- An access that presents no key has nothing to present instead. -/
lemma Like.keyless {a : Access M} {next : a.Reply → Thread M α}
    {next' : (c.access a).Reply → Thread M β} (keyless : a.key? = none)
    (goesOn : ∀ r, (∀ k ∈ a.issued? r, c.Known k) → Like c R (next r) (next' (c.answer a r))) :
    Like c R (.access a next) (.access (c.access a) next') := by
  refine .access ?_ goesOn
  rw [keyless]
  rintro k ⟨⟩

/-- What threads that are like each other do to a world and to the world under the other keys. -/
theorem Like.run (h : t.Like c R t') {w : World M} (fits : c.Fits w.environment) :
    R (t.run w).1 (t'.run (c.world w)).1 ∧ (t'.run (c.world w)).2 = c.world (t.run w).2 ∧
      c.Fits (t.run w).2.environment := by
  induction h generalizing w with
  | done related => exact ⟨related, rfl, fits⟩
  | @access a next next' known goesOn ih =>
    rw [run_access, run_access, Rekeying.apply_access fits known]
    exact ih _ (fits.issued a) (fits.after a)

/-- Threads that are alike go on alike. -/
lemma Like.bind {f : α → Thread M γ} {f' : β → Thread M δ} (h : t.Like c R t')
    (goesOn : ∀ a b, R a b → (f a).Like c S (f' b)) : (t.bind f).Like c S (t'.bind f') := by
  induction h with
  | done related => exact goesOn _ _ related
  | access known _ ih => exact .access known ih

/-- What relates the results may be weakened. -/
lemma Like.mono {R' : α → β → Prop} (h : t.Like c R t') (weaker : ∀ a b, R a b → R' a b) :
    t.Like c R' t' := by
  induction h with
  | done related => exact .done (weaker _ _ related)
  | access known _ ih => exact .access known ih

/-- A handler sees no keys. -/
lemma like_ofHandler (caller : HandlerId) (p : HandlerProgram) :
    (ofHandler caller p : Thread M HandlerEnd).Like c Eq (ofHandler caller p) := by
  induction p with
  | stop ending => exact .done rfl
  | read key next ih => exact .keyless (a := .readState key) rfl fun r _ => ih r
  | write key value next ih => exact .keyless (a := .write key value caller) rfl fun r _ => ih r
  | writeBatch entries next ih =>
    exact .keyless (a := .writeBatch entries caller) rfl fun r _ => ih r
  | update key f next ih =>
    rw [ofHandler]
    refine .keyless (a := .update key caller f) rfl fun r _ => ?_
    simp only [Rekeying.answer]
    split
    · exact .done rfl
    · exact ih _

end Thread

/-! ## Requests -/

/-- The key that a request presents. -/
def Request.key? : Request M → Option Key
  | act _ _ key => some key
  | deregister _ key => some key
  | regenerate _ key => some key
  | participantService _ key _ => some key
  | isCurrent _ key => some key
  | _ => none

/-- The answer to a registration that a reply is, if it succeeds. -/
def Request.admission? : (q : Request M) → q.Reply → Option Admission
  | register _ _, .ok admission => some admission
  | _, _ => none

namespace Rekeying

variable (c)

/-- A request that presents the other key. -/
def request : Request M → Request M
  | .act action actor key => .act action actor (c.rename key)
  | .deregister id key => .deregister id (c.rename key)
  | .regenerate id key => .regenerate id (c.rename key)
  | .participantService id key kind => .participantService id (c.rename key) kind
  | .isCurrent id key => .isCurrent id (c.rename key)
  | q => q

/-- The reply to a request with the other key in it. -/
def reply : (q : Request M) → q.Reply → (c.request q).Reply
  | .register _ _, r => r.map c.admission
  | .remembered, r => r
  | .keep _, r => r
  | .report _, r => r
  | .act _ _ _, r => r
  | .deregister _ _, r => r
  | .regenerate _ _, r => r
  | .participantService _ _ _, r => r
  | .globalService _, r => r
  | .addService _, r => r
  | .removeService _, r => r
  | .isRegistered _, r => r
  | .isCurrent _ _, r => r
  | .members, r => r
  | .snapshot, r => r
  | .readState _, r => r
  | .tableNames, r => r
  | .database _, r => r
  | .control _, r => r

/-- Replies that are the same but for a key issued, which is known. -/
def Replies (q : Request M) (r : q.Reply) (r' : (c.request q).Reply) : Prop :=
  r' = c.reply q r ∧ ∀ a ∈ q.admission? r, c.Known a.key

end Rekeying

/-! ## Programs -/

/-- The second program makes the requests of the first with the other keys, goes on alike after
replies that are the same but for a key issued, and ends with a result that is related. -/
inductive Program.Like (c : Rekeying) (R : α → β → Prop) : Program M α → Program M β → Prop where
  | done {a : α} {b : β} (related : R a b) : Like c R (.done a) (.done b)
  | ask {q : Request M} {next : q.Reply → Program M α}
      {next' : (c.request q).Reply → Program M β} (known : ∀ k ∈ q.key?, c.Known k)
      (goesOn : ∀ r, (∀ a ∈ q.admission? r, c.Known a.key) →
        Like c R (next r) (next' (c.reply q r))) :
      Like c R (.ask q next) (.ask (c.request q) next')

/-- A generator that is like itself whatever the keys are: it is given none, and does nothing with
one that is issued to it but present it. -/
def Generator.Blind (g : Generator M) : Prop :=
  ∀ (c : Rekeying) member services, (g member services).Like c Eq (g member services)

/-- A program that presents no key and registers nobody is like itself. -/
lemma Program.like_self {p : Program M α}
    (keyless : p.Uses fun q => q.key? = none ∧ ∀ r, q.admission? r = none) :
    p.Like c Eq p := by
  induction p with
  | done a => exact .done rfl
  | ask q next ih =>
    obtain ⟨⟨presentsNone, issuesNone⟩, later⟩ := keyless
    have same : ∀ r, (next r).Like c Eq (next r) := fun r => ih r (later r)
    cases q with
    | act | deregister | regenerate | participantService | isCurrent => cases presentsNone
    | register id name => cases issuesNone (.ok ⟨id, ⟨0⟩, {}⟩)
    | _ => exact .ask nofun fun r _ => same r

/-- A generator is blind if it presents no key and registers nobody. -/
theorem Generator.blind_of_keyless {g : Generator M} (keyless : ∀ member services,
    (g member services).Uses fun q => q.key? = none ∧ ∀ r, q.admission? r = none) : g.Blind :=
  fun _ member services => Program.like_self (keyless member services)

namespace Thread

variable {generate : Member → Option (Thread M ServiceSet)}

/-- An action is alike under the other keys. -/
lemma like_act {action : Action} {actor : ParticipantId} {key : Key} (known : c.Known key) :
    (act action actor key : Thread M _).Like c Eq (act action actor (c.rename key)) := by
  refine .access (a := .route action actor key) (by rintro k ⟨⟩; exact known) fun r _ => ?_
  cases r with
  | error e => exact .keyless (a := .refuse) rfl fun _ _ => .done rfl
  | ok entry =>
    refine (like_ofHandler entry.id _).bind ?_
    rintro ending _ rfl
    exact .keyless (a := .settle action actor entry.name ending) rfl fun r _ => .done rfl

/-- A request for a participant's service is alike under the other keys. -/
lemma like_participantService {id : ParticipantId} {key : Key} {kind : ServiceKind}
    (known : c.Known key) :
    (participantService id key kind : Thread M _).Like c Eq
      (participantService id (c.rename key) kind) := by
  refine .access (a := .ownService id key kind) (by rintro k ⟨⟩; exact known) fun r _ => ?_
  match r with
  | .error e => exact .done rfl
  | .ok (some s) => exact .done rfl
  | .ok none => exact .keyless (a := .globalService kind) rfl fun r _ => .done rfl

section Generated

variable (generated : ∀ m t, generate m = some t → t.Like c Eq t)

include generated

/-- A registration is alike but for the key that it issues. -/
lemma like_register (id : ParticipantId) (name : String) :
    (register generate id name).Like c (c.Replies (M := M) (.register id name))
      (register generate id name) := by
  refine .keyless (a := .checkAbsent id) rfl fun r _ => ?_
  cases r with
  | error e => exact .done ⟨rfl, nofun⟩
  | ok u =>
    simp only [Rekeying.answer]
    cases made : generate ⟨id, name⟩ with
    | none => exact .done ⟨rfl, nofun⟩
    | some generation =>
      refine (generated _ generation made).bind ?_
      rintro services _ rfl
      refine .keyless (a := .enrol ⟨id, name⟩ services) rfl fun r issued => .done ⟨rfl, ?_⟩
      cases r with
      | error e => nofun
      | ok admission =>
        rintro a same
        obtain rfl : admission = a := Option.some.inj same
        exact issued admission.key rfl

/-- A renewal is alike under the other keys. -/
lemma like_regenerate {id : ParticipantId} {key : Key} (known : c.Known key) :
    (regenerate generate id key).Like c Eq (regenerate generate id (c.rename key)) := by
  refine .access (a := .tenant id key) (by rintro k ⟨⟩; exact known) fun r _ => ?_
  cases r with
  | error e => exact .done rfl
  | ok name =>
    refine .keyless (a := .memberLine id) rfl fun line _ => ?_
    simp only [Rekeying.answer]
    cases made : generate (Option.getD line ⟨id, name⟩) with
    | none => exact .done rfl
    | some generation =>
      refine (generated _ generation made).bind ?_
      rintro services _ rfl
      exact .access (a := .install id key services) (by rintro k ⟨⟩; exact known)
        fun r _ => .done rfl

/-- A request is served like the request that presents the other key. -/
theorem like_serve {q : Request M} (known : ∀ k ∈ q.key?, c.Known k) :
    (serve generate q).Like c (c.Replies q) (serve generate (c.request q)) := by
  cases q with
  | register id name => exact like_register generated id name
  | act action actor key =>
    exact (like_act (known key rfl)).mono fun _ _ same => ⟨same.symm, nofun⟩
  | regenerate id key =>
    exact (like_regenerate generated (known key rfl)).mono fun _ _ same => ⟨same.symm, nofun⟩
  | participantService id key kind =>
    exact (like_participantService (known key rfl)).mono fun _ _ same => ⟨same.symm, nofun⟩
  | deregister id key =>
    exact .access (a := .deregister id key) known fun _ _ => .done ⟨rfl, nofun⟩
  | isCurrent id key =>
    exact .access (a := .isCurrent id key) known fun _ _ => .done ⟨rfl, nofun⟩
  | _ => exact .keyless rfl fun _ _ => .done ⟨rfl, nofun⟩

end Generated

/-- Programs that are alike are served alike if requests are. -/
lemma like_ofProgram {R : α → β → Prop} {serve : (q : Request M) → Thread M q.Reply}
    (served : ∀ q, (∀ k ∈ q.key?, c.Known k) →
      (serve q).Like c (c.Replies q) (serve (c.request q)))
    {p : Program M α} {p' : Program M β} (h : p.Like c R p') :
    (ofProgram serve p).Like c R (ofProgram serve p') := by
  induction h with
  | done related => exact .done related
  | @ask q next next' known _ ih =>
    refine (served q known).bind ?_
    rintro r _ ⟨rfl, issued⟩
    exact ih r issued

/-- Blind generators generate alike. -/
lemma like_generation {serve : (q : Request M) → Thread M q.Reply}
    (served : ∀ q, (∀ k ∈ q.key?, c.Known k) →
      (serve q).Like c (c.Replies q) (serve (c.request q)))
    {gs : List (Generator M)} (blind : ∀ g ∈ gs, g.Blind) (member : Member)
    (services : ServiceSet) :
    (generation serve member gs services).Like c Eq (generation serve member gs services) := by
  induction gs generalizing services with
  | nil => exact .done rfl
  | cons g rest ih =>
    obtain ⟨first, others⟩ := List.forall_mem_cons.1 blind
    refine (like_ofProgram served (first c member services)).bind ?_
    rintro services _ rfl
    exact ih others services

/-- So is it at every level of nesting, as long as generators are blind. -/
theorem like_ofRequest {gs : List (Generator M)} (blind : ∀ g ∈ gs, g.Blind) (levels : Nat)
    {q : Request M} (known : ∀ k ∈ q.key?, c.Known k) :
    (ofRequest gs levels q).Like c (c.Replies q) (ofRequest gs levels (c.request q)) := by
  induction levels generalizing q with
  | zero => exact like_serve (fun _ _ made => by cases made) known
  | succ levels ih =>
    refine like_serve (fun member t made => ?_) known
    obtain rfl := Option.some.inj made
    exact like_generation (fun q known => ih known) blind member {}

end Thread

/-! ## Worlds -/

namespace World

variable {w : World M}

/-- Programs that are like each other do the same to a world and to the world under the other keys.
-/
theorem perform_like (blind : ∀ g ∈ w.generators, g.Blind) (fits : c.Fits w.environment)
    {R : α → β → Prop} {p : Program M α} {p' : Program M β} (h : p.Like c R p') :
    R (w.perform p).1 ((c.world w).perform p').1 ∧
      ((c.world w).perform p').2 = c.world (w.perform p).2 ∧
      c.Fits (w.perform p).2.environment :=
  (Thread.like_ofProgram (fun _ known => Thread.like_ofRequest blind _ known) h).run fits

/-- A request with the other key is answered as the request itself, but for a key issued. -/
theorem call_like (blind : ∀ g ∈ w.generators, g.Blind) (fits : c.Fits w.environment)
    {q : Request M} (known : ∀ k ∈ q.key?, c.Known k) :
    ((c.world w).call (c.request q)).1 = c.reply q (w.call q).1 ∧
      (∀ a ∈ q.admission? (w.call q).1, c.Known a.key) ∧
      ((c.world w).call (c.request q)).2 = c.world (w.call q).2 ∧
      c.Fits (w.call q).2.environment := by
  have like : (Program.request q).Like c (c.Replies q) (.request (c.request q)) :=
    .ask known fun _ issued => .done ⟨rfl, issued⟩
  obtain ⟨⟨reply, issued⟩, after, fits'⟩ := perform_like blind fits like
  exact ⟨reply, issued, after, fits'⟩

end World
end Cadence
