import Cadence.Proofs.Likeness
import Cadence.Proofs.Perform

/-!
# Keys leak nowhere

Whoever uses an environment makes requests, opens and closes the window, and looks at debug texts
(`Operation`). When the same is done twice, with keys from two supplies, and the second time always
the key is presented that was issued in place of the one presented the first time, then both times
the same is told, but for the keys that are issued (`keys_leak_nowhere`). So neither an answer nor a
text, neither the statistics nor any other part of the environment depends on what the keys are.
-/

namespace Cadence

variable {M : Type} {c : Rekeying}

/-! ## Operations -/

/-- A world, with the answers to the registrations that have succeeded, and the handles made of
them. -/
structure Desk (M : Type) where
  world : World M
  admissions : List Admission := []
  handles : List Handle := []

/-- What is done with an environment, or with what has been got from it. Admissions and handles are
given by their numbers. -/
inductive Operation (M : Type) where
  | call (q : Request M)
  /-- Make the services of a handle anew. -/
  | renew (number : Nat)
  | openTick (tick : UInt64)
  | closeTick
  /-- Look at the debug text of the environment. -/
  | showEnvironment
  | showAdmission (number : Nat)
  | showHandle (number : Nat)
  | showKey (key : Key)

/-- What is told of an operation. -/
inductive Told (M : Type) where
  | replied (q : Request M) (r : q.Reply)
  | renewed (r : Except EnvironmentError ServiceSet)
  | opened
  | closed (stats : ActionStats)
  | shown (text : String)
  /-- There is no admission or handle of the number. -/
  | nothing

/-- The key that an operation presents or shows. -/
def Operation.key? : Operation M → Option Key
  | call q => q.key?
  | showKey key => some key
  | _ => none

namespace Desk

/-- Take the answer to a registration, and make a handle of it. -/
def receive (d : Desk M) (a : Option Admission) : Desk M :=
  { d with
    admissions := d.admissions ++ a.toList
    handles := d.handles ++ a.toList.map .ofAdmission }

/-- Carry out an operation: what is told of it, and the desk after it. -/
def carryOut (d : Desk M) : Operation M → Told M × Desk M
  | .call q =>
    (.replied q (d.world.call q).1,
      { d with world := (d.world.call q).2 }.receive (q.admission? (d.world.call q).1))
  | .renew n =>
    match d.handles[n]? with
    | none => (.nothing, d)
    | some h =>
      (.renewed (d.world.perform h.regenerate).1.1,
        { d with
          world := (d.world.perform h.regenerate).2
          handles := d.handles.set n (d.world.perform h.regenerate).1.2 })
  | .openTick tick => (.opened, { d with world := d.world.openTick tick })
  | .closeTick => (.closed d.world.closeTick.1, { d with world := d.world.closeTick.2 })
  | .showEnvironment => (.shown d.world.environment.debugText, d)
  | .showAdmission n => ((d.admissions[n]?.map fun a => .shown a.debugText).getD .nothing, d)
  | .showHandle n =>
    ((d.handles[n]?.map fun h => .shown (h.debugText d.world.environment)).getD .nothing, d)
  | .showKey key => (.shown key.debugText, d)

/-- Carry out operations one after another. -/
def carryOutAll : List (Operation M) → Desk M → List (Told M) × Desk M
  | [], d => ([], d)
  | op :: rest, d =>
    let (told, d) := d.carryOut op
    let (others, d) := carryOutAll rest d
    (told :: others, d)

end Desk

/-! ## Operations under other keys -/

namespace Rekeying

variable (c)

/-- An operation that presents the other key. -/
def operation : Operation M → Operation M
  | .call q => .call (c.request q)
  | .renew n => .renew n
  | .openTick tick => .openTick tick
  | .closeTick => .closeTick
  | .showEnvironment => .showEnvironment
  | .showAdmission n => .showAdmission n
  | .showHandle n => .showHandle n
  | .showKey key => .showKey (c.rename key)

/-- What is told, with the other keys in it: only replies to registrations have keys. -/
def told : Told M → Told M
  | .replied q r => .replied (c.request q) (c.reply q r)
  | .renewed r => .renewed r
  | .opened => .opened
  | .closed stats => .closed stats
  | .shown text => .shown text
  | .nothing => .nothing

/-- A desk under the other keys. -/
def desk (d : Desk M) : Desk M where
  world := c.world d.world
  admissions := d.admissions.map c.admission
  handles := d.handles.map c.handle

end Rekeying

/-- A desk whose keys are all from the first supply, with generators that are blind. -/
structure Desk.Fits (c : Rekeying) (d : Desk M) : Prop where
  environment : c.Fits d.world.environment
  blind : ∀ g ∈ d.world.generators, g.Blind
  handles : ∀ h ∈ d.handles, c.Known h.key

namespace Rekeying

/-- Opening a tick issues no keys. -/
lemma Fits.openTick {e : Environment} (h : c.Fits e) (tick : UInt64) : c.Fits (e.openTick tick) :=
  ⟨h.agrees.of_eq rfl rfl rfl rfl, h.supply⟩

/-- Closing a tick issues no keys. -/
lemma Fits.closeTick {e : Environment} (h : c.Fits e) : c.Fits e.closeTick.2 :=
  ⟨h.agrees.of_eq rfl rfl rfl rfl, h.supply⟩

/-- A reply admits whom the reply with the other key in it admits. -/
lemma admission?_reply (q : Request M) (r : q.Reply) :
    (c.request q).admission? (c.reply q r) = (q.admission? r).map c.admission := by
  cases q with
  | register id name => cases r <;> rfl
  | _ => rfl

/-- A handle with the other key makes its services anew alike. -/
lemma like_regenerate {h : Handle} (known : c.Known h.key) :
    (h.regenerate : Program M _).Like c
      (fun a b => b = (a.1, c.handle a.2) ∧ a.2.key = h.key) (c.handle h).regenerate := by
  refine .ask (q := .regenerate h.id h.key) (by rintro k ⟨⟩; exact known) fun r _ => ?_
  cases r with
  | error e => exact .done ⟨rfl, rfl⟩
  | ok services => exact .done ⟨rfl, rfl⟩

end Rekeying

namespace Desk

open Rekeying

/-- A desk may receive a handle whose key has been issued. -/
lemma Fits.receive {d : Desk M} (h : d.Fits c) {a : Option Admission}
    (issued : ∀ a' ∈ a, c.Known a'.key) : (d.receive a).Fits c := by
  refine ⟨h.environment, h.blind, fun h' mem => ?_⟩
  rcases List.mem_append.1 mem with old | new
  · exact h.handles h' old
  · obtain ⟨a', inside, rfl⟩ := List.mem_map.1 new
    exact issued a' (Option.mem_toList.1 inside)

/-- Under the other keys the desk receives the handle with the other key. -/
lemma receive_desk (d : Desk M) (a : Option Admission) :
    (c.desk d).receive (a.map c.admission) = c.desk (d.receive a) := by
  cases a with
  | none => simp [receive, desk]
  | some a => simp [receive, desk, handle, Handle.ofAdmission, admission]

/-- An operation under the other keys comes to the same, under the other keys. -/
theorem Fits.carryOut {d : Desk M} (h : d.Fits c) {op : Operation M}
    (known : ∀ k ∈ op.key?, c.Known k) :
    (c.desk d).carryOut (c.operation op) = (c.told (d.carryOut op).1, c.desk (d.carryOut op).2) ∧
      (d.carryOut op).2.Fits c := by
  cases op with
  | call q =>
    obtain ⟨reply, issued, after, fits⟩ := World.call_like h.blind h.environment known
    have alike := (World.perform_reaches d.world (.request q)).alike
    have fits' : Desk.Fits c { d with world := (d.world.call q).2 } :=
      ⟨fits, fun g mem => h.blind g (alike.generators ▸ mem), h.handles⟩
    refine ⟨?_, fits'.receive issued⟩
    rw [operation, Desk.carryOut, Desk.carryOut, told, ← receive_desk, ← admission?_reply, ← reply]
    simp only [desk, after]
  | renew n =>
    rw [operation, Desk.carryOut, Desk.carryOut, desk, List.getElem?_map]
    cases held : d.handles[n]? with
    | none => exact ⟨rfl, h⟩
    | some handle =>
      have mem := List.mem_of_getElem? held
      have alike := (World.perform_reaches d.world handle.regenerate).alike
      obtain ⟨⟨result, key⟩, after, fits⟩ := World.perform_like h.blind h.environment
        (like_regenerate (h.handles handle mem))
      refine ⟨?_, fits, fun g mem => h.blind g (alike.generators ▸ mem), fun h' mem' => ?_⟩
      · simp only [Option.map_some, result, after, told, desk, List.map_set]
      · rcases List.mem_or_eq_of_mem_set mem' with old | rfl
        · exact h.handles h' old
        · rw [key]
          exact h.handles handle mem
  | openTick tick => exact ⟨rfl, h.environment.openTick tick, h.blind, h.handles⟩
  | closeTick => exact ⟨rfl, h.environment.closeTick, h.blind, h.handles⟩
  | showEnvironment => exact ⟨rfl, h⟩
  | showAdmission n =>
    refine ⟨?_, h⟩
    rw [operation, Desk.carryOut, Desk.carryOut, desk, List.getElem?_map]
    cases d.admissions[n]? <;> rfl
  | showHandle n =>
    refine ⟨?_, h⟩
    rw [operation, Desk.carryOut, Desk.carryOut, desk, List.getElem?_map]
    cases d.handles[n]? <;> rfl
  | showKey key => exact ⟨rfl, h⟩

/-- So do operations one after another. -/
theorem Fits.carryOutAll {d : Desk M} (h : d.Fits c) {ops : List (Operation M)}
    (known : ∀ op ∈ ops, ∀ k ∈ op.key?, c.Known k) :
    (c.desk d).carryOutAll (ops.map c.operation) =
      ((d.carryOutAll ops).1.map c.told, c.desk (d.carryOutAll ops).2) := by
  induction ops generalizing d with
  | nil => rfl
  | cons op rest ih =>
    obtain ⟨first, later⟩ := List.forall_mem_cons.1 known
    obtain ⟨step, fits⟩ := h.carryOut first
    rw [List.map_cons, Desk.carryOutAll, Desk.carryOutAll, step]
    dsimp only
    rw [ih fits later]
    rfl

end Desk

/-- Keys leak nowhere. Let the same operations be carried out twice from the time before anybody
joins, with keys from two supplies of which neither draws a key twice, and let the second run
present, wherever the first presents a key, the one that is drawn in its place. Generators are
blind. Then the second run is told what the first is told, and leaves what the first leaves, but
that other keys are issued: replies, errors, statistics and debug texts are the same, and so are
members, services and shared state. -/
theorem keys_leak_nowhere (x : Setting M) (supply : KeySupply)
    (distinct : Function.Injective x.supply.draw) (distinct' : Function.Injective supply.draw)
    (blind : ∀ g ∈ x.generators, g.Blind) :
    ∃ c : Rekeying, c.source = x.supply ∧ c.target = supply ∧
      ∀ ops : List (Operation M), (∀ op ∈ ops, ∀ k ∈ op.key?, ∃ n, k = x.supply.draw n) →
        let first := Desk.carryOutAll ops ⟨x.world, [], []⟩
        let second := Desk.carryOutAll (ops.map c.operation)
          ⟨{ x with supply := supply }.world, [], []⟩
        second.1 = first.1.map c.told ∧ second.2 = c.desk first.2 := by
  obtain ⟨c, source, rfl⟩ := Rekeying.exists_between distinct distinct'
  refine ⟨c, source, rfl, fun ops known => ?_⟩
  have fits : Desk.Fits c (⟨x.world, [], []⟩ : Desk M) :=
    ⟨⟨⟨rfl, .nil, .nil, .nil⟩, source.symm⟩, blind, nofun⟩
  rw [← source] at known
  exact Prod.ext_iff.1 (fits.carryOutAll known)

/-! ## A generator that uses a key -/

/-- The supply of even tokens, from two on. -/
def KeySupply.even : KeySupply where
  draw n := ⟨2 * n + 2⟩
  patience taken _ := greatest taken + 1
  fresh taken n := ⟨greatest taken, Nat.lt_succ_self _, fun h => by
    have := token_le_greatest h
    simp only at this
    omega⟩

/-- The even keys differ from one another. -/
lemma KeySupply.even_injective : Function.Injective KeySupply.even.draw := by
  intro n m h
  have same : 2 * n + 2 = 2 * m + 2 := congrArg Key.token h
  omega

/-- A generator that registers a companion and, with the key of the companion, removes it. -/
def companion : Generator Unit := fun member services =>
  .ask (.register ⟨member.id.value + 1⟩ "companion") fun
    | .error _ => .done services
    | .ok a => .ask (.deregister a.participant a.key) fun _ => .done services

/-- The companion is shown no key. -/
lemma companion_blind : companion.Blind := by
  intro c member services
  refine .ask (q := .register ⟨member.id.value + 1⟩ "companion") nofun fun r issued => ?_
  cases r with
  | error e => exact .done rfl
  | ok a =>
    refine .ask (q := .deregister a.participant a.key) ?_ fun _ _ => .done rfl
    rintro k ⟨⟩
    exact issued a rfl

/-- An environment with that generator and no handlers. -/
def accompanied : Setting Unit where
  registry := {}
  services := {}
  supply := .counting
  generators := [companion]
  nesting := 1
  database := {}
  operator := {}
  memory := ()

/-- A participant joins, looks at its handle and leaves with a key. -/
def visit (key : Key) : List (Operation Unit) :=
  [.call (.register ⟨7⟩ "alice"), .showHandle 0, .call (.deregister ⟨7⟩ key)]

/-- The companion is issued the first key and the participant the second one, with either supply. -/
theorem keys_leak_nowhere_accompanied :
    Function.Injective accompanied.supply.draw ∧ Function.Injective KeySupply.even.draw ∧
      (∀ g ∈ accompanied.generators, g.Blind) ∧
      ∃ c : Rekeying, c.source = accompanied.supply ∧ c.target = .even ∧
        (visit ⟨2⟩).map c.operation = visit ⟨4⟩ ∧
        let first := Desk.carryOutAll (visit ⟨2⟩) ⟨accompanied.world, [], []⟩
        let second := Desk.carryOutAll (visit ⟨4⟩)
          ⟨{ accompanied with supply := .even }.world, [], []⟩
        second.1[2]? = some (.replied (.deregister ⟨7⟩ ⟨4⟩) (.ok ())) ∧
          second.1 = first.1.map c.told ∧ second.2 = c.desk first.2 := by
  have distinct : Function.Injective accompanied.supply.draw :=
    fun _ _ => KeySupply.counting_injective
  have blind : ∀ g ∈ accompanied.generators, g.Blind :=
    List.forall_mem_singleton.2 companion_blind
  refine ⟨distinct, KeySupply.even_injective, blind, ?_⟩
  obtain ⟨c, source, target, same⟩ :=
    keys_leak_nowhere accompanied .even distinct KeySupply.even_injective blind
  have renamed : c.rename ⟨2⟩ = ⟨4⟩ := by
    have second := c.rename_draw 1
    rw [source, target] at second
    exact second
  have ops : (visit ⟨2⟩).map c.operation = visit ⟨4⟩ := by
    simp [visit, Rekeying.operation, Rekeying.request, renamed]
  have known : ∀ op ∈ visit ⟨2⟩, ∀ k ∈ op.key?, ∃ n, k = accompanied.supply.draw n := by
    simp only [visit, List.forall_mem_cons]
    refine ⟨nofun, nofun, ?_, fun _ mem => absurd mem List.not_mem_nil⟩
    rintro k ⟨⟩
    exact ⟨1, rfl⟩
  have told := same (visit ⟨2⟩) known
  rw [ops] at told
  exact ⟨c, source, target, ops, rfl, told⟩

end Cadence
