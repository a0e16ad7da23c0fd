import Cadence.Proofs.Log
import Mathlib.Data.List.Forall2

/-!
# Deeds

A deed is an access together with the world in which it is made. The deeds of a thread that nothing
interrupts lead from the world in which it starts to the one that it leaves (`Thread.deeds_along`).
Of threads side by side the deeds of each are a complete path through it, whatever the others do in
between, and together they are all that is done (`World.interleave_ways`). The world that deeds
leave, the action window aside, depends on nothing but the accesses (`World.Along.content_eq`), so
every access sees what all before it have done.
-/

namespace Cadence

variable {M α β : Type}

/-- An access, and the world in which it is made. -/
structure Deed (M : Type) where
  access : Access M
  world : World M

namespace Deed

/-- What the world answers. -/
def reply (d : Deed M) : d.access.Reply := (d.access.apply d.world).1

/-- The world after it. -/
def after (d : Deed M) : World M := (d.access.apply d.world).2

/-- The access with its reply. -/
def performed (d : Deed M) : Performed M := ⟨d.access, d.reply⟩

end Deed

/-! ## Deeds that follow one another -/

namespace World

/-- Deeds that follow one another lead from a world to another. -/
def Along : World M → List (Deed M) → World M → Prop
  | w, [], w' => w = w'
  | w, d :: rest, w' => d.world = w ∧ d.after.Along rest w'

variable {w w' w'' : World M} {ds ds' : List (Deed M)}

/-- Deeds that lead on from where others end follow those. -/
lemma Along.append (h : w.Along ds w') (h' : w'.Along ds' w'') : w.Along (ds ++ ds') w'' := by
  induction ds generalizing w with
  | nil =>
    obtain rfl : w = w' := h
    exact h'
  | cons d rest ih => exact ⟨h.1, ih h.2⟩

/-- Deeds lead to some world in the middle, and from there on. -/
lemma Along.split (h : w.Along (ds ++ ds') w'') : ∃ w', w.Along ds w' ∧ w'.Along ds' w'' := by
  induction ds generalizing w with
  | nil => exact ⟨w, rfl, h⟩
  | cons d rest ih =>
    obtain ⟨w', before, after⟩ := ih h.2
    exact ⟨w', ⟨h.1, before⟩, after⟩

/-- What deeds leave is reached by accesses. -/
lemma Along.reaches (h : w.Along ds w') : Reaches w w' := by
  induction ds generalizing w with
  | nil =>
    obtain rfl : w = w' := h
    exact .refl
  | cons d rest ih =>
    obtain ⟨rfl, rest⟩ := h
    exact (reaches_apply d.access d.world).trans (ih rest)

/-- So is the world of each of them. -/
lemma Along.reaches_of_mem (h : w.Along ds w') {d : Deed M} (mem : d ∈ ds) : Reaches w d.world := by
  induction ds generalizing w with
  | nil => cases mem
  | cons d' rest ih =>
    obtain ⟨rfl, rest⟩ := h
    cases mem with
    | head => exact .refl
    | tail _ later => exact (reaches_apply d'.access d'.world).trans (ih rest later)

/-- What every access changes as its reply tells, deeds change as they tell. -/
lemma Along.foldl {S : Type} {f : World M → S} {g : S → Performed M → S}
    (step : ∀ (a : Access M) w, f (a.apply w).2 = g (f w) ⟨a, (a.apply w).1⟩)
    (h : w.Along ds w') : f w' = (ds.map Deed.performed).foldl g (f w) := by
  induction ds generalizing w with
  | nil =>
    obtain rfl : w = w' := h
    rfl
  | cons d rest ih =>
    obtain ⟨rfl, rest⟩ := h
    have first : f d.after = g (f d.world) d.performed := step d.access d.world
    rw [ih rest, first, List.map_cons, List.foldl_cons]

/-- What every deed respects, deeds that follow one another respect as a whole. -/
lemma Along.lift {R : World M → World M → Prop} (h : w.Along ds w') (refl : ∀ w, R w w)
    (trans : ∀ {a b c}, R a b → R b c → R a c) (step : ∀ d ∈ ds, R d.world d.after) : R w w' := by
  induction ds generalizing w with
  | nil =>
    obtain rfl : w = w' := h
    exact refl w
  | cons d rest ih =>
    obtain ⟨rfl, rest⟩ := h
    exact trans (step d List.mem_cons_self) (ih rest fun d' mem => step d' (.tail d mem))

end World

/-! ## Deeds of threads -/

namespace Thread

/-- What a thread does when nothing interrupts it. -/
def deeds : Thread M α → World M → List (Deed M)
  | done _, _ => []
  | access a next, w => ⟨a, w⟩ :: (next (a.apply w).1).deeds (a.apply w).2

/-- The first deed of a thread, if there is one. -/
def firstDeed : Thread M α → World M → List (Deed M)
  | done _, _ => []
  | access a _, w => [⟨a, w⟩]

/-- The thread can do the deeds one after another, others coming in between, and end with the
result. -/
inductive Follows : Thread M α → List (Deed M) → α → Prop where
  | done (a : α) : Follows (.done a) [] a
  | access {a : Access M} {next : a.Reply → Thread M α} (w : World M) {ds : List (Deed M)} {r : α}
      (rest : Follows (next (a.apply w).1) ds r) : Follows (.access a next) (⟨a, w⟩ :: ds) r

/-- What a thread does leads to the world that it leaves. -/
theorem deeds_along (t : Thread M α) (w : World M) : w.Along (t.deeds w) (t.run w).2 := by
  induction t generalizing w with
  | done a => exact rfl
  | access a next ih => exact ⟨rfl, ih _ _⟩

/-- A thread that goes on does what it does at first and then the rest. -/
lemma deeds_bind (t : Thread M α) (f : α → Thread M β) (w : World M) :
    (t.bind f).deeds w = t.deeds w ++ (f (t.run w).1).deeds (t.run w).2 := by
  induction t generalizing w with
  | done a => rfl
  | access a next ih =>
    rw [bind, deeds, ih, deeds, List.cons_append]
    rfl

/-- The first deed leads to where the first step leads. -/
lemma firstDeed_along (t : Thread M α) (w : World M) : w.Along (t.firstDeed w) (t.step w).2 := by
  cases t with
  | done a => exact rfl
  | access a next => exact ⟨rfl, rfl⟩

/-- A thread that nothing interrupts follows what it does. -/
theorem follows_deeds (t : Thread M α) (w : World M) : t.Follows (t.deeds w) (t.run w).1 := by
  induction t generalizing w with
  | done a => exact .done a
  | access a next ih => exact .access w (ih _ _)

/-- What a thread does after its first step, it does after its first deed. -/
lemma Follows.of_step {t : Thread M α} {w : World M} {ds : List (Deed M)} {r : α}
    (h : (t.step w).1.Follows ds r) : t.Follows (t.firstDeed w ++ ds) r := by
  cases t with
  | done a => exact h
  | access a next => exact .access w h

/-- A thread follows its first access with the world in which it is made. -/
lemma Follows.of_access {a : Access M} {next : a.Reply → Thread M α} {ds : List (Deed M)} {r : α}
    (h : (Thread.access a next).Follows ds r) :
    ∃ w rest, ds = ⟨a, w⟩ :: rest ∧ (next (a.apply w).1).Follows rest r := by
  cases h with
  | access w rest => exact ⟨w, _, rfl, rest⟩

/-- A thread that is done follows nothing more. -/
lemma Follows.of_done {a r : α} {ds : List (Deed M)} (h : (Thread.done a).Follows ds r) :
    ds = [] ∧ a = r := by
  cases h
  exact ⟨rfl, rfl⟩

/-- A thread that goes on follows what it does at first, to some end, and then what goes on from
that end. -/
lemma Follows.of_bind {t : Thread M α} {f : α → Thread M β} {ds : List (Deed M)} {r : β}
    (h : (t.bind f).Follows ds r) :
    ∃ before a after, ds = before ++ after ∧ t.Follows before a ∧ (f a).Follows after r := by
  induction t generalizing ds with
  | done a => exact ⟨[], a, ds, rfl, .done a, h⟩
  | access a next ih =>
    cases h with
    | access w rest =>
      obtain ⟨before, b, after, rfl, first, second⟩ := ih _ rest
      exact ⟨_, b, after, rfl, .access w first, second⟩

end Thread

namespace World

/-- What threads do one after another. -/
def deedsOfAll : List (Thread M α) → World M → List (Deed M)
  | [], _ => []
  | t :: rest, w => t.deeds w ++ deedsOfAll rest (t.run w).2

/-- What threads do side by side. -/
def deedsSideBySide : List Nat → List (Thread M α) → World M → List (Deed M)
  | [], threads, w => deedsOfAll threads w
  | i :: rest, threads, w =>
    match threads[i]? with
    | none => deedsSideBySide rest threads w
    | some t => t.firstDeed w ++ deedsSideBySide rest (threads.set i (t.step w).1) (t.step w).2

/-- What threads do one after another leads to the world that they leave. -/
theorem deedsOfAll_along (threads : List (Thread M α)) (w : World M) :
    w.Along (deedsOfAll threads w) (runAll threads w).2 := by
  induction threads generalizing w with
  | nil => exact rfl
  | cons t rest ih => exact (t.deeds_along w).append (ih _)

/-- So does what they do side by side. -/
theorem deedsSideBySide_along (schedule : List Nat) (threads : List (Thread M α)) (w : World M) :
    w.Along (deedsSideBySide schedule threads w) (interleave schedule threads w).2 := by
  induction schedule generalizing threads w with
  | nil => exact deedsOfAll_along threads w
  | cons i rest ih =>
    rw [deedsSideBySide, interleave]
    cases threads[i]? with
    | none => exact ih threads w
    | some t => exact (t.firstDeed_along w).append (ih _ _)

/-- Ways of threads, each of them deeds and a result. Every thread can go its way, the results are
those of the ways, and all that is done is what is done on them, on each in its order. -/
structure Ways (threads : List (Thread M α)) (ds : List (Deed M)) (results : List α)
    (ways : List (List (Deed M) × α)) : Prop where
  follow : List.Forall₂ (fun t way => t.Follows way.1 way.2) threads ways
  results_eq : ways.map Prod.snd = results
  perm : ds.Perm (ways.flatMap Prod.fst)
  sub : ∀ way ∈ ways, way.1.Sublist ds

namespace Ways

variable {threads : List (Thread M α)} {ds : List (Deed M)} {results : List α} {t : Thread M α}
  {ways : List (List (Deed M) × α)}

/-- One more thread that goes its way before all others. -/
lemma cons (h : Ways threads ds results ways) {path : List (Deed M)} {r : α}
    (follows : t.Follows path r) :
    Ways (t :: threads) (path ++ ds) (r :: results) ((path, r) :: ways) where
  follow := .cons follows h.follow
  results_eq := congrArg (r :: ·) h.results_eq
  perm := h.perm.append_left _
  sub := List.forall_mem_cons.2 ⟨List.sublist_append_left _ _, fun way mem =>
    (h.sub way mem).trans (List.sublist_append_right _ _)⟩

/-- Threads of which one has made its first step go their ways from before it: that one makes the
step first. -/
lemma of_set {i : Nat} {w : World M} (at_i : threads[i]? = some t)
    (h : Ways (threads.set i (t.step w).1) ds results ways) :
    ∃ ways', Ways threads (t.firstDeed w ++ ds) results ways' := by
  obtain ⟨follow, rfl, perm, sub⟩ := h
  suffices wider : ∃ ways', List.Forall₂ (fun t way => t.Follows way.1 way.2) threads ways' ∧
      ways'.map Prod.snd = ways.map Prod.snd ∧
      (t.firstDeed w ++ ways.flatMap Prod.fst).Perm (ways'.flatMap Prod.fst) ∧
      ∀ way' ∈ ways', ∃ way ∈ ways, way'.1.Sublist (t.firstDeed w ++ way.1) by
    obtain ⟨ways', follow', results', perm', sub'⟩ := wider
    refine ⟨ways', follow', results', (perm.append_left _).trans perm', fun way' mem' => ?_⟩
    obtain ⟨way, mem, within⟩ := sub' way' mem'
    exact within.trans ((sub way mem).append_left _)
  clear perm sub
  induction threads generalizing i ways with
  | nil => cases at_i
  | cons u rest ih =>
    cases i with
    | zero =>
      obtain rfl : u = t := Option.some.inj at_i
      cases follow with
      | @cons _ way _ ways head tail =>
        refine ⟨(u.firstDeed w ++ way.1, way.2) :: ways, .cons head.of_step tail, rfl, ?_, ?_⟩
        · rw [List.flatMap_cons, List.flatMap_cons, List.append_assoc]
        · refine List.forall_mem_cons.2 ⟨⟨way, List.mem_cons_self, .refl _⟩, fun way' mem => ?_⟩
          exact ⟨way', .tail _ mem, List.sublist_append_right _ _⟩
    | succ i =>
      cases follow with
      | @cons _ way _ ways head tail =>
        obtain ⟨ways', follow', results', perm', sub'⟩ := ih at_i tail
        refine ⟨way :: ways', .cons head follow', congrArg (way.2 :: ·) results', ?_, ?_⟩
        · rw [List.flatMap_cons, List.flatMap_cons]
          exact (List.perm_append_comm_assoc _ _ _).trans (perm'.append_left way.1)
        · refine List.forall_mem_cons.2
            ⟨⟨way, List.mem_cons_self, List.sublist_append_right _ _⟩, fun way' mem' => ?_⟩
          obtain ⟨way, mem, within⟩ := sub' way' mem'
          exact ⟨way, .tail _ mem, within⟩

/-- A thread at a place goes the way at that place, to the result there. -/
lemma at_place (h : Ways threads ds results ways) {i : Nat} (at_i : threads[i]? = some t) :
    ∃ r path, results[i]? = some r ∧ t.Follows path r ∧ path.Sublist ds := by
  obtain ⟨follow, rfl, -, sub⟩ := h
  obtain ⟨inside, rfl⟩ := List.getElem?_eq_some_iff.1 at_i
  have inside' : i < ways.length := follow.length_eq ▸ inside
  refine ⟨ways[i].2, ways[i].1, ?_, follow.get inside inside', sub _ (List.getElem_mem inside')⟩
  rw [List.getElem?_map, List.getElem?_eq_getElem inside', Option.map_some]

end Ways

/-- Threads one after another go their ways one after another. -/
theorem runAll_ways (threads : List (Thread M α)) (w : World M) :
    ∃ ways, Ways threads (deedsOfAll threads w) (runAll threads w).1 ways ∧
      deedsOfAll threads w = ways.flatMap Prod.fst := by
  induction threads generalizing w with
  | nil => exact ⟨[], ⟨.nil, rfl, .refl _, nofun⟩, rfl⟩
  | cons t rest ih =>
    obtain ⟨ways, goes, all⟩ := ih (t.run w).2
    exact ⟨_, goes.cons (t.follows_deeds w), congrArg (t.deeds w ++ ·) all⟩

/-- Threads side by side go their ways whatever the schedule. -/
theorem interleave_ways (schedule : List Nat) (threads : List (Thread M α)) (w : World M) :
    ∃ ways, Ways threads (deedsSideBySide schedule threads w) (interleave schedule threads w).1
      ways := by
  induction schedule generalizing threads w with
  | nil =>
    obtain ⟨ways, goes, -⟩ := runAll_ways threads w
    exact ⟨ways, goes⟩
  | cons i rest ih =>
    rw [deedsSideBySide, interleave]
    cases at_i : threads[i]? with
    | none => exact ih threads w
    | some t =>
      obtain ⟨ways, goes⟩ := ih (threads.set i (t.step w).1) (t.step w).2
      exact goes.of_set at_i

end World

namespace World

/-- What a program does with nothing in between. -/
def deedsOf (w : World M) (p : Program M α) : List (Deed M) := (w.thread p).deeds w

/-- What a program does leads to the world that it leaves. -/
lemma deedsOf_along (w : World M) (p : Program M α) : w.Along (w.deedsOf p) (w.perform p).2 :=
  (w.thread p).deeds_along w

end World

/-! ## What accesses see -/

namespace World

/-- A world but for its action window. -/
def content (w : World M) : World M :=
  { w with environment := { w.environment with window := {} } }

/-- What accesses one after another make of the content of a world. -/
def replay (w : World M) (accesses : List (Access M)) : World M :=
  accesses.foldl (fun w a => (a.apply w).2.content) w.content

/-- A replay leaves no more than a content. -/
lemma content_replay (w : World M) (as : List (Access M)) :
    (w.replay as).content = w.replay as := by
  induction as generalizing w with
  | nil => rfl
  | cons a rest ih => exact ih (a.apply w.content).2

/-- Worlds of the same content replay alike. -/
lemma replay_congr {w w' : World M} (same : w'.content = w.content) (as : List (Access M)) :
    w'.replay as = w.replay as :=
  congrArg (List.foldl _ · as) same

/-- Accesses after others are replayed after them. -/
lemma replay_append (w : World M) (as bs : List (Access M)) :
    w.replay (as ++ bs) = (w.replay as).replay bs := by
  rw [replay, List.foldl_append, replay, content_replay]
  rfl

end World

/-- What an access does to the content of a world depends on the content alone, and so does its
reply as long as the action window is not closed. -/
lemma Access.apply_content (a : Access M) (w : World M) :
    (a.apply w.content).2.content = (a.apply w).2.content ∧
      (w.environment.window.phase ≠ .closed → (a.apply w.content).1 = (a.apply w).1) := by
  cases a with
  | route action actor key =>
    refine ⟨rfl, fun accepts => ?_⟩
    have same : w.content.environment.authorize = w.environment.authorize := rfl
    have passes : w.content.environment.window.check = w.environment.window.check := by
      rw [Window.check, Window.check, if_neg accepts]
      rfl
    simp only [apply, Environment.route, same, passes]
    rfl
  | settle action actor handler ending =>
    simp only [apply, World.inEnvironment, Environment.settle]
    rcases ending.result with reason | _ | _ <;> exact ⟨rfl, fun _ => rfl⟩
  | enrol member services =>
    have same : w.content.environment.checkAbsent = w.environment.checkAbsent := rfl
    simp only [apply, World.inEnvironment, Environment.enrol, same]
    cases w.environment.checkAbsent member.id <;> exact ⟨rfl, fun _ => rfl⟩
  | deregister id key =>
    have same : w.content.environment.authorize = w.environment.authorize := rfl
    simp only [apply, World.inEnvironment, Environment.deregister, same]
    cases w.environment.authorize id key <;> exact ⟨rfl, fun _ => rfl⟩
  | install id key services =>
    have same : w.content.environment.authorize = w.environment.authorize := rfl
    simp only [apply, World.inEnvironment, Environment.install, same]
    cases w.environment.authorize id key <;> exact ⟨rfl, fun _ => rfl⟩
  | _ => exact ⟨rfl, fun _ => rfl⟩

namespace World

variable {w w' : World M} {ds : List (Deed M)}

/-- The content of the world that deeds leave is what their accesses make of the content before. -/
theorem Along.content_eq (h : w.Along ds w') : w'.content = w.replay (ds.map Deed.access) := by
  induction ds generalizing w with
  | nil =>
    obtain rfl : w = w' := h
    rfl
  | cons d rest ih =>
    obtain ⟨rfl, rest⟩ := h
    rw [ih rest, List.map_cons, replay, replay, List.foldl_cons, (d.access.apply_content _).1]
    rfl

/-- What a deed sees is what the accesses before it have made of the world. -/
theorem Along.content_of_mem {before after : List (Deed M)} {d : Deed M}
    (h : w.Along (before ++ d :: after) w') :
    d.world.content = w.replay (before.map Deed.access) := by
  obtain ⟨w₁, first, rfl, -⟩ := h.split
  exact first.content_eq

end World

end Cadence
