import Cadence.Proofs.Answers
import Mathlib.Logic.Function.Basic

/-!
# Traffic through the action window

Any number of clients submit actions while a driver opens and closes the window. A client enters,
makes the accesses of its action one by one, and leaves with the answer; whoever is inside keeps the
driver waiting, for the window is opened and closed only when nobody is. `Traffic.follow` goes
through moves in any order, passing over those that cannot be made at the time, and tells what has
happened.

What has happened for an action is its course: it has entered, its thread has done deeds, and it has
left unless it is still inside (`Stands`). `Tracks` says so of all actions, from a moment on when
nobody is inside, and whatever happens next keeps it true (`Tracks.step`, `Tracks.runs`).
-/

namespace Cadence

variable {M α : Type}

/-! ## Moves -/

/-- An action as a client submits it. -/
structure Submission where
  action : Action
  actor : ParticipantId
  key : Key
  deriving DecidableEq, Repr

/-- What is done for an action that was submitted. -/
def Submission.thread (s : Submission) : Thread M (Except EnvironmentError ActionOutcome) :=
  .act s.action s.actor s.key

/-- An action inside the window: as it was submitted, and what is still to be done for it. -/
structure Dispatch (M : Type) where
  submission : Submission
  rest : Thread M (Except EnvironmentError ActionOutcome)

/-- A world with the actions that are inside its window. Actions are numbered as they enter. -/
structure Traffic (M : Type) where
  world : World M
  entered : Nat := 0
  inside : Nat → Option (Dispatch M) := fun _ => none

/-- A move of a client or of the driver. -/
inductive Move (M : Type) where
  /-- A client enters with an action. -/
  | enter (s : Submission)
  /-- An action inside makes its next access. -/
  | advance (number : Nat)
  /-- A client leaves with the answer to its action. -/
  | leave (number : Nat)
  /-- Somebody makes an access that is no part of an action. -/
  | aside (a : Access M)
  /-- The driver opens the window for a tick. -/
  | openTick (tick : UInt64)
  /-- The driver closes the window. -/
  | closeTick

/-- What happens when a move is made. -/
inductive Happening (M : Type) where
  | entered (number : Nat) (s : Submission)
  /-- An access was made, for an action or aside from all. -/
  | did (number : Option Nat) (d : Deed M)
  | left (number : Nat) (s : Submission) (answer : Except EnvironmentError ActionOutcome)
  | opened (tick : UInt64)
  | closed (stats : ActionStats)

namespace Traffic

/-- Whether nobody is inside the window. -/
def isClear (t : Traffic M) : Bool := (List.range t.entered).all fun n => (t.inside n).isNone

/-- Make a move, if it can be made: what happens, and the traffic after it. -/
def move (t : Traffic M) : Move M → List (Happening M) × Traffic M
  | .enter s =>
    ([.entered t.entered s], { t with
      entered := t.entered + 1
      inside := Function.update t.inside t.entered (some ⟨s, s.thread⟩) })
  | .advance n =>
    match t.inside n with
    | some ⟨s, .access a next⟩ =>
      ([.did (some n) ⟨a, t.world⟩], { t with
        world := (a.apply t.world).2
        inside := Function.update t.inside n (some ⟨s, next (a.apply t.world).1⟩) })
    | _ => ([], t)
  | .leave n =>
    match t.inside n with
    | some ⟨s, .done r⟩ => ([.left n s r], { t with inside := Function.update t.inside n none })
    | _ => ([], t)
  | .aside a =>
    if a.isPartOfAction then ([], t)
    else ([.did none ⟨a, t.world⟩], { t with world := (a.apply t.world).2 })
  | .openTick tick =>
    if t.isClear then ([.opened tick], { t with world := t.world.openTick tick }) else ([], t)
  | .closeTick =>
    if t.isClear then ([.closed t.world.closeTick.1], { t with world := t.world.closeTick.2 })
    else ([], t)

/-- Make moves one after another: all that happens, and the traffic after it. -/
def follow : List (Move M) → Traffic M → List (Happening M) × Traffic M
  | [], t => ([], t)
  | m :: rest, t =>
    let (first, t) := t.move m
    let (later, t) := follow rest t
    (first ++ later, t)

/-- What can happen, and what the traffic is then. -/
inductive Step (t : Traffic M) : Happening M → Traffic M → Prop where
  | enter (s : Submission) :
      Step t (.entered t.entered s) { t with
        entered := t.entered + 1
        inside := Function.update t.inside t.entered (some ⟨s, s.thread⟩) }
  | advance {n : Nat} {s : Submission} {a : Access M}
      {next : a.Reply → Thread M (Except EnvironmentError ActionOutcome)}
      (inside : t.inside n = some ⟨s, .access a next⟩) :
      Step t (.did (some n) ⟨a, t.world⟩) { t with
        world := (a.apply t.world).2
        inside := Function.update t.inside n (some ⟨s, next (a.apply t.world).1⟩) }
  | leave {n : Nat} {s : Submission} {r : Except EnvironmentError ActionOutcome}
      (inside : t.inside n = some ⟨s, .done r⟩) :
      Step t (.left n s r) { t with inside := Function.update t.inside n none }
  | aside {a : Access M} (apart : a.isPartOfAction = false) :
      Step t (.did none ⟨a, t.world⟩) { t with world := (a.apply t.world).2 }
  | openTick (clear : ∀ n < t.entered, t.inside n = none) (tick : UInt64) :
      Step t (.opened tick) { t with world := t.world.openTick tick }
  | closeTick (clear : ∀ n < t.entered, t.inside n = none) :
      Step t (.closed t.world.closeTick.1) { t with world := t.world.closeTick.2 }

/-- What can happen one after another. -/
inductive Runs : Traffic M → List (Happening M) → Traffic M → Prop where
  | nil {t : Traffic M} : Runs t [] t
  | cons {t t' t'' : Traffic M} {x : Happening M} {hs : List (Happening M)} (first : Step t x t')
      (rest : Runs t' hs t'') : Runs t (x :: hs) t''

/-- The gate is clear exactly if nobody of those who have entered is inside. -/
lemma isClear_iff {t : Traffic M} : t.isClear = true ↔ ∀ n < t.entered, t.inside n = none := by
  simp [isClear]

/-- A move is passed over, or what can happen does. -/
lemma move_cases (t : Traffic M) (m : Move M) :
    t.move m = ([], t) ∨ ∃ x t', t.move m = ([x], t') ∧ Step t x t' := by
  cases m with
  | enter s => exact .inr ⟨_, _, rfl, .enter s⟩
  | advance n =>
    rw [move]
    split
    · next inside => exact .inr ⟨_, _, rfl, .advance inside⟩
    · exact .inl rfl
  | leave n =>
    rw [move]
    split
    · next inside => exact .inr ⟨_, _, rfl, .leave inside⟩
    · exact .inl rfl
  | aside a =>
    rw [move]
    split
    · exact .inl rfl
    · next apart => exact .inr ⟨_, _, rfl, .aside (Bool.not_eq_true _ ▸ apart)⟩
  | openTick tick =>
    rw [move]
    split
    · next clear => exact .inr ⟨_, _, rfl, .openTick (isClear_iff.1 clear) tick⟩
    · exact .inl rfl
  | closeTick =>
    rw [move]
    split
    · next clear => exact .inr ⟨_, _, rfl, .closeTick (isClear_iff.1 clear)⟩
    · exact .inl rfl

/-- To follow moves is to run through what happens in them. -/
theorem follow_runs (moves : List (Move M)) (t : Traffic M) :
    Runs t (t.follow moves).1 (t.follow moves).2 := by
  induction moves generalizing t with
  | nil => exact .nil
  | cons m rest ih =>
    rw [follow]
    obtain waits | ⟨x, t', made, step⟩ := t.move_cases m
    · rw [waits]
      exact ih t
    · rw [made]
      exact .cons step (ih t')

/-- A run has a middle at every point of what happens in it. -/
lemma Runs.split {t t'' : Traffic M} {before after : List (Happening M)}
    (runs : Runs t (before ++ after) t'') : ∃ t', Runs t before t' ∧ Runs t' after t'' := by
  induction before generalizing t with
  | nil => exact ⟨t, .nil, runs⟩
  | cons x rest ih =>
    cases runs with
    | cons first runs =>
      obtain ⟨t', before, after⟩ := ih runs
      exact ⟨t', .cons first before, after⟩

end Traffic

/-! ## What happens for an action -/

namespace Thread

/-- The thread can do the deeds one after another, others coming in between, and has then the rest
to do. -/
inductive Leads : Thread M α → List (Deed M) → Thread M α → Prop where
  | refl (t : Thread M α) : Leads t [] t
  | access {a : Access M} {next : a.Reply → Thread M α} (w : World M) {ds : List (Deed M)}
      {rest : Thread M α} (goesOn : Leads (next (a.apply w).1) ds rest) :
      Leads (.access a next) (⟨a, w⟩ :: ds) rest

/-- A thread that leads to an access leads on by it. -/
lemma Leads.snoc {t : Thread M α} {ds : List (Deed M)} {a : Access M}
    {next : a.Reply → Thread M α} (h : t.Leads ds (.access a next)) (w : World M) :
    t.Leads (ds ++ [⟨a, w⟩]) (next (a.apply w).1) := by
  generalize left : Thread.access a next = rest at h
  induction h with
  | refl t =>
    subst left
    exact .access w (.refl _)
  | access w' goesOn ih => exact .access w' (ih left)

/-- A thread that leads to its end follows its deeds. -/
lemma Leads.follows {t : Thread M α} {ds : List (Deed M)} {r : α} (h : t.Leads ds (.done r)) :
    t.Follows ds r := by
  generalize left : Thread.done r = rest at h
  induction h with
  | refl t =>
    subst left
    exact .done r
  | access w goesOn ih => exact .access w (ih left)

/-- A thread that follows deeds leads to its end by them. -/
lemma Follows.leads {t : Thread M α} {ds : List (Deed M)} {r : α} (h : t.Follows ds r) :
    t.Leads ds (.done r) := by
  induction h with
  | done r => exact .refl _
  | access w rest ih => exact .access w ih

/-- A thread that leads anywhere has done nothing or its first access. -/
lemma Leads.of_access {a : Access M} {next : a.Reply → Thread M α} {ds : List (Deed M)}
    {rest : Thread M α} (h : (Thread.access a next).Leads ds rest) :
    ds = [] ∨ ∃ w after, ds = ⟨a, w⟩ :: after ∧ (next (a.apply w).1).Leads after rest := by
  cases h with
  | refl => exact .inl rfl
  | access w goesOn => exact .inr ⟨w, _, rfl, goesOn⟩

/-- An action in worlds whose window is closed is refused before anything is written. -/
lemma Leads.quiet {action : Action} {actor : ParticipantId} {key : Key} {ds : List (Deed M)}
    {rest : Thread M (Except EnvironmentError ActionOutcome)}
    (h : (act action actor key).Leads ds rest)
    (closed : ∀ d ∈ ds, d.world.environment.window.phase = .closed) :
    ∀ d ∈ ds, d.access.isWrite = false := by
  obtain rfl | ⟨w, ds, rfl, goesOn⟩ := h.of_access
  · exact fun _ mem => absurd mem List.not_mem_nil
  · obtain ⟨head, -⟩ := List.forall_mem_cons.1 closed
    obtain ⟨e, refused⟩ : ∃ e, w.environment.route action actor key = .error e := by
      by_cases current : w.environment.isCurrent actor key = true
      · exact ⟨_, Environment.route_of_closed head current action⟩
      · exact ⟨_, by rw [Environment.route, Environment.authorize, if_neg current]⟩
    refine List.forall_mem_cons.2 ⟨rfl, ?_⟩
    simp only [Access.apply, refused] at goesOn
    obtain rfl | ⟨w', ds, rfl, ends⟩ := goesOn.of_access
    · exact fun _ mem => absurd mem List.not_mem_nil
    · refine List.forall_mem_cons.2 ⟨rfl, ?_⟩
      cases ends
      exact fun _ mem => absurd mem List.not_mem_nil

end Thread

namespace Happening

/-- The number of the action for which it happens. -/
def number? : Happening M → Option Nat
  | entered n _ => some n
  | did number _ => number
  | left n _ _ => some n
  | opened _ => none
  | closed _ => none

/-- Whether it is the opening or the closing of the window. -/
def isGate : Happening M → Bool
  | opened _ => true
  | closed _ => true
  | _ => false

/-- The deed, if one is done. -/
def deed? : Happening M → Option (Deed M)
  | did _ d => some d
  | _ => none

/-- Who enters, with the number given. -/
def arrival? : Happening M → Option (Nat × Submission)
  | entered n s => some (n, s)
  | _ => none

/-- Who leaves, with the number given at the entry. -/
def departure? : Happening M → Option (Nat × Submission)
  | left n s _ => some (n, s)
  | _ => none

/-- The answer that is taken along. -/
def answer? : Happening M → Option Answered
  | left _ s r => some ⟨s.actor, s.action, r⟩
  | _ => none

end Happening

open Happening

/-- What happens for the action of a number. -/
def course (n : Nat) (hs : List (Happening M)) : List (Happening M) :=
  hs.filter fun x => x.number? = some n

/-- The deeds among what happens. -/
def deedsAmong (hs : List (Happening M)) : List (Deed M) := hs.filterMap deed?

/-- The course of an action from its entry to its leaving. -/
def wholeCourse (n : Nat) (s : Submission) (path : List (Deed M))
    (r : Except EnvironmentError ActionOutcome) : List (Happening M) :=
  entered n s :: path.map (did (some n)) ++ [left n s r]

/-- How what has happened for an action goes with its being inside. -/
inductive Stands (n : Nat) : List (Happening M) → Option (Dispatch M) → Prop where
  | outside : Stands n [] none
  | inside {s : Submission} {path : List (Deed M)}
      {rest : Thread M (Except EnvironmentError ActionOutcome)} (leads : s.thread.Leads path rest) :
      Stands n (entered n s :: path.map (did (some n))) (some ⟨s, rest⟩)
  | gone {s : Submission} {path : List (Deed M)} {r : Except EnvironmentError ActionOutcome}
      (follows : s.thread.Follows path r) : Stands n (wholeCourse n s path r) none

/-- Whatever is done for an action is done by its thread, with what has been done for it before. -/
lemma Stands.leads_of_mem {n : Nat} {hs : List (Happening M)} {i : Option (Dispatch M)}
    {d : Deed M} (h : Stands n hs i) (mem : did (some n) d ∈ hs) :
    ∃ (s : Submission) (path : List (Deed M)) (rest : Thread M _), s.thread.Leads path rest ∧
      (∀ d' ∈ path, did (some n) d' ∈ hs) ∧ d ∈ path := by
  cases h with
  | outside => cases mem
  | @inside s path rest leads =>
    exact ⟨s, path, rest, leads, fun d' mem' => by simpa using mem', by simpa using mem⟩
  | @gone s path r follows =>
    refine ⟨s, path, .done r, follows.leads, fun d' mem' => ?_, ?_⟩
    · simpa [wholeCourse] using mem'
    · simpa [wholeCourse] using mem

/-- The course of somebody through two parts is the one part after the other. -/
lemma course_append (n : Nat) (hs hs' : List (Happening M)) :
    course n (hs ++ hs') = course n hs ++ course n hs' :=
  List.filter_append ..

/-- What somebody does next comes last in its course. -/
lemma course_snoc_of_eq {n : Nat} {x : Happening M} (same : x.number? = some n)
    (hs : List (Happening M)) : course n (hs ++ [x]) = course n hs ++ [x] := by
  rw [course_append]
  exact congrArg _ (List.filter_eq_self.2 (by simpa using same))

/-- What others do is not in its course. -/
lemma course_snoc_of_ne {n : Nat} {x : Happening M} (other : x.number? ≠ some n)
    (hs : List (Happening M)) : course n (hs ++ [x]) = course n hs := by
  rw [course_append]
  refine (congrArg _ (List.filter_eq_nil_iff.2 ?_)).trans (List.append_nil _)
  simpa using other

/-- The course of somebody is all that has its number. -/
lemma mem_course {n : Nat} {x : Happening M} {hs : List (Happening M)} :
    x ∈ course n hs ↔ x ∈ hs ∧ x.number? = some n := by
  rw [course, List.mem_filter, decide_eq_true_iff]

/-- The deeds among what happens are all that somebody did. -/
lemma mem_deedsAmong {d : Deed M} {hs : List (Happening M)} :
    d ∈ deedsAmong hs ↔ ∃ number, did number d ∈ hs := by
  rw [deedsAmong, List.mem_filterMap]
  constructor
  · rintro ⟨x, mem, is⟩
    cases x with
    | did number d' =>
      obtain rfl := Option.some.inj is
      exact ⟨number, mem⟩
    | _ => cases is
  · rintro ⟨number, mem⟩
    exact ⟨_, mem, rfl⟩

/-- What is told of the actions that have entered since nobody was inside, and of the traffic now.
-/
structure Tracks (start : Nat) (hs : List (Happening M)) (t : Traffic M) : Prop where
  le : start ≤ t.entered
  entries : (hs.filterMap arrival?).map Prod.fst = List.range' start (t.entered - start)
  stands : ∀ n, Stands n (course n hs) (t.inside n)
  fresh : ∀ n, n < start ∨ t.entered ≤ n → course n hs = []
  apart : ∀ d, did none d ∈ hs → d.access.isPartOfAction = false

namespace Tracks

variable {start : Nat} {hs : List (Happening M)} {t t' : Traffic M} {x : Happening M}

/-- Where nobody is inside, there is nothing to track so far. -/
lemma of_empty (empty : ∀ n, t.inside n = none) : Tracks t.entered [] t where
  le := Nat.le_refl _
  entries := by
    rw [Nat.sub_self]
    rfl
  stands n := by
    rw [empty n]
    exact .outside
  fresh _ _ := rfl
  apart _ mem := absurd mem List.not_mem_nil

/-- An action for which nothing has happened is not inside. -/
lemma inside_of_fresh (h : Tracks start hs t) {n : Nat} (fresh : n < start ∨ t.entered ≤ n) :
    t.inside n = none := by
  have stands := h.stands n
  rw [h.fresh n fresh] at stands
  generalize t.inside n = i at stands
  cases stands
  rfl

/-- Whoever is inside has entered since the start. -/
lemma lt_of_inside (h : Tracks start hs t) {n : Nat} {i : Dispatch M}
    (inside : t.inside n = some i) : start ≤ n ∧ n < t.entered := by
  by_contra out
  have fresh : n < start ∨ t.entered ≤ n := by omega
  rw [h.inside_of_fresh fresh] at inside
  cases inside

/-- What happens for an action that is inside changes nothing for the others. -/
lemma advance (h : Tracks start hs t) {n : Nat} {i : Dispatch M} (inside : t.inside n = some i)
    {w : World M} {i' : Option (Dispatch M)} (number : x.number? = some n)
    (notArrival : x.arrival? = none) (stands : Stands n (course n hs ++ [x]) i') :
    Tracks start (hs ++ [x])
      { t with world := w, inside := Function.update t.inside n i' } where
  le := h.le
  entries := by
    rw [List.filterMap_append, List.filterMap_cons_none notArrival]
    exact (congrArg _ (List.append_nil _)).trans h.entries
  stands m := by
    by_cases same : m = n
    · subst same
      rw [course_snoc_of_eq number]
      simpa using stands
    · rw [course_snoc_of_ne (by rw [number]; simpa using Ne.symm same)]
      simpa [same] using h.stands m
  fresh m out := by
    have inRange := h.lt_of_inside inside
    have other : n ≠ m := by
      rintro rfl
      exact out.elim (Nat.not_lt.2 inRange.1) (Nat.not_le.2 inRange.2)
    rw [course_snoc_of_ne (by rw [number]; simpa using other)]
    exact h.fresh m out
  apart d mem := by
    rcases List.mem_append.1 mem with old | new
    · exact h.apart d old
    · obtain rfl := List.mem_singleton.1 new
      cases number

/-- What happens for no action leaves all of them where they stand. -/
lemma aside (h : Tracks start hs t) {w : World M} (number : x.number? = none)
    (apart : ∀ d, x = did none d → d.access.isPartOfAction = false) :
    Tracks start (hs ++ [x]) { t with world := w } where
  le := h.le
  entries := by
    have notArrival : x.arrival? = none := by
      cases x with
      | entered => cases number
      | _ => rfl
    rw [List.filterMap_append, List.filterMap_cons_none notArrival]
    exact (congrArg _ (List.append_nil _)).trans h.entries
  stands m := by
    rw [course_snoc_of_ne (by rw [number]; nofun)]
    exact h.stands m
  fresh m out := by
    rw [course_snoc_of_ne (by rw [number]; nofun)]
    exact h.fresh m out
  apart d mem := by
    rcases List.mem_append.1 mem with old | new
    · exact h.apart d old
    · exact apart d (List.mem_singleton.1 new).symm

/-- Whatever happens next, it is told of. -/
theorem step (h : Tracks start hs t) (step : t.Step x t') : Tracks start (hs ++ [x]) t' := by
  cases step with
  | enter s =>
    have le := h.le
    constructor
    · exact Nat.le_succ_of_le le
    · rw [List.filterMap_append, List.map_append, h.entries, Nat.succ_sub le, List.range'_concat]
      simp [arrival?]
      omega
    · intro m
      by_cases same : m = t.entered
      · subst same
        rw [course_snoc_of_eq rfl, h.fresh _ (.inr (Nat.le_refl _))]
        simpa using Stands.inside (n := t.entered) (.refl s.thread)
      · rw [course_snoc_of_ne (by simpa [number?] using Ne.symm same)]
        simpa [same] using h.stands m
    · intro m out
      have other : t.entered ≠ m := by
        rintro rfl
        exact out.elim (Nat.not_lt.2 le) (Nat.not_succ_le_self _)
      rw [course_snoc_of_ne (by simpa [number?] using other)]
      exact h.fresh m (out.imp_right Nat.le_of_succ_le)
    · intro d mem
      rcases List.mem_append.1 mem with old | new
      · exact h.apart d old
      · cases List.mem_singleton.1 new
  | @advance n s a next inside =>
    refine h.advance inside rfl rfl ?_
    have stands := h.stands n
    rw [inside] at stands
    generalize course n hs = before at stands ⊢
    cases stands with
    | inside leads =>
      have further := Stands.inside (n := n) (leads.snoc t.world)
      rwa [List.map_append] at further
  | @leave n s r inside =>
    refine h.advance (w := t.world) inside rfl rfl ?_
    have stands := h.stands n
    rw [inside] at stands
    generalize course n hs = before at stands ⊢
    cases stands with
    | inside leads => exact .gone leads.follows
  | aside apart =>
    refine h.aside rfl fun d same => ?_
    cases same
    exact apart
  | openTick clear tick => exact h.aside rfl fun _ same => nomatch same
  | closeTick clear => exact h.aside rfl fun _ same => nomatch same

/-- Whatever happens is tracked. -/
theorem runs {hs' : List (Happening M)} (h : Tracks start hs t) (runs : t.Runs hs' t') :
    Tracks start (hs ++ hs') t' := by
  induction runs generalizing hs with
  | nil =>
    rw [List.append_nil]
    exact h
  | @cons _ _ _ x rest first _ ih =>
    have next := ih (h.step first)
    rwa [List.append_assoc] at next

/-- Where nobody is inside, the course of every action that has entered is whole. -/
lemma whole (h : Tracks start hs t) (empty : ∀ n, t.inside n = none) {n : Nat} {s : Submission}
    (mem : entered n s ∈ hs) :
    ∃ path r, course n hs = wholeCourse n s path r ∧ s.thread.Follows path r := by
  have stands := h.stands n
  have mem : entered n s ∈ course n hs := mem_course.2 ⟨mem, rfl⟩
  rw [empty n] at stands
  generalize course n hs = c at stands mem ⊢
  cases stands with
  | outside => cases mem
  | @gone s' path r follows =>
    have same : s = s' := by simpa [wholeCourse] using mem
    subst same
    exact ⟨path, r, rfl, follows⟩

end Tracks

end Cadence
