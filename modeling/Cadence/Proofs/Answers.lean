import Cadence.Proofs.Deeds
import Cadence.Proofs.Window
import Mathlib.Data.List.Count

/-!
# Answers to actions

The answer to an action stands in what is done for it: the refusal to route it, or the reply when
its handler has ended (`Performed.answered?`). Whatever others do in between, an action is answered
once, with what its submitter is told (`Thread.answered_act`). The statistics of the window count
refusals where they are noted and all else where it is answered; as every thread runs to its end,
that makes the same numbers (`Thread.Balanced`).
-/

namespace Cadence

variable {M α : Type}

/-- An action that was submitted, and the answer to it. -/
structure Answered where
  actor : ParticipantId
  action : Action
  answer : Except EnvironmentError ActionOutcome

namespace Answered

/-- Whether the action was applied. -/
def isApplied (a : Answered) : Bool :=
  match a.answer with
  | .ok (.applied _) => true
  | _ => false

/-- Whether the handler rejected the action. -/
def isRejected (a : Answered) : Bool :=
  match a.answer with
  | .ok (.rejected _) => true
  | _ => false

/-- The failure that the answer tells of, if the handler failed. -/
def failure? (a : Answered) : Option ActionFailure :=
  match a.answer with
  | .error (.actionExecutionFailed _ handler reason) =>
    some ⟨a.actor, a.action.tag, handler, reason⟩
  | _ => none

/-- Whether the handler failed. -/
def isFailed (a : Answered) : Bool := a.failure?.isSome

/-- Whether the action was refused for any other cause than that its handler failed. -/
def isRefused (a : Answered) : Bool :=
  match a.answer with
  | .error (.actionExecutionFailed _ _ _) => false
  | .error _ => true
  | .ok _ => false

/-- An answer is of exactly one of the four kinds. -/
lemma one_kind (a : Answered) :
    (if a.isApplied then 1 else 0) + (if a.isRejected then 1 else 0) +
      (if a.isFailed then 1 else 0) + (if a.isRefused then 1 else 0) = 1 := by
  obtain ⟨actor, action, answer⟩ := a
  rcases answer with e | outcome
  · cases e <;> rfl
  · cases outcome <;> rfl

/-- So the answers of each kind add up to all answers. -/
lemma countP_add (answers : List Answered) :
    answers.countP isApplied + answers.countP isRejected + answers.countP isFailed +
      answers.countP isRefused = answers.length := by
  induction answers with
  | nil => rfl
  | cons a rest ih =>
    have one := a.one_kind
    simp only [List.countP_cons, List.length_cons]
    omega

/-- A refused action is neither applied nor rejected, and no handler has failed. -/
lemma of_isRefused {a : Answered} (h : a.isRefused = true) :
    a.isApplied = false ∧ a.isRejected = false ∧ a.failure? = none := by
  obtain ⟨actor, action, answer⟩ := a
  rcases answer with e | outcome
  · cases e with
    | actionExecutionFailed => cases h
    | _ => exact ⟨rfl, rfl, rfl⟩
  · cases h

end Answered

namespace Performed

/-- The action that the access answers, if it answers one. -/
def answered? : Performed M → Option Answered
  | ⟨.route action actor _, .error e⟩ => some ⟨actor, action, .error e⟩
  | ⟨.settle action actor _ _, answer⟩ => some ⟨actor, action, answer⟩
  | _ => none

/-- Whether the access notes that an action was refused. -/
def isRefusal : Performed M → Bool
  | ⟨.refuse, _⟩ => true
  | _ => false

/-- What an access that was made does to the statistics. -/
def effect : Performed M → ActionStats → ActionStats
  | ⟨.refuse, _⟩ => .addRefused
  | ⟨.settle _ _ _ _, .ok (.applied _)⟩ => .addApplied
  | ⟨.settle _ _ _ _, .ok (.rejected _)⟩ => .addRejected
  | ⟨.settle action actor _ _, .error (.actionExecutionFailed _ handler reason)⟩ =>
    fun stats => stats.addFailure ⟨actor, action.tag, handler, reason⟩
  | _ => id

/-- The statistics after an access that was made, given those before. -/
def statsAfter (stats : ActionStats) (q : Performed M) : ActionStats := q.effect stats

end Performed

/-- The actions that deeds answer, in that order. -/
def answered (ds : List (Deed M)) : List Answered := ds.filterMap fun d => d.performed.answered?

/-- The answers given in two stretches are those of the one and then of the other. -/
lemma answered_append (ds ds' : List (Deed M)) :
    answered (ds ++ ds') = answered ds ++ answered ds' :=
  List.filterMap_append

/-- An access gives at most one answer. -/
lemma answered_cons (d : Deed M) (ds : List (Deed M)) :
    answered (d :: ds) = d.performed.answered?.toList ++ answered ds := by
  rw [answered, List.filterMap_cons]
  cases d.performed.answered? <;> rfl

/-! ## Statistics -/

/-- An access changes the statistics of the window as its reply tells. -/
theorem Access.stats_apply (a : Access M) (w : World M) :
    (a.apply w).2.environment.window.stats =
      Performed.statsAfter w.environment.window.stats ⟨a, (a.apply w).1⟩ := by
  cases a with
  | settle action actor handler ending =>
    simp only [apply, World.inEnvironment, Environment.settle]
    rcases ending.result with reason | _ | _ <;> rfl
  | enrol member services =>
    simp only [apply, World.inEnvironment, Environment.enrol]
    cases w.environment.checkAbsent member.id <;> rfl
  | deregister id key =>
    simp only [apply, World.inEnvironment, Environment.deregister]
    cases w.environment.authorize id key <;> rfl
  | install id key services =>
    simp only [apply, World.inEnvironment, Environment.install]
    cases w.environment.authorize id key <;> rfl
  | _ => rfl

/-- An action that goes nowhere is refused: its key, the window, or the lack of a handler is told.
-/
lemma Environment.isRefused_of_route_error {e : Environment} {action : Action}
    {actor : ParticipantId} {key : Key} {err : EnvironmentError}
    (h : e.route action actor key = .error err) :
    Answered.isRefused ⟨actor, action, .error err⟩ = true := by
  by_cases current : e.isCurrent actor key = true
  · by_cases closed : e.window.phase = .closed
    · rw [route_of_closed closed current] at h
      cases h
      rfl
    · rw [route_of_open closed current, Registry.resolve] at h
      split at h
      · cases h
      · cases h
        rfl
  · rw [route, authorize, if_neg current] at h
    cases h
    rfl

/-- An action that a handler has looked at is not refused. -/
lemma Environment.isRefused_settle (e : Environment) (action : Action) (actor : ParticipantId)
    (handler : String) (ending : HandlerEnd) :
    Answered.isRefused ⟨actor, action, (e.settle action actor handler ending).1⟩ = false := by
  rw [settle]
  rcases ending.result with reason | response | reason <;> rfl

/-- How an access bears on the accounts: the action that it answers, whether it notes a refusal, and
what it does to the statistics. -/
inductive Accounts : Option Answered → Bool → (ActionStats → ActionStats) → Prop where
  | silent : Accounts none false id
  | noted : Accounts none true ActionStats.addRefused
  | refused {a : Answered} (isRefused : a.isRefused = true) : Accounts (some a) false id
  | applied (actor : ParticipantId) (action : Action) (response : Value) :
      Accounts (some ⟨actor, action, .ok (.applied response)⟩) false ActionStats.addApplied
  | rejected (actor : ParticipantId) (action : Action) (reason : String) :
      Accounts (some ⟨actor, action, .ok (.rejected reason)⟩) false ActionStats.addRejected
  | failed (actor : ParticipantId) (action : Action) (handler reason : String) :
      Accounts (some ⟨actor, action, .error (.actionExecutionFailed action.tag handler reason)⟩)
        false fun stats => stats.addFailure ⟨actor, action.tag, handler, reason⟩

/-- Every access changes the counts by the answer that it gives. -/
theorem Deed.accounts (d : Deed M) :
    Accounts d.performed.answered? d.performed.isRefusal d.performed.effect := by
  obtain ⟨a, w⟩ := d
  simp only [Deed.performed, Deed.reply]
  cases a with
  | route action actor key =>
    simp only [Access.apply]
    cases routed : w.environment.route action actor key with
    | error e => exact .refused (Environment.isRefused_of_route_error routed)
    | ok entry => exact .silent
  | refuse => exact .noted
  | settle action actor handler ending =>
    simp only [Access.apply, World.inEnvironment, Environment.settle]
    rcases ending.result with reason | response | reason
    · exact .failed actor action handler reason
    · exact .applied actor action response
    · exact .rejected actor action reason
  | _ => exact .silent

section Counts

variable {answer : Option Answered} {noted : Bool} {effect : ActionStats → ActionStats}

/-- Every count goes up with what it counts, and every failure is listed. -/
lemma Accounts.effect_eq (h : Accounts answer noted effect) (stats : ActionStats) :
    (effect stats).applied =
        (if answer.any Answered.isApplied then Word.bump stats.applied else stats.applied) ∧
      (effect stats).rejected =
        (if answer.any Answered.isRejected then Word.bump stats.rejected else stats.rejected) ∧
      (effect stats).failed =
        (if answer.any Answered.isFailed then Word.bump stats.failed else stats.failed) ∧
      (effect stats).refused = (if noted then Word.bump stats.refused else stats.refused) ∧
      (effect stats).failures = stats.failures ++ (answer.bind Answered.failure?).toList := by
  cases h with
  | refused isRefused =>
    obtain ⟨unapplied, unrejected, unfailed⟩ := Answered.of_isRefused isRefused
    simp [unapplied, unrejected, unfailed, Answered.isFailed]
  | silent | noted | applied | rejected | failed =>
    simp [ActionStats.addRefused, ActionStats.addApplied, ActionStats.addRejected,
      ActionStats.addFailure, Answered.isApplied, Answered.isRejected, Answered.isFailed,
      Answered.failure?]

variable (ds : List (Deed M)) (stats : ActionStats)

/-- To count answers is to count the accesses that give them. -/
lemma countP_answered (p : Answered → Bool) :
    (answered ds).countP p = ds.countP fun d => d.performed.answered?.any p := by
  induction ds with
  | nil => rfl
  | cons d rest ih =>
    rw [answered_cons, List.countP_append, List.countP_cons, ih, Nat.add_comm]
    cases d.performed.answered? <;> simp [List.countP_singleton]

/-- The statistics after deeds, given those before. -/
def statsAfter : ActionStats := (ds.map Deed.performed).foldl Performed.statsAfter stats

/-- The counts after an access and others are those after the others. -/
lemma statsAfter_cons (d : Deed M) :
    statsAfter (d :: ds) stats = statsAfter ds (d.performed.effect stats) := rfl

/-- A count that goes up with every deed of a kind is, up to the greatest word, the number of such
deeds. -/
lemma toNat_statsAfter {field : ActionStats → UInt64} {p : Deed M → Bool}
    (step : ∀ (d : Deed M) stats, field (d.performed.effect stats) =
      if p d then Word.bump (field stats) else field stats) :
    (field (statsAfter ds stats)).toNat =
      min ((field stats).toNat + ds.countP p) 18446744073709551615 := by
  induction ds generalizing stats with
  | nil =>
    have bound := (field stats).toNat_lt
    show (field stats).toNat = min ((field stats).toNat + 0) 18446744073709551615
    omega
  | cons d rest ih =>
    rw [statsAfter_cons, ih, step, List.countP_cons]
    split
    · rw [Word.toNat_bump]
      omega
    · omega

/-- Failures are listed in the order in which the answers are given. -/
lemma failures_statsAfter :
    (statsAfter ds stats).failures =
      stats.failures ++ (answered ds).filterMap Answered.failure? := by
  induction ds generalizing stats with
  | nil => exact (List.append_nil _).symm
  | cons d rest ih =>
    obtain ⟨-, -, -, -, failures⟩ := d.accounts.effect_eq stats
    rw [statsAfter_cons, ih, failures, answered_cons, List.filterMap_append, List.append_assoc]
    cases d.performed.answered? with
    | none => rfl
    | some a => cases h : a.failure? <;> simp [h]

end Counts

/-! ## One answer for every action -/

/-- Deeds that note a refusal for every action that they answer with one. -/
def Accounted (ds : List (Deed M)) : Prop :=
  ds.countP (fun d => d.performed.isRefusal) = (answered ds).countP Answered.isRefused

namespace Accounted

variable {ds ds' : List (Deed M)}

/-- What accounts for its answers in two parts does so as a whole. -/
lemma append (h : Accounted ds) (h' : Accounted ds') : Accounted (ds ++ ds') := by
  rw [Accounted, answered_append, List.countP_append, List.countP_append, h, h']

/-- The order of the accesses does not matter for whether they account for their answers. -/
lemma of_perm (perm : ds.Perm ds') (h : Accounted ds') : Accounted ds := by
  have answers : (answered ds).Perm (answered ds') := perm.filterMap _
  rw [Accounted, perm.countP_eq, answers.countP_eq]
  exact h

/-- Paths side by side account for their answers if each of them does. -/
lemma flatten {paths : List (List (Deed M))} (h : ∀ ds ∈ paths, Accounted ds) :
    Accounted paths.flatten := by
  induction paths with
  | nil => rfl
  | cons ds rest ih =>
    obtain ⟨head, tail⟩ := List.forall_mem_cons.1 h
    exact head.append (ih tail)

end Accounted

namespace Thread

variable {ds : List (Deed M)}

/-- A handler answers nothing itself, and notes no refusal. -/
lemma Follows.ofHandler {caller : HandlerId} {p : HandlerProgram} {ending : HandlerEnd}
    (h : (ofHandler caller p : Thread M HandlerEnd).Follows ds ending) :
    answered ds = [] ∧ ds.countP (fun d => d.performed.isRefusal) = 0 := by
  induction p generalizing ds with
  | stop ending' =>
    obtain ⟨rfl, -⟩ := h.of_done
    exact ⟨rfl, rfl⟩
  | read key next ih | write key value next ih | writeBatch entries next ih =>
    obtain ⟨w, rest, rfl, goesOn⟩ := h.of_access
    have quiet := ih _ goesOn
    exact quiet
  | update key f next ih =>
    rw [Thread.ofHandler] at h
    obtain ⟨w, rest, rfl, goesOn⟩ := h.of_access
    -- a panic of the function ends the handler, every other reply lets it go on
    split at goesOn
    · obtain ⟨rfl, -⟩ := goesOn.of_done
      exact ⟨rfl, rfl⟩
    · have quiet := ih _ goesOn
      exact quiet

/-- An action is answered once, with what its submitter is told, whatever others do meanwhile. -/
theorem answered_act {action : Action} {actor : ParticipantId} {key : Key}
    {r : Except EnvironmentError ActionOutcome}
    (h : (act action actor key : Thread M _).Follows ds r) :
    answered ds = [⟨actor, action, r⟩] ∧ Accounted ds := by
  obtain ⟨w, rest, rfl, goesOn⟩ := h.of_access
  have answer : (⟨.route action actor key, w⟩ : Deed M).performed =
      ⟨.route action actor key, w.environment.route action actor key⟩ := rfl
  simp only [Access.apply] at goesOn
  cases routed : w.environment.route action actor key with
  | error e =>
    rw [routed] at goesOn answer
    obtain ⟨w', after, rfl, ends⟩ := goesOn.of_access
    obtain ⟨rfl, rfl⟩ := ends.of_done
    have refused := Environment.isRefused_of_route_error routed
    have answers : answered [⟨.route action actor key, w⟩, ⟨.refuse, w'⟩] =
        [⟨actor, action, .error e⟩] := by
      rw [answered_cons, answer]
      rfl
    refine ⟨answers, ?_⟩
    rw [Accounted, answers, List.countP_singleton, refused, List.countP_cons, answer]
    rfl
  | ok entry =>
    rw [routed] at goesOn answer
    obtain ⟨before, ending, after, rfl, handled, goesOn⟩ := goesOn.of_bind
    obtain ⟨w', after, rfl, ends⟩ := goesOn.of_access
    obtain ⟨rfl, rfl⟩ := ends.of_done
    obtain ⟨unanswered, unrefused⟩ := handled.ofHandler
    have settled := w'.environment.isRefused_settle action actor entry.name ending
    have answers : answered (⟨.route action actor key, w⟩ ::
        (before ++ [⟨.settle action actor entry.name ending, w'⟩])) =
        [⟨actor, action, (w'.environment.settle action actor entry.name ending).1⟩] := by
      rw [answered_cons, answer, answered_append, unanswered]
      rfl
    refine ⟨answers, ?_⟩
    rw [Accounted, answers, List.countP_singleton, settled, List.countP_cons, answer,
      List.countP_append, unrefused]
    rfl

/-- A thread that, however others come in between, notes a refusal for every action that it answers
with one. -/
def Balanced (t : Thread M α) : Prop := ∀ ds r, t.Follows ds r → Accounted ds

/-- What is no part of an action answers nothing, so that programs are balanced as actions are. -/
lemma closed_balanced : Closed fun {_} (t : Thread M _) => t.Balanced where
  done a ds r h := by
    obtain ⟨rfl, -⟩ := h.of_done
    rfl
  bind balanced goesOn ds r h := by
    obtain ⟨before, a, after, rfl, first, second⟩ := h.of_bind
    exact (balanced before a first).append (goesOn a after r second)
  act action actor key ds r h := (answered_act h).2
  once a ha ds r h := by
    obtain ⟨w, rest, rfl, ends⟩ := h.of_access
    obtain ⟨rfl, -⟩ := ends.of_done
    cases a with
    | route | refuse | settle => cases ha
    | _ => rfl

end Thread

/-! ## Statistics tell of the answers -/

/-- Statistics that tell, as far as words count, how the actions were answered. -/
structure ActionStats.Tells (stats : ActionStats) (answers : List Answered) : Prop where
  applied : stats.applied.toNat = min (answers.countP Answered.isApplied) 18446744073709551615
  rejected : stats.rejected.toNat = min (answers.countP Answered.isRejected) 18446744073709551615
  failed : stats.failed.toNat = min (answers.countP Answered.isFailed) 18446744073709551615
  refused : stats.refused.toNat = min (answers.countP Answered.isRefused) 18446744073709551615
  failures : stats.failures = answers.filterMap Answered.failure?

namespace World

variable {w w' : World M} {ds : List (Deed M)}

/-- What balanced threads do is accounted for, in whatever order they do it. -/
lemma Ways.accounted {threads : List (Thread M α)} {results : List α}
    {ways : List (List (Deed M) × α)} (goes : Ways threads ds results ways)
    (balanced : ∀ t ∈ threads, t.Balanced) : Accounted ds := by
  obtain ⟨follow, -, perm, -⟩ := goes
  refine .of_perm perm (.flatten ?_)
  clear perm
  induction follow with
  | nil => exact fun _ mem => absurd mem List.not_mem_nil
  | cons follows rest ih =>
    obtain ⟨head, tail⟩ := List.forall_mem_cons.1 balanced
    exact List.forall_mem_cons.2 ⟨head _ _ follows, ih tail⟩

/-- Programs account for their answers. -/
lemma accounted_deedsOf (w : World M) (p : Program M α) : Accounted (w.deedsOf p) :=
  Thread.closed_balanced.thread w p _ _ ((w.thread p).follows_deeds w)

/-- After deeds that are accounted for, statistics that were empty tell how actions were answered.
-/
theorem Along.tells (h : w.Along ds w') (fresh : w.environment.window.stats = {})
    (accounted : Accounted ds) : w'.environment.window.stats.Tells (answered ds) := by
  have stats : w'.environment.window.stats = statsAfter ds {} := by
    rw [statsAfter, ← fresh]
    exact h.foldl (f := fun w => w.environment.window.stats) Access.stats_apply
  rw [stats]
  constructor
  · rw [countP_answered, toNat_statsAfter ds {} fun d stats => (d.accounts.effect_eq stats).1]
    simp
  · rw [countP_answered, toNat_statsAfter ds {} fun d stats => (d.accounts.effect_eq stats).2.1]
    simp
  · rw [countP_answered, toNat_statsAfter ds {} fun d stats => (d.accounts.effect_eq stats).2.2.1]
    simp
  · rw [← accounted,
      toNat_statsAfter ds {} fun d stats => (d.accounts.effect_eq stats).2.2.2.1]
    simp
  · exact failures_statsAfter ds {}

end World

end Cadence
