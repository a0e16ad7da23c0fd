import Cadence.Proofs.Places

/-!
# The completion of plugins

A run is completed once, and then every plugin of which no execution has failed. What a simulation
keeps of a plugin, its slot and the status of the run, says what its turns have been
(`Progress.Remembers`): every call of the driver adds to both alike. So the turns in a history tell
which plugins are completed, and how often (`plugins_completed_once`).
-/

namespace Cadence

variable {M T : Type}

open HookCall Simulation

namespace PluginTurn

/-- Whether a turn is an execution that fails. -/
def failsExecution (t : PluginTurn M T) : Bool := t.call.executes && t.call.failure?.isSome

/-- Whether a turn is a completion. -/
def completes (t : PluginTurn M T) : Bool := t.call.completes

end PluginTurn

/-- How often the plugin at a place has been completed, as far as its slot and the status tell. -/
def Simulation.completed (s : Simulation M T) (n : Nat) : Nat :=
  match s.status, s.plugins[n]? with
  | .completed _, some slot => if slot.failed then 0 else 1
  | _, _ => 0

namespace Simulation

variable {s : Simulation M T} {n : Nat}

/-- In a run that is not completed nobody has been. -/
lemma completed_of_not (going : ∀ t, s.status ≠ .completed t) : s.completed n = 0 := by
  rw [completed]
  split
  · next t slot status place => exact absurd status (going t)
  · rfl

/-- In a run that is underway nobody has been. -/
lemma completed_of_underway (underway : s.status.isOver = false) : s.completed n = 0 := by
  refine completed_of_not fun t completed => ?_
  rw [completed] at underway
  cases underway

/-- A run that is underway was not given up. -/
lemma not_aborted_of_underway (underway : s.status.isOver = false) (t : UInt64) :
    s.status ≠ .aborted t := by
  intro aborted
  rw [aborted] at underway
  cases underway

/-- Whether a plugin has been completed is a matter of the status and the plugins. -/
lemma completed_congr {s' : Simulation M T} (status : s'.status = s.status)
    (plugins : s'.plugins = s.plugins) : s'.completed n = s.completed n := by
  rw [completed, completed, status, plugins]

/-- To end a run once more that is completed changes nothing. -/
lemma finish_of_completed {w : World M} {t : UInt64} (completed : s.status = .completed t) :
    s.finish w = { result := .ok (), simulation := s, world := w } := by
  rw [finish, completed]

/-- To end a run that was given up is refused. -/
lemma finish_of_aborted {w : World M} {t : UInt64} (aborted : s.status = .aborted t) :
    s.finish w = { result := .error (.notRunnable s.status), simulation := s, world := w } := by
  rw [finish, aborted]

end Simulation

section Calls

variable [Time T]

namespace Progress

/-! ## What a simulation keeps of a plugin -/

/-- What a simulation keeps of the plugin at a place is what the turns of the plugin have been: none
before it is added, and its name in all of them; a mark exactly if an execution has failed, until
the run is given up; and as many completions as slot and status tell. -/
structure Remembers (g : Progress M T) (n : Nat) (ts : List (PluginTurn M T)) : Prop where
  component : ∀ t ∈ ts,
    (g.simulation.plugins.map PluginSlot.component)[n]? = some t.call.component
  marked : (∀ t, g.simulation.status ≠ .aborted t) →
    ∀ slot, g.simulation.plugins[n]? = some slot →
      slot.failed = ts.any PluginTurn.failsExecution
  completed : ts.countP PluginTurn.completes = g.simulation.completed n

namespace Remembers

variable {g : Progress M T} {c : DriverCall M T} {n : Nat} {ts : List (PluginTurn M T)}

omit [Time T] in
/-- At the start there is nothing to remember. -/
lemma start (x : Plan M T) (n : Nat) : x.start.Remembers n [] where
  component _ mem := absurd mem List.not_mem_nil
  marked _ _ place := by cases place
  completed := rfl

/-- What calls no plugin, and completes no run, is nothing to remember. -/
lemma idle (h : g.Remembers n ts)
    (plugins : (g.next c).simulation.plugins = g.simulation.plugins)
    (status : (g.next c).simulation.status = g.simulation.status ∨
      g.simulation.status.isOver = false ∧ ∃ t, (g.next c).simulation.status = .aborted t) :
    (g.next c).Remembers n ts where
  component := by
    rw [plugins]
    exact h.component
  marked going := by
    rw [plugins]
    obtain same | ⟨underway, t, aborted⟩ := status
    · exact h.marked (same ▸ going)
    · exact absurd aborted (going t)
  completed := by
    rw [h.completed]
    obtain same | ⟨underway, t, aborted⟩ := status
    · exact (completed_congr same plugins).symm
    · rw [completed_of_underway underway, completed_of_not]
      intro t' completed
      cases aborted.symm.trans completed

/-- A plugin that joins has had no turns. -/
lemma joined (h : g.Remembers n ts) {slot : PluginSlot M T}
    (plugins : (g.next c).simulation.plugins = g.simulation.plugins ++ [slot])
    (fresh : slot.failed = false) (underway : g.simulation.status.isOver = false)
    (status : (g.next c).simulation.status = g.simulation.status) :
    (g.next c).Remembers n ts where
  component t mem := by
    have before := h.component t mem
    obtain ⟨inside, -⟩ := List.getElem?_eq_some_iff.1 before
    rw [plugins, List.map_append, List.getElem?_append_left inside, before]
  marked going slot' place := by
    rw [status] at going
    rw [plugins] at place
    by_cases inside : n < g.simulation.plugins.length
    · rw [List.getElem?_append_left inside] at place
      exact h.marked going slot' place
    · -- a plugin that has just been added has had no turn
      have none : ts = [] := by
        refine List.eq_nil_iff_forall_not_mem.2 fun t mem => inside ?_
        obtain ⟨inside, -⟩ := List.getElem?_eq_some_iff.1 (h.component t mem)
        rwa [List.length_map] at inside
      rw [List.getElem?_append_right (Nat.not_lt.1 inside)] at place
      obtain rfl := List.mem_singleton.1 (List.mem_of_getElem? place)
      rw [none, fresh]
      rfl
  completed := by
    rw [h.completed, completed_of_underway underway, completed_of_underway]
    rw [status, underway]

/-- The turns of an execution are remembered: a plugin that fails in its turn is marked. -/
lemma executed (h : g.Remembers n ts) (underway : g.simulation.status.isOver = false)
    {turns : List (Option (PluginTurn M T))}
    (calls : ∀ t, turns[n]?.join = some t → ∃ slot ctx, g.simulation.plugins[n]? = some slot ∧
      t.call = slot.executed ctx (t.world.perform t.hook).1)
    (plugins : (g.next c).simulation.plugins.map PluginSlot.unmarked =
      g.simulation.plugins.map PluginSlot.unmarked)
    (status : (∃ t, (g.next c).simulation.status = .aborted t) ∨
      (∃ t, (g.next c).simulation.status = .running t) ∧
        ∀ slot, (g.next c).simulation.plugins[n]? = some slot →
          (slot.failed = true ↔
            (∃ old, g.simulation.plugins[n]? = some old ∧ old.failed = true) ∨
            ∃ t, turns[n]?.join = some t ∧ t.call.failure? ≠ none)) :
    (g.next c).Remembers n (ts ++ turns[n]?.join.toList) := by
  have components : (g.next c).simulation.plugins.map PluginSlot.component =
      g.simulation.plugins.map PluginSlot.component := by
    have same := congrArg (List.map PluginSlot.component) plugins
    rwa [List.map_map, List.map_map] at same
  have unfinished : ∀ t, (g.next c).simulation.status ≠ .completed t := by
    intro t completed
    obtain ⟨t', aborted⟩ | ⟨⟨t', running⟩, -⟩ := status
    · cases aborted.symm.trans completed
    · cases running.symm.trans completed
  refine ⟨fun t mem => ?_, fun going slot place => ?_, ?_⟩
  · rw [components]
    rcases List.mem_append.1 mem with earlier | now
    · exact h.component t earlier
    · obtain ⟨slot, ctx, place, call⟩ := calls t (Option.mem_toList.1 now)
      rw [List.getElem?_map, place, call]
      rfl
  · -- a tick that gives up the run may leave marks out
    obtain ⟨t, aborted⟩ | ⟨-, marks⟩ := status
    · exact absurd aborted (going t)
    obtain ⟨old, place_old⟩ : ∃ old, g.simulation.plugins[n]? = some old := by
      have named : (g.simulation.plugins.map PluginSlot.component)[n]? = some slot.component := by
        rw [← components, List.getElem?_map, place]
        rfl
      rw [List.getElem?_map] at named
      obtain ⟨old, place_old, -⟩ := Option.map_eq_some_iff.1 named
      exact ⟨old, place_old⟩
    have before := h.marked (not_aborted_of_underway underway) old place_old
    rw [Bool.eq_iff_iff, List.any_append, Bool.or_eq_true, ← before]
    refine (marks slot place).trans (or_congr ?_ ?_)
    · refine ⟨?_, fun failed => ⟨old, place_old, failed⟩⟩
      rintro ⟨_, same, failed⟩
      obtain rfl := Option.some.inj (place_old.symm.trans same)
      exact failed
    · rw [List.any_eq_true]
      refine exists_congr fun t => ?_
      rw [Option.mem_toList]
      refine and_congr_right fun turn => ?_
      obtain ⟨slot', ctx, -, call⟩ := calls t turn
      have executes : t.call.executes = true := by
        rw [call]
        rfl
      rw [PluginTurn.failsExecution, executes, Bool.true_and, Option.isSome_iff_ne_none]
  · rw [List.countP_append, h.completed, completed_of_underway underway,
      completed_of_not unfinished, Nat.zero_add]
    refine List.countP_eq_zero.2 fun t now => ?_
    obtain ⟨slot, ctx, -, call⟩ := calls t (Option.mem_toList.1 now)
    rw [PluginTurn.completes, call]
    nofun

/-- The turns of the completion are remembered: every plugin that has not failed has one. -/
lemma complete (h : g.Remembers n ts) (underway : g.simulation.status.isOver = false)
    {turns : List (Option (PluginTurn M T))}
    (takes : TakesTurns .carryOn (fun slot => slot.plugin.complete) PluginSlot.completed
      g.simulation.plugins g.world.closeTick.2 turns)
    (plugins : (g.next c).simulation.plugins = g.simulation.plugins)
    {t : UInt64} (status : (g.next c).simulation.status = .completed t) :
    (g.next c).Remembers n (ts ++ turns[n]?.join.toList) := by
  refine ⟨fun t mem => ?_, fun _ slot place => ?_, ?_⟩
  · rw [plugins]
    rcases List.mem_append.1 mem with earlier | now
    · exact h.component t earlier
    · obtain ⟨slot, place, -, -, call⟩ := takes.exists_slot (Option.mem_toList.1 now)
      rw [List.getElem?_map, place, call]
      rfl
  · rw [plugins] at place
    have none : turns[n]?.join.toList.any PluginTurn.failsExecution = false := by
      refine List.any_eq_false.2 fun t now => ?_
      obtain ⟨slot, -, -, -, call⟩ := takes.exists_slot (Option.mem_toList.1 now)
      rw [PluginTurn.failsExecution, call]
      nofun
    rw [List.any_append, none, Bool.or_false]
    exact h.marked (not_aborted_of_underway underway) slot place
  · -- the mark of the slot decides whether the plugin has a turn now
    rw [List.countP_append, h.completed, completed_of_underway underway, Nat.zero_add,
      Simulation.completed, status, plugins]
    cases place : g.simulation.plugins[n]? with
    | none =>
      cases turn : turns[n]?.join with
      | none => rfl
      | some t =>
        obtain ⟨slot, same, -⟩ := takes.exists_slot turn
        cases place.symm.trans same
    | some slot =>
      cases failed : slot.failed with
      | true =>
        cases turn : turns[n]?.join with
        | none => simp [failed]
        | some t =>
          obtain ⟨slot', same, unfailed, -⟩ := takes.exists_slot turn
          obtain rfl := Option.some.inj (place.symm.trans same)
          cases failed.symm.trans unfailed
      | false =>
        obtain ⟨t, turn⟩ := takes.exists_turn place failed
        obtain ⟨slot', -, -, -, call⟩ := takes.exists_slot turn
        have completes : t.completes = true := by
          rw [PluginTurn.completes, call]
          rfl
        simp [turn, completes, failed]

/-- Every call of the driver adds to what a simulation keeps of a plugin and to the turns of the
plugin alike. -/
lemma next (h : g.Remembers n ts) (c : DriverCall M T) :
    (g.next c).Remembers n (ts ++ (c.turns g.simulation g.world)[n]?.join.toList) := by
  cases g.serves c with
  | idle quiet plugins status =>
    rw [quiet]
    exact (List.append_nil ts).symm ▸ h.idle plugins status
  | joined quiet plugins fresh underway status =>
    rw [quiet]
    exact (List.append_nil ts).symm ▸ h.joined plugins fresh underway status
  | executed underway calls plugins status =>
    refine h.executed underway (calls n) plugins (status.imp_right ?_)
    exact And.imp_right fun marks => marks n
  | completed underway takes plugins status => exact h.complete underway takes plugins status

/-- So are the turns of a whole history. -/
lemma foldl (h : g.Remembers n ts) (history : List (DriverCall M T)) :
    (history.foldl Progress.next g).Remembers n (ts ++ g.turnsOf n history) := by
  induction history generalizing g ts with
  | nil => exact (List.append_nil ts).symm ▸ h
  | cons c rest ih =>
    rw [turnsOf, ← List.append_assoc]
    exact ih (h.next c)

end Remembers

end Progress

/-- After a history the turns since its start are remembered. -/
lemma Plan.remembers (x : Plan M T) (n : Nat) (history : List (DriverCall M T)) :
    (x.after history).Remembers n (x.turnsOf n history) :=
  (Progress.Remembers.start x n).foldl history

end Calls

end Cadence
