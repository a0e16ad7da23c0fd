import Cadence.Proofs.Tick

/-!
# The clock of a history

Only a tick that opens moves the clock of a simulation, and it moves it by one tick and to the next
time (`Progress.clock_next`, `Clock.increment_eq`).
-/

namespace Cadence

variable {M T : Type}

/-- A clock that is advanced shows the next time and one more tick. -/
lemma Clock.increment_eq [Time T] {c c' : Clock T} (advanced : c.increment = .ok c') :
    Time.next? c.current = some c'.current ∧ c'.ticks.toNat = c.ticks.toNat + 1 := by
  rw [increment] at advanced
  split at advanced
  · next t n time ticks =>
    cases advanced
    exact ⟨time, Word.toNat_succ? ticks⟩
  · cases advanced

namespace Simulation

variable (s : Simulation M T) (w : World M)

/-- To add a participant leaves the clock. -/
lemma addParticipant_clock (p : Participant M T) :
    (s.addParticipant w p).simulation.clock = s.clock := by
  have adds := s.addParticipant_adds w p
  generalize s.addParticipant w p = out at adds ⊢
  cases adds with
  | unrunnable | refused | joined | failed => rfl

/-- To add a plugin leaves the clock. -/
lemma addPlugin_clock (p : Plugin M T) : (s.addPlugin w p).simulation.clock = s.clock := by
  have adds := s.addPlugin_adds w p
  generalize s.addPlugin w p = out at adds ⊢
  cases adds with
  | unrunnable | joined | failed => rfl

/-- To spawn participants leaves the clock. -/
lemma spawn_clock (create : Factory M T) (names : List String) :
    (s.spawn w create names).simulation.clock = s.clock :=
  spawnFrom_induction (P := fun s' _ _ => s'.clock = s.clock) (fun _ _ _ _ same => same)
    (fun s' w' _ p same => (s'.addParticipant_clock w' p).trans same) [] rfl

/-- The end of a run leaves the clock. -/
lemma finish_clock : (s.finish w).simulation.clock = s.clock := by
  rw [finish]
  split <;> rfl

variable {s w}

/-- A tick that opens sets the clock, however it ends. -/
lemma Ticks.clock_eq {clock : Clock T} {out : Outcome M T (TickSummary T)}
    (h : s.Ticks w clock out) : out.simulation.clock = clock := by
  cases h with
  | stepFailed | executeFailed | actionFailed | ended => rfl

end Simulation

open Simulation

variable [Time T]

/-- The clock of the tick that a call of the driver opens. -/
def DriverCall.clock? (s : Simulation M T) : DriverCall M T → Option (Clock T)
  | tick => s.opens?
  | _ => none

/-- The tick that a call opens is that of the clock it sets. -/
lemma DriverCall.opens?_eq (s : Simulation M T) (c : DriverCall M T) :
    c.opens? s = (c.clock? s).map Clock.ticks := by
  cases c <;> rfl

/-- A tick that opens moves the clock, and nothing else does. -/
theorem Progress.clock_next (g : Progress M T) (c : DriverCall M T) :
    (g.next c).simulation.clock = (c.clock? g.simulation).getD g.simulation.clock := by
  cases c with
  | add p => exact addParticipant_clock _ _ p
  | spawn create names => exact spawn_clock _ _ create names
  | addPlugin p => exact addPlugin_clock _ _ p
  | tick =>
    rw [DriverCall.clock?, next, DriverCall.outcome]
    cases opens : g.simulation.opens? with
    | none =>
      obtain ⟨⟨status, same⟩, -⟩ := runTick_of_closed (w := g.world) opens
      rw [same]
      rfl
    | some clock => exact (runTick_ticks opens).clock_eq
  | finish => exact finish_clock _ _
  | outside p => rfl

end Cadence
