import Cadence.Recorder
import Cadence.Scenario.Walker
import Cadence.Simulation.Run

/-!
# What scripts remember

Components and generators that scripts describe share one memory: the handles that participants have
received, the keys that have been issued, a log of the hooks that ran, and what the components of
the demonstration remember.
-/

namespace Cadence.Script

/-- What a hook of a scripted component did. The participant is its number among all components that
were made; a plugin has none. -/
structure LogEntry where
  who : String
  participant : Option Nat
  hook : HookKind
  tick : Option UInt64
  results : List (Except EnvironmentError Value)

/-- What a supervisor has seen after a tick: the report, and the log since it was last taken. -/
structure Observation (T : Type) where
  report : TickReport T
  log : List LogEntry

/-- The memory that scripts share. -/
structure Memory (T : Type) where
  /-- The handle that the participant of a name received last. -/
  handles : OrderedMap String Handle := {}
  /-- The handle of every participant by its number. -/
  own : OrderedMap Nat Handle := {}
  /-- The key issued last under a label. -/
  keys : OrderedMap String Key := {}
  log : List LogEntry := []
  observations : List (Observation T) := []
  /-- How often every generator has run. -/
  generatorRuns : OrderedMap Nat Nat := {}
  walkers : OrderedMap Nat WalkerState := {}
  reporters : OrderedMap Nat (Option Roster) := {}
  recorders : OrderedMap Nat RecorderState := {}

namespace Memory

variable {T : Type}

/-- A key that no registration has issued. -/
def unissued : Key := ⟨0⟩

/-- The key under a label; an unknown label stands for a key that has not been issued. -/
def keyFor (m : Memory T) (label : String) : Key := (m.keys.get? label).getD unissued

/-- Whether two labels stand for one issued key. -/
def sameKey (m : Memory T) (label other : String) : Bool :=
  (m.keys.get? label).isSome && m.keys.get? label == m.keys.get? other

/-- Keep a key under a label. -/
def keepKey (m : Memory T) (label : String) (key : Key) : Memory T :=
  { m with keys := m.keys.insert label key }

/-- What the walker of a number remembers. -/
def walkerPlace (number : Nat) (seed : UInt64) : Place (Memory T) WalkerState :=
  Place.entry ⟨walkers, fun s m => { m with walkers := s }, fun _ _ => rfl⟩ number
    (Walker.fresh seed)

/-- What the reporter of a number remembers. -/
def reporterPlace (number : Nat) : Place (Memory T) (Option Roster) :=
  Place.entry ⟨reporters, fun s m => { m with reporters := s }, fun _ _ => rfl⟩ number none

/-- What the recorder of a number remembers. -/
def recorderPlace (number : Nat) : Place (Memory T) RecorderState :=
  Place.entry ⟨recorders, fun s m => { m with recorders := s }, fun _ _ => rfl⟩ number {}

/-- Put an entry before those of participants with a greater number and of plugins. -/
def insertEntry (e : LogEntry) : List LogEntry → List LogEntry
  | [] => [e]
  | e' :: rest =>
    let later : Bool :=
      match e.participant, e'.participant with
      | some n, some n' => n' < n
      | some _, none => false
      | none, some _ => true
      | none, none => false
    if later then e' :: insertEntry e rest else e :: e' :: rest

/-- Entries in the order in which the participants were made, with those of plugins at the end. -/
def ordered (log : List LogEntry) : List LogEntry := log.foldr insertEntry []

/-- The log as it is shown under an execution mode. -/
def shownLog (m : Memory T) (mode : ExecutionMode) : List LogEntry :=
  match mode with
  | .sequential => m.log
  | .concurrent => ordered m.log

end Memory

variable {T : Type}

/-- Change the memory. -/
def modify (f : Memory T → Memory T) : Program (Memory T) Unit := .request (.keep f)

/-- The memory. -/
def remembered : Program (Memory T) (Memory T) := Program.request .remembered

end Cadence.Script
