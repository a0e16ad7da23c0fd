import Cadence.Action

/-!
# Services

A service is a capability that components look up by its kind. A set holds at most one service of
each kind. Services exist in two scopes: the global set of an environment, and one set per
participant.
-/

namespace Cadence

/-- The kind by which a service is looked up. -/
structure ServiceKind where
  name : String
  deriving DecidableEq, Repr, Inhabited

/-- Kinds are ordered by their names. -/
instance : Ord ServiceKind := ⟨compareOn ServiceKind.name⟩

instance : Std.TransOrd ServiceKind := inferInstanceAs (Std.TransCmp (compareOn ServiceKind.name))

instance : Std.LawfulEqOrd ServiceKind where
  eq_of_compare {a b} h := by
    cases a; cases b
    exact congrArg _ (Std.LawfulEqOrd.eq_of_compare (α := String) h)

namespace ServiceKind

/-- The list of those who are registered. -/
def members : ServiceKind := ⟨"lockstep_env::services::MembersService"⟩

/-- The reading side of the shared state. -/
def view : ServiceKind := ⟨"lockstep_env::state::StateView"⟩

/-- The database of a run. -/
def database : ServiceKind := ⟨"lockstep_db::memory::MemoryDatabase"⟩

end ServiceKind

/-- Whose list of members a service shows: that of the environment, or one that nobody joins. -/
inductive Roster where
  | environment
  | unattended
  deriving DecidableEq, Repr, Inhabited

/-- A service. -/
inductive Service where
  /-- A text of the given kind. -/
  | note (kind : ServiceKind) (text : String)
  /-- A list of members. -/
  | members (roster : Roster)
  /-- The reading side of the shared state. -/
  | view
  /-- The database of the run. -/
  | database
  deriving DecidableEq, Repr, Inhabited

namespace Service

/-- The kind of a service. -/
def kind : Service → ServiceKind
  | note kind _ => kind
  | members _ => .members
  | view => .view
  | database => .database

end Service

/-- At most one service of each kind. -/
abbrev ServiceSet := OrderedMap ServiceKind Service

namespace ServiceSet

/-- Add a service, in place of one of the same kind. -/
def add (s : ServiceSet) (service : Service) : ServiceSet := s.insert service.kind service

/-- The names of the kinds that are there, in order. -/
def names (s : ServiceSet) : List String := s.keys.map ServiceKind.name

/-- How a set shows in a debug text. -/
def debugText (s : ServiceSet) : String :=
  "\x7b" ++ Text.commaSeparated ((ServiceSet.names s).map Text.quoted) ++ "\x7d"

end ServiceSet

end Cadence
