import Cadence.Service
import Cadence.State.Handler

/-!
# Errors of the environment

The causes for which the environment refuses a call, and their texts.
-/

namespace Cadence

/-- What two handlers both claim. -/
inductive Claim where
  | tag (t : ActionTag)
  | key (k : StateKey)
  deriving DecidableEq, Repr

/-- Why the handlers of an environment cannot be as asked for. -/
inductive ConfigurationFault where
  | noTags (handler : String)
  | tooManyHandlers
  deriving DecidableEq, Repr

/-- Why the environment refuses a call. -/
inductive EnvironmentError where
  | alreadyRegistered (participant : ParticipantId)
  | invalidAuthorization (participant : ParticipantId)
  | conflictingOwnership (claim : Claim) (owner claimant : String)
  | noHandlerFound (tag : ActionTag)
  | actionExecutionFailed (tag : ActionTag) (handler reason : String)
  | unavailableService (kind : ServiceKind)
  | tickClosed (tick : UInt64)
  | configuration (fault : ConfigurationFault)
  /-- A registration made while services are generated for another, too many levels deep. This is an
  error of the model alone: the environment that is modelled has no such limit, and registrations
  that are nested without end do not end there. -/
  | nestedTooDeeply (participant : ParticipantId)
  deriving DecidableEq, Repr

namespace Claim

/-- How a message names a claim. -/
def text : Claim → String
  | tag t => "action tag `" ++ t.text ++ "`"
  | key k => "state key `" ++ k.text ++ "`"

end Claim

namespace ConfigurationFault

/-- The text of the fault. -/
def message : ConfigurationFault → String
  | noTags handler => "handler `" ++ handler ++ "` declares no action tags"
  | tooManyHandlers => "too many action handlers"

end ConfigurationFault

namespace EnvironmentError

/-- The text of the cause. -/
def message : EnvironmentError → String
  | alreadyRegistered p => "participant " ++ p.text ++ " is already registered"
  | invalidAuthorization p => "invalid authorization for participant " ++ p.text
  | conflictingOwnership claim owner claimant =>
    claim.text ++ " is already owned by handler `" ++ owner ++ "`; `" ++ claimant ++
      "` cannot claim it"
  | noHandlerFound tag => "no handler accepts action `" ++ tag.text ++ "`"
  | actionExecutionFailed tag handler reason =>
    "handler `" ++ handler ++ "` failed on action `" ++ tag.text ++ "`: " ++ reason
  | unavailableService kind => "environment service unavailable: " ++ kind.name
  | tickClosed tick =>
    "tick " ++ toString tick.toNat ++
      " is closed; actions are accepted only while a tick is running"
  | configuration fault => "invalid environment configuration: " ++ fault.message
  | nestedTooDeeply p => "registration of participant " ++ p.text ++ " is nested too deeply"

end EnvironmentError

end Cadence
