import Cadence.Json.Lenient
import Cadence.State.Handler

/-!
# Scripted handlers

A handler whose actions say what it does: the payload is a list of commands on the shared state. The
value of the last command is the response; a command that is refused ends the script.
-/

namespace Cadence.Script

/-- A command of a handler script. -/
inductive HandlerCommand where
  | write (key : StateKey) (value : Value)
  | read (key : StateKey)
  | batch (entries : List (StateKey × Value))
  /-- Add a number to the one at a key. -/
  | add (key : StateKey) (n : Int)
  /-- Append a value to the array at a key. -/
  | push (key : StateKey) (value : Value)
  /-- An update whose function gives up. -/
  | updateRefused (key : StateKey) (refusal : Refusal)
  | echo (value : Value)
  | actor
  | whoami
  | tag
  /-- End the script. -/
  | stop (ending : HandlerEnd)
  deriving DecidableEq, Repr

/-- The number at a key with another one added, within the bounds of a signed word; anything but
such a number counts as zero. -/
def increase (n : Int) (current : Option Value) : Value :=
  .int (max minInt64 (min maxInt64 ((current.bind Value.asInt64?).getD 0 + n)))

/-- The array at a key with a value appended; anything but an array counts as an empty one. -/
def append (v : Value) (current : Option Value) : Value :=
  match current with
  | some (.array items) => .array (items ++ [v])
  | _ => .array [v]

namespace HandlerCommand

/-- The command that a value describes. -/
def ofValue? (v : Value) : Option HandlerCommand :=
  let key : StateKey := ⟨v.textAt "key"⟩
  let msg := v.textAt "msg"
  match v.textAt "c" with
  | "write" => some (.write key (v.valueAt "value"))
  | "read" => some (.read key)
  | "batch" => some (.batch ((v.pairsAt "entries").map fun e => (⟨e.1⟩, e.2)))
  | "add" => some (.add key (v.intAt "n"))
  | "push" => some (.push key (v.valueAt "value"))
  | "update_fail" => some (.updateRefused key (.failed (.failed msg)))
  | "update_panic" => some (.updateRefused key (.panicked (.text msg)))
  | "echo" => some (.echo (v.valueAt "value"))
  | "actor" => some .actor
  | "whoami" => some .whoami
  | "tag" => some .tag
  | "reject" => some (.stop (.finished (.rejected msg)))
  | "fail" => some (.stop (.failed (.failed msg)))
  | "panic" => some (.stop (.panicked (.text msg)))
  | "panic_value" => some (.stop (.panicked .other))
  | _ => none

end HandlerCommand

/-- The script of a payload; one that is no list is empty. -/
def ofPayload (payload : Value) : List HandlerCommand :=
  payload.asItems.filterMap HandlerCommand.ofValue?

/-- Go on with the value of a call on the shared state, or end with its error. -/
def orFail {α : Type} (next : α → HandlerProgram) : Except StateError α → HandlerProgram
  | .ok a => next a
  | .error e => .stop (.failed (.state e))

/-- Go on with the value of an update, or end with its error. -/
def orGiveUp (next : Value → HandlerProgram) :
    Except (UpdateError Refusal) Value → HandlerProgram
  | .ok v => next v
  | .error e => .stop (.ofUpdateError e)

/-- What a script does for an actor, with the value of the command before it. -/
def program (self : HandlerId) (tag : ActionTag) (actor : ParticipantId) :
    Value → List HandlerCommand → HandlerProgram
  | last, [] => .stop (.finished (.applied last))
  | _, c :: rest =>
    let next (v : Value) : HandlerProgram := program self tag actor v rest
    match c with
    | .write key value => .write key value (orFail fun previous => next (.ofOption previous))
    | .read key => .read key (orFail next)
    | .batch entries => .writeBatch entries (orFail fun _ => next .null)
    | .add key n => .update key (fun current => .ok (increase n current)) (orGiveUp next)
    | .push key value => .update key (fun current => .ok (append value current)) (orGiveUp next)
    | .updateRefused key refusal => .update key (fun _ => .error refusal) (orGiveUp next)
    | .echo value => next value
    | .actor => next actor.encode
    | .whoami => next (.string self.text)
    | .tag => next tag.encode
    | .stop ending => .stop ending

/-- A scripted handler. -/
def handler (name : String) (tags : List ActionTag) (keys : List StateKey) : Handler where
  name := name
  tags := tags
  keys := keys
  handle self action actor := program self action.tag actor .null (ofPayload action.payload)

end Cadence.Script
