import Cadence.Identity

/-!
# Actions

An action is a tag and a payload. The tag routes it to the one handler that declares the tag, and
only that handler looks into the payload. Its outcome is applied with a response, or rejected with a
reason.
-/

namespace Cadence

/-- Routes an action to its handler. -/
structure ActionTag where
  text : String
  deriving DecidableEq, Repr, Inhabited

/-- Names an entry of the shared state. -/
structure StateKey where
  text : String
  deriving DecidableEq, Repr, Inhabited

/-- Tags are ordered by their texts. -/
instance : Ord ActionTag := ⟨compareOn ActionTag.text⟩

/-- Keys are ordered by their texts. -/
instance : Ord StateKey := ⟨compareOn StateKey.text⟩

instance : Std.TransOrd ActionTag := inferInstanceAs (Std.TransCmp (compareOn ActionTag.text))

instance : Std.TransOrd StateKey := inferInstanceAs (Std.TransCmp (compareOn StateKey.text))

instance : Std.LawfulEqOrd ActionTag where
  eq_of_compare {a b} h := by
    cases a; cases b
    exact congrArg _ (Std.LawfulEqOrd.eq_of_compare (α := String) h)

instance : Std.LawfulEqOrd StateKey where
  eq_of_compare {a b} h := by
    cases a; cases b
    exact congrArg _ (Std.LawfulEqOrd.eq_of_compare (α := String) h)

/-- A tagged request of a participant. -/
structure Action where
  tag : ActionTag
  payload : Value := .null
  deriving DecidableEq, Repr, Inhabited

/-- What became of an action that a handler accepted to look at. -/
inductive ActionOutcome where
  | applied (response : Value)
  | rejected (reason : String)
  deriving DecidableEq, Repr, Inhabited

/-- Why a value has no document: a map has a key that is no text. -/
inductive EncodeError where
  | keyNotText
  deriving DecidableEq, Repr

/-- Why a payload cannot be made from parameters or read as parameters. -/
inductive PayloadError where
  | encode (tag : ActionTag) (cause : EncodeError)
  | decode (tag : ActionTag) (cause : DecodeError)
  deriving DecidableEq, Repr

namespace EncodeError

/-- The text of the cause. -/
def message : EncodeError → String
  | keyNotText => "key must be a string"

end EncodeError

namespace PayloadError

/-- The text of the cause. -/
def message : PayloadError → String
  | encode tag cause =>
    "failed to encode parameters for action `" ++ tag.text ++ "`: " ++ cause.message
  | decode tag cause => "malformed payload for action `" ++ tag.text ++ "`: " ++ cause.message

end PayloadError

namespace ActionTag

/-- A tag as a value. -/
def encode (t : ActionTag) : Value := .string t.text

/-- Read a tag. -/
def decode (v : Value) : Except DecodeError ActionTag := (Decode.text v).map .mk

end ActionTag

namespace StateKey

/-- A key as a value. -/
def encode (k : StateKey) : Value := .string k.text

/-- Read a key. -/
def decode (v : Value) : Except DecodeError StateKey := (Decode.text v).map .mk

end StateKey

namespace Action

/-- An action without a payload. -/
def bare (tag : ActionTag) : Action := ⟨tag, .null⟩

/-- An action whose payload encodes parameters, if they have an encoding. -/
def withParams (tag : ActionTag) (params : Except EncodeError Value) : Except PayloadError Action :=
  match params with
  | .ok payload => .ok ⟨tag, payload⟩
  | .error cause => .error (.encode tag cause)

/-- Read the payload as parameters. -/
def params {α : Type} (a : Action) (decode : Value → Except DecodeError α) :
    Except PayloadError α :=
  match decode a.payload with
  | .ok p => .ok p
  | .error cause => .error (.decode a.tag cause)

/-- An action as a value. -/
def encode (a : Action) : Value :=
  .ofFields [("tag", a.tag.encode), ("payload", a.payload)]

/-- Read an action; without a payload it carries null. -/
def decode (v : Value) : Except DecodeError Action := do
  let r ← Record.ofValue "Action" ["tag", "payload"] v
  let tag ← r.required "tag" ActionTag.decode
  let payload ← r.orElse "payload" Decode.any .null
  r.done ⟨tag, payload⟩

end Action

namespace ActionOutcome

/-- Whether the action was applied. -/
def isApplied : ActionOutcome → Bool
  | applied _ => true
  | rejected _ => false

/-- An outcome as a value. -/
def encode : ActionOutcome → Value
  | applied response => .ofFields [("status", .string "applied"), ("response", response)]
  | rejected reason => .ofFields [("status", .string "rejected"), ("reason", .string reason)]

/-- Read the fields that go with a status. -/
def decodeFields (status : Value) (fields : Value) : Except DecodeError ActionOutcome := do
  let accepted ← Decode.choice [("applied", true), ("rejected", false)] status
  if accepted then
    let r ← Record.ofValue "variant ActionOutcome::Applied" ["response"] fields
    let response ← r.orElse "response" Decode.any .null
    r.done (.applied response)
  else
    let r ← Record.ofValue "variant ActionOutcome::Rejected" ["reason"] fields
    let reason ← r.required "reason" Decode.text
    r.done (.rejected reason)

/-- Read an outcome: an object that names the status beside the other fields, or an array that
starts with the status. -/
def decode : Value → Except DecodeError ActionOutcome
  | .object fields =>
    match OrderedMap.find? "status" fields with
    | some (.string s) => decodeFields (.string s) (.object fields)
    | some v => .error (.invalidType v "variant identifier")
    | none => .error (.missingField "status")
  | .array (.string s :: rest) => decodeFields (.string s) (.array rest)
  | .array (v :: _) => .error (.invalidType v "variant identifier")
  | .array [] => .error (.missingField "status")
  | v => .error (.invalidType v "internally tagged enum ActionOutcome")

end ActionOutcome

end Cadence
