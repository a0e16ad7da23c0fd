import Cadence.Environment.Error

/-!
# The registry of handlers

Accepted handlers in order, with the tags they take and the keys they own. No tag and no key has two
handlers: `Registry.register` refuses a handler that claims one already taken, and a refusal leaves
the registry as it was.
-/

namespace Cadence

/-- An accepted handler. -/
structure RegisteredHandler where
  id : HandlerId
  handler : Handler

namespace RegisteredHandler

/-- The name under which the handler was accepted. -/
def name (h : RegisteredHandler) : String := h.handler.name

/-- How an accepted handler shows in a debug text. -/
def debugText (h : RegisteredHandler) : String :=
  "RegisteredHandler \x7b id: HandlerId(" ++ toString h.id.index ++ "), name: " ++
    Text.quoted h.name ++ ", .. \x7d"

end RegisteredHandler

/-- The accepted handlers. -/
structure Registry where
  handlers : List RegisteredHandler := []
  byTag : OrderedMap ActionTag Nat := {}
  keyOwners : OrderedMap StateKey HandlerId := {}

namespace Registry

/-- Number of handlers that a registry has room for. -/
def capacity : Nat := 4294967296

/-- Number of accepted handlers. -/
def size (r : Registry) : Nat := r.handlers.length

/-- Whether no handler has been accepted. -/
def isEmpty (r : Registry) : Bool := r.handlers.isEmpty

/-- The handler that takes a tag. -/
def handlerOf? (r : Registry) (tag : ActionTag) : Option RegisteredHandler :=
  (r.byTag.get? tag).bind fun i => r.handlers[i]?

/-- The handler that takes a tag, or that there is none. -/
def resolve (r : Registry) (tag : ActionTag) : Except EnvironmentError RegisteredHandler :=
  match r.handlerOf? tag with
  | some h => .ok h
  | none => .error (.noHandlerFound tag)

/-- The name of the handler that takes a tag. -/
def tagOwner? (r : Registry) (tag : ActionTag) : Option String :=
  (r.handlerOf? tag).map RegisteredHandler.name

/-- The name of the handler that owns a key. -/
def keyOwner? (r : Registry) (key : StateKey) : Option String :=
  (r.keyOwners.get? key).map fun id =>
    match r.handlers.find? fun h => h.id == id with
    | some h => h.name
    | none => id.text

/-- The first claim of a handler that another one has made: its tags in order, then its keys. -/
def conflict? (r : Registry) (h : Handler) : Option (Claim × String) :=
  ((OrderedMap.distinct h.tags).findSome? fun t => (r.tagOwner? t).map fun o => (.tag t, o)) <|>
    ((OrderedMap.distinct h.keys).findSome? fun k => (r.keyOwner? k).map fun o => (.key k, o))

/-- The registry with one more handler, whatever it claims. -/
def add (r : Registry) (h : Handler) : Registry where
  handlers := r.handlers ++ [⟨⟨r.size⟩, h⟩]
  byTag := r.byTag.insertAll (h.tags.map fun t => (t, r.size))
  keyOwners := r.keyOwners.insertAll (h.keys.map fun k => (k, ⟨r.size⟩))

/-- Accept a handler, or say why not. -/
def register (r : Registry) (h : Handler) : Except EnvironmentError (HandlerId × Registry) :=
  if h.tags.isEmpty then .error (.configuration (.noTags h.name))
  else
    match r.conflict? h with
    | some (claim, owner) => .error (.conflictingOwnership claim owner h.name)
    | none =>
      if r.size < capacity then .ok (⟨r.size⟩, r.add h)
      else .error (.configuration .tooManyHandlers)

/-- The tags that are taken, in order. -/
def tags (r : Registry) : List ActionTag := r.byTag.keys

/-- How a registry shows in a debug text. -/
def debugText (r : Registry) : String :=
  "HandlerRegistry \x7b handlers: [" ++
    Text.commaSeparated (r.handlers.map RegisteredHandler.debugText) ++ "], by_tag: \x7b" ++
    Text.commaSeparated (r.byTag.entries.map fun e =>
      "ActionTag(" ++ Text.quoted e.1.text ++ "): " ++ toString e.2) ++ "\x7d, key_owners: \x7b" ++
    Text.commaSeparated (r.keyOwners.entries.map fun e =>
      "StateKey(" ++ Text.quoted e.1.text ++ "): HandlerId(" ++ toString e.2.index ++ ")") ++
    "\x7d \x7d"

end Registry

end Cadence
