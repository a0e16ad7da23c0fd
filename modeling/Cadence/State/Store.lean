import Cadence.Action

/-!
# Shared state

A map from keys to values in which every key that can be written has one owner, fixed from the
start. Anyone may read; only the owner of a key writes it. `Store.write`, `Store.writeBatch` and
`Store.update` check the owner before they look at anything else.
-/

namespace Cadence

/-- Names a handler by the number of handlers accepted before it. -/
structure HandlerId where
  index : Nat
  deriving DecidableEq, Repr, Inhabited

namespace HandlerId

/-- The text of the identifier. -/
def text (h : HandlerId) : String := "handler#" ++ toString h.index

end HandlerId

/-- Why an operation on shared state is refused. -/
inductive StateError where
  | notFound (key : StateKey)
  | unauthorized (key : StateKey) (caller : HandlerId) (owner : Option HandlerId)
  deriving DecidableEq, Repr

namespace StateError

/-- The text of the cause. -/
def message : StateError → String
  | notFound key => "state key not found: " ++ key.text
  | unauthorized key caller owner =>
    "handler " ++ caller.text ++ " may not write `" ++ key.text ++ "` (owner: " ++
      (match owner with | some h => h.text | none => "none") ++ ")"

end StateError

/-- Why an update does not happen: the caller may not, or the update function gives up. -/
inductive UpdateError (ε : Type) where
  | state (e : StateError)
  | function (e : ε)
  deriving DecidableEq, Repr

/-- The shared state and the owners of its keys. -/
structure Store where
  owners : OrderedMap StateKey HandlerId := {}
  entries : OrderedMap StateKey Value := {}
  deriving DecidableEq, Repr, Inhabited

namespace Store

/-- A store without entries whose keys have the given owners. -/
def withOwners (owners : OrderedMap StateKey HandlerId) : Store := { owners := owners }

/-- The value at a key. -/
def read (s : Store) (key : StateKey) : Except StateError Value :=
  match s.entries.get? key with
  | some v => .ok v
  | none => .error (.notFound key)

/-- Whether a key has a value. -/
def contains (s : Store) (key : StateKey) : Bool := s.entries.contains key

/-- The owner of a key. -/
def ownerOf? (s : Store) (key : StateKey) : Option HandlerId := s.owners.get? key

/-- Number of keys with a value. -/
def size (s : Store) : Nat := s.entries.size

/-- Whether no key has a value. -/
def isEmpty (s : Store) : Bool := s.entries.isEmpty

/-- All entries in the order of their keys. -/
def snapshot (s : Store) : OrderedMap StateKey Value := s.entries

/-- Check that the caller owns a key. -/
def authorize (s : Store) (key : StateKey) (caller : HandlerId) : Except StateError Unit :=
  if s.ownerOf? key = some caller then .ok ()
  else .error (.unauthorized key caller (s.ownerOf? key))

/-- Check that the caller owns every one of some keys; the first it does not own is reported. -/
def authorizeAll (s : Store) (caller : HandlerId) : List StateKey → Except StateError Unit
  | [] => .ok ()
  | key :: rest =>
    match s.authorize key caller with
    | .ok () => s.authorizeAll caller rest
    | .error e => .error e

/-- The store with a value set, whoever owns the key. -/
def set (s : Store) (key : StateKey) (value : Value) : Store :=
  { s with entries := s.entries.insert key value }

/-- Write a value: the value before it, and the store after it. -/
def write (s : Store) (key : StateKey) (value : Value) (caller : HandlerId) :
    Except StateError (Option Value) × Store :=
  match s.authorize key caller with
  | .ok () => (.ok (s.entries.get? key), s.set key value)
  | .error e => (.error e, s)

/-- Write several values in order, or none of them. -/
def writeBatch (s : Store) (entries : List (StateKey × Value)) (caller : HandlerId) :
    Except StateError Unit × Store :=
  match s.authorizeAll caller (entries.map Prod.fst) with
  | .ok () => (.ok (), { s with entries := s.entries.insertAll entries })
  | .error e => (.error e, s)

/-- Replace the value at a key by what a function makes of it. The function may have effects of its
own. -/
def updateM {m : Type → Type} [Monad m] {ε : Type} (s : Store) (key : StateKey) (caller : HandlerId)
    (f : Option Value → m (Except ε Value)) : m (Except (UpdateError ε) Value × Store) :=
  match s.authorize key caller with
  | .error e => return (.error (.state e), s)
  | .ok () => do
    match ← f (s.entries.get? key) with
    | .ok v => return (.ok v, s.set key v)
    | .error e => return (.error (.function e), s)

/-- Replace the value at a key by what a function without effects makes of it. -/
def update {ε : Type} (s : Store) (key : StateKey) (caller : HandlerId)
    (f : Option Value → Except ε Value) : Except (UpdateError ε) Value × Store :=
  Id.run (s.updateM key caller fun current => return f current)

/-- What an update does that may happen. -/
theorem update_of_ok {ε : Type} {s : Store} {key : StateKey} {caller : HandlerId}
    (h : s.authorize key caller = .ok ()) (f : Option Value → Except ε Value) :
    s.update key caller f =
      match f (s.entries.get? key) with
      | .ok v => (.ok v, s.set key v)
      | .error e => (.error (.function e), s) := by
  rw [update, updateM, h]
  dsimp only [Id.run, pure, bind]
  cases f (s.entries.get? key) <;> rfl

/-- What an update does that may not happen. -/
theorem update_of_error {ε : Type} {s : Store} {key : StateKey} {caller : HandlerId}
    {e : StateError} (h : s.authorize key caller = .error e) (f : Option Value → Except ε Value) :
    s.update key caller f = (.error (.state e), s) := by
  rw [update, updateM, h]
  rfl

end Store

end Cadence
