import Cadence.Script.Memory

/-!
# Scripted generators

Policies for the services of a member: give a text, count the runs, drop a kind, and say what is
seen of the set and of the registrations. Two of them register or deregister the very member they
are asked about.
-/

namespace Cadence.Script

/-- What a scripted generator does. -/
inductive GeneratorScript where
  /-- A text followed by the name of the member. -/
  | give (kind : ServiceKind) (text : String)
  /-- How often the generator has run. -/
  | count (kind : ServiceKind)
  | drop (kind : ServiceKind)
  /-- Whether a kind is there, the number of services, and whether there are none, as a service of a
  second kind. -/
  | mark (kind into : ServiceKind)
  /-- Whether the member is registered. -/
  | probe (kind : ServiceKind)
  /-- Register the member on the first run. -/
  | sneak
  /-- Deregister the member. -/
  | kick
  deriving DecidableEq, Repr

namespace GeneratorScript

variable {T : Type}

/-- The text of a truth value. -/
def truthText (b : Bool) : String := if b then "true" else "false"

/-- Register a member under the name and the label `sneak`. -/
def register (member : Member) : Program (Memory T) Unit := do
  match ← Program.request (.register member.id "sneak") with
  | .ok admission => modify fun m => m.keepKey "sneak" admission.key
  | .error _ => return ()

/-- Deregister a member, if it is registered, with the key under its own label. -/
def deregister (member : Member) : Program (Memory T) Unit := do
  if ← Program.request (.isRegistered member.id) then
    let m ← remembered
    let _ ← Program.request (.deregister member.id (m.keyFor member.id.text))

/-- Count a run of the generator of the given number. -/
def countRun (number : Nat) : Program (Memory T) Nat := do
  let runs := ((← remembered).generatorRuns.get? number).getD 0 + 1
  modify fun m => { m with generatorRuns := m.generatorRuns.insert number runs }
  return runs

/-- The generator of the given number. -/
def generator (number : Nat) (g : GeneratorScript) : Generator (Memory T) :=
  fun member services => do
  let runs ← countRun number
  match g with
  | .give kind text => return ServiceSet.add services (.note kind (text ++ member.name))
  | .count kind => return ServiceSet.add services (.note kind (toString runs))
  | .drop kind => return services.erase kind
  | .mark kind into =>
    let text := truthText (services.contains kind) ++ "/" ++ toString services.size ++ "/" ++
      truthText services.isEmpty
    return ServiceSet.add services (.note into text)
  | .probe kind =>
    let isIn ← Program.request (.isRegistered member.id)
    return ServiceSet.add services (.note kind (if isIn then "in" else "out"))
  | .sneak =>
    if runs = 1 then register member
    return services
  | .kick =>
    deregister member
    return services

end GeneratorScript

/-- The generators of some scripts, numbered in order. -/
def generators {T : Type} (gs : List GeneratorScript) : List (Generator (Memory T)) :=
  gs.zipIdx.map fun (g, n) => g.generator n

end Cadence.Script
