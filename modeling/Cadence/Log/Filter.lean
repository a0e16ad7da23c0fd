import Cadence.Log.Directive

/-!
# Filters of log events

A filter is a list of directives with commas between them. Of the directives that cover an event the
most specific one decides whether it is let through, and of several that are equally specific the
last.
-/

namespace Cadence

/-- A filter of events. -/
structure Filter where
  directives : List Directive
  deriving DecidableEq, Repr

namespace Filter

/-- The parts of a text between commas. -/
def parts : List Char → List (List Char)
  | [] => [[]]
  | ',' :: rest => [] :: parts rest
  | c :: rest =>
    match parts rest with
    | part :: others => (c :: part) :: others
    | [] => [[c]]

/-- The filter that a text writes; without any directive it lets errors through. -/
def ofText (text : String) : Except FilterFault Filter := do
  match ← ((parts text.toList).filter fun p => !p.isEmpty).mapM Directive.ofText with
  | [] => return ⟨[{ threshold := .upTo .error }]⟩
  | directives => return ⟨directives⟩

/-- The directive that decides about an event. -/
def deciding? (f : Filter) (e : Event) : Option Directive :=
  (f.directives.filter fun d => d.concernsEvents && d.covers e).foldl
    (fun found d => match found with
      | some d' => some (if d'.precedes d then d' else d)
      | none => some d) none

/-- Whether an event is let through. -/
def admits (f : Filter) (e : Event) : Bool :=
  match f.deciding? e with
  | some d => d.threshold.admits e.level
  | none => false

end Filter

end Cadence
