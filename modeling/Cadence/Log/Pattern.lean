import Cadence.Text.Hex

/-!
# Patterns

The regular expressions that a directive may ask the value of a field to match. No event has a
recorded value to compare, so a pattern is never run; `Pattern.isWellFormed` says whether a text is
one. Repetition by count needs a closing brace, which ends the condition on a field before the
pattern is read, so an opening brace stands for itself only behind a backslash or in a class.
-/

namespace Cadence.Pattern

/-! ## Escapes -/

/-- What an escape stands for. -/
inductive Escape where
  | char (c : Char)
  /-- One of many characters. -/
  | oneOf
  /-- A place between characters. -/
  | place
  deriving DecidableEq, Repr

/-- The letters of the classes that an escape names, and their complements. -/
def classLetters : List Char := ['d', 's', 'w', 'D', 'S', 'W']

/-- The categories of characters with a name of one letter. -/
def categoryLetters : List Char := ['c', 'l', 'm', 'n', 'p', 's', 'z']

/-- The controls that have a letter. -/
def controls : List (Char × Char) :=
  [('a', '\x07'), ('f', '\x0c'), ('t', '\t'), ('n', '\n'), ('r', '\r'), ('v', '\x0b')]

/-- Number of digits of a character's code behind the letter that announces it. -/
def codeDigits? : Char → Option Nat
  | 'x' => some 2
  | 'u' => some 4
  | 'U' => some 8
  | _ => none

/-- The character of a code with so many digits. -/
def code? (count : Nat) (cs : List Char) : Option (Escape × List Char) := do
  let digits := cs.take count
  let n ← Text.Hex.read? digits
  if digits.length = count ∧ n.isValidChar then return (.char (Char.ofNat n), cs.drop count)
  else none

/-- What stands behind a backslash, and what follows it. The ends of words are no place that a
pattern may ask for. -/
def escape? : List Char → Option (Escape × List Char)
  | [] => none
  | c :: rest =>
    match codeDigits? c, controls.find? (·.1 = c), rest with
    | some count, _, _ => code? count rest
    | none, some (_, control), _ => some (.char control, rest)
    | none, none, category :: rest' =>
      if c = 'p' ∨ c = 'P' then
        if category.toLower ∈ categoryLetters then some (.oneOf, rest') else none
      else plainEscape? c rest
    | none, none, [] => plainEscape? c rest
where
  /-- An escape of a single character. -/
  plainEscape? (c : Char) (rest : List Char) : Option (Escape × List Char) :=
    if c ∈ classLetters then some (.oneOf, rest)
    else if c = 'A' ∨ c = 'z' then some (.place, rest)
    else if 0x80 ≤ c.toNat ∨ c.isAlphanum ∨ c = '<' ∨ c = '>' then none
    else some (.char c, rest)

/-! ## Classes of characters -/

/-- The classes that have a name between colons. -/
def classNames : List String :=
  ["alnum", "alpha", "ascii", "blank", "cntrl", "digit", "graph", "lower", "print", "punct",
    "space", "upper", "word", "xdigit"]

/-- What follows a class between brackets and colons, if one stands here behind its bracket. -/
def namedClass? : List Char → Option (List Char)
  | ':' :: rest =>
    let rest := match rest with
      | '^' :: r => r
      | r => r
    let name := rest.takeWhile fun c => c != ':'
    match rest.drop name.length with
    | ':' :: ']' :: rest => if String.ofList name ∈ classNames then some rest else none
    | _ => none
  | _ => none

/-- What follows the start of a class behind its bracket: a circumflex, hyphens, and a closing
bracket if it comes first. -/
def classStart (cs : List Char) : List Char :=
  let cs := match cs with
    | '^' :: r => r
    | r => r
  match cs with
  | ']' :: r => r
  | cs => cs.dropWhile fun c => c = '-'

/-- A single item of a class, and what follows it. -/
def classItem? : List Char → Option (Escape × List Char)
  | [] => none
  | '\\' :: rest => escape? rest
  | c :: rest => some (.char c, rest)

/-- An item of a class or a range of characters, and what follows. -/
def classRange? (cs : List Char) : Option (List Char) := do
  let (first, rest) ← classItem? cs
  match rest with
  | '-' :: ']' :: _ => if first = .place then none else return rest
  | '-' :: '-' :: _ => if first = .place then none else return rest
  | '-' :: rest =>
    let (last, rest) ← classItem? rest
    match first, last with
    | .char a, .char b => if a.toNat ≤ b.toNat then return rest else none
    | _, _ => none
  | _ => if first = .place then none else return rest

/-- What follows a class that is open at the given depth. -/
def classEnd? : Nat → Nat → List Char → Option (List Char)
  | 0, _, _ => none
  | _ + 1, _, [] => none
  | fuel + 1, depth, '[' :: rest =>
    match namedClass? rest with
    | some rest => classEnd? fuel depth rest
    | none => classEnd? fuel (depth + 1) (classStart rest)
  | fuel + 1, depth, ']' :: rest =>
    if depth = 0 then some rest else classEnd? fuel (depth - 1) rest
  | fuel + 1, depth, '&' :: '&' :: rest => classEnd? fuel depth rest
  | fuel + 1, depth, '-' :: '-' :: rest => classEnd? fuel depth rest
  | fuel + 1, depth, '~' :: '~' :: rest => classEnd? fuel depth rest
  | fuel + 1, depth, cs => (classRange? cs).bind (classEnd? fuel depth)

/-! ## Groups -/

/-- What an opening parenthesis starts. -/
inductive Opening where
  | group
  /-- Options for what follows in the same group. -/
  | options
  deriving DecidableEq, Repr

/-- Whether some letters are options: none twice, and one hyphen at most, not at the end. -/
def areOptions (cs : List Char) : Bool :=
  cs.all (fun c => c ∈ ['i', 'm', 's', 'U', 'u', 'x', 'R', '-']) && decide cs.Nodup &&
    cs.getLast? != some '-'

/-- Whether some characters are the name of a group. -/
def isGroupName : List Char → Bool
  | [] => false
  | c :: rest =>
    (c = '_' || c.isAlpha) && rest.all fun c => c.isAlphanum || c ∈ ['_', '.', '[', ']']

/-- What stands behind an opening parenthesis, and what follows it. -/
def opening? : List Char → Option (Opening × List Char)
  | '?' :: 'P' :: '<' :: rest => named rest
  | '?' :: '<' :: rest => named rest
  | '?' :: rest =>
    let letters := rest.takeWhile fun c => c != ':' && c != ')'
    match rest.drop letters.length with
    | ':' :: rest => if areOptions letters then some (.group, rest) else none
    | ')' :: rest => if areOptions letters && !letters.isEmpty then some (.options, rest) else none
    | _ => none
  | rest => some (.group, rest)
where
  /-- A group behind its name. -/
  named (cs : List Char) : Option (Opening × List Char) :=
    let name := cs.takeWhile fun c => c != '>'
    match cs.drop name.length with
    | '>' :: rest => if isGroupName name then some (.group, rest) else none
    | _ => none

/-! ## Patterns -/

/-- Whether a text is the rest of a pattern in which so many groups are open; `repeatable` says
whether something stands before it that can be repeated. -/
def isRest : Nat → Nat → Bool → List Char → Bool
  | 0, _, _, _ => false
  | _ + 1, groups, _, [] => groups = 0
  | fuel + 1, groups, _, '(' :: rest =>
    match opening? rest with
    | some (.group, rest) => isRest fuel (groups + 1) false rest
    | some (.options, rest) => isRest fuel groups false rest
    | none => false
  | fuel + 1, groups, _, ')' :: rest => 0 < groups && isRest fuel (groups - 1) true rest
  | fuel + 1, groups, _, '|' :: rest => isRest fuel groups false rest
  | fuel + 1, groups, _, '[' :: rest =>
    match classEnd? (rest.length + 1) 0 (classStart rest) with
    | some rest => isRest fuel groups true rest
    | none => false
  | fuel + 1, groups, _, '\\' :: rest =>
    match escape? rest with
    | some (_, rest) => isRest fuel groups true rest
    | none => false
  | fuel + 1, groups, repeatable, c :: rest =>
    if c = '{' then false
    else if c ∈ ['*', '+', '?'] then repeatable && isRest fuel groups true rest
    else isRest fuel groups true rest

/-- Whether a text is a pattern. -/
def isWellFormed (cs : List Char) : Bool := isRest (cs.length + 1) 0 false cs

end Cadence.Pattern
