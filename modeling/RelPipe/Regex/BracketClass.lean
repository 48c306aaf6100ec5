import RelPipe.Regex.Escape

/-!
Bracketed classes. The text is taken item by item; the classes that are still open are held on a
stack. Classes count how deeply they are nested, since patterns that nest too deeply are refused.
-/

namespace RelPipe.Regex

set_option autoImplicit false

inductive SetOperator where
  | intersection | difference | symmetricDifference

def SetOperator.apply : SetOperator → CharSet → CharSet → CharSet
  | intersection => .intersection
  | difference => .difference
  | symmetricDifference => .symmetricDifference

/-- The depth of several things side by side that count as one more level than each alone. -/
def depthOfSeveral (count depth : Nat) : Nat := if 1 < count then depth + 1 else depth

structure Described where
  set : CharSet
  depth : Nat

/-- A class that is still open: whether it is negated, the part left of the last operator with that
operator, and the members since, with their number and the greatest of their depths. -/
structure OpenClass where
  negated : Bool
  left : Option (Described × SetOperator)
  members : CharSet
  count : Nat
  depth : Nat

namespace OpenClass

def add (o : OpenClass) (d : Described) : OpenClass :=
  { o with members := o.members.union d.set, count := o.count + 1, depth := max o.depth d.depth }

def addSet (o : OpenClass) (s : CharSet) : OpenClass := o.add ⟨s, 0⟩

def combined (options : Options) (o : OpenClass) : Described :=
  let depth := depthOfSeveral o.count o.depth
  match o.left with
  | some (left, operator) =>
    ⟨operator.apply (options.closed left.set) (options.closed o.members), max left.depth depth + 1⟩
  | none => ⟨o.members, depth⟩

def operator (options : Options) (o : OpenClass) (operator : SetOperator) : OpenClass :=
  ⟨o.negated, some (o.combined options, operator), .none, 0, 0⟩

/-- The whole class. Letter case is a matter of what it holds before it is negated. -/
def close? (options : Options) (o : OpenClass) : Option Described :=
  let d := o.combined options
  (options.negated? o.negated (options.closed d.set)).map (⟨·, d.depth + 1⟩)

def leadingMinus (options : Options) : (fuel : Nat) → OpenClass → List Char → OpenClass × List Char
  | fuel + 1, o, '-' :: cs => leadingMinus options fuel (o.addSet (.single '-')) (options.skip cs)
  | _, o, cs => (o, cs)

/-- The beginning of a class after its opening bracket: a negation, minus signs that stand for
themselves and, if it would close an empty class, a bracket that stands for itself. -/
def start (options : Options) (cs : List Char) : OpenClass × List Char :=
  let (negated, cs) := match options.skip cs with
    | '^' :: cs => (true, options.skip cs)
    | cs => (false, cs)
  match leadingMinus options cs.length ⟨negated, none, .none, 0, 0⟩ cs with
  | (⟨negated, left, members, 0, depth⟩, ']' :: cs) =>
    ((⟨negated, left, members, 0, depth⟩ : OpenClass).addSet (.single ']'), options.skip cs)
  | begun => begun

end OpenClass

/-- A member of a class: a character, which may begin a range, or a set. -/
inductive Member where
  | literal (c : Char)
  | set (s : CharSet)

def Member.toSet : Member → CharSet
  | literal c => .single c
  | set s => s

def member? (options : Options) : List Char → Option (Member × List Char)
  | [] => none
  | '\\' :: cs =>
    match escape? options cs with
    | some (.literal c, rest) => if options.admits c then some (.literal c, rest) else none
    | some (.set s, rest) => some (.set s, rest)
    | _ => none
  | c :: cs => if options.admits c then some (.literal c, cs) else none

/-- The character that decides whether a minus sign makes a range. In a verbose pattern it is the
next one that is not blank, where the mark of a comment counts as blank once. -/
def decisive? (options : Options) (cs : List Char) : Option Char :=
  if options.verbose then
    match cs.dropWhile Text.isBlank with
    | '#' :: cs => (cs.dropWhile Text.isBlank).head?
    | cs => cs.head?
  else cs.head?

/-- A member or a range of characters. A minus sign before the end of the class or before another
minus sign does not make a range. -/
def item? (options : Options) (cs : List Char) : Option (CharSet × List Char) := do
  let (first, rest) ← member? options cs
  match options.skip rest with
  | '-' :: rest =>
    match decisive? options rest with
    | some ']' | some '-' => some (first.toSet, '-' :: rest)
    | _ =>
      let (second, rest) ← member? options (options.skip rest)
      match first, second with
      | .literal low, .literal high => if low ≤ high then some (.range low high, rest) else none
      | _, _ => none
  | rest => some (first.toSet, rest)

/-- A class by name, such as `[:alpha:]`, without its opening bracket. -/
def namedClass? (cs : List Char) : Option ((Bool × CharSet) × List Char) :=
  match cs with
  | ':' :: cs => do
    let (negated, cs) := match cs with
      | '^' :: cs => (true, cs)
      | cs => (false, cs)
    let (name, rest) ← Text.cutAt? ':' cs
    match rest with
    | ']' :: rest =>
      let s ← Escape.asciiSet? (String.ofList name)
      some ((negated, s), rest)
    | _ => none
  | _ => none

/-- Reads the classes that are open, the innermost first. Every step takes at least one character,
so the length of the text is enough fuel. -/
def classFrom? (options : Options) : (fuel : Nat) → OpenClass → List OpenClass → List Char →
    Option (Described × List Char)
  | 0, _, _, _ => none
  | fuel + 1, o, outer, cs =>
    match options.skip cs with
    | [] => none
    | ']' :: rest =>
      match o.close? options, outer with
      | none, _ => none
      | some d, [] => some (d, rest)
      | some d, parent :: outer => classFrom? options fuel (parent.add d) outer rest
    | '[' :: rest =>
      match namedClass? rest with
      | some ((negated, s), rest) =>
        match options.negated? negated (options.closed s) with
        | some s => classFrom? options fuel (o.addSet s) outer rest
        | none => none
      | none =>
        let (inner, rest) := OpenClass.start options rest
        classFrom? options fuel inner (o :: outer) rest
    | '&' :: '&' :: rest => classFrom? options fuel (o.operator options .intersection) outer rest
    | '-' :: '-' :: rest => classFrom? options fuel (o.operator options .difference) outer rest
    | '~' :: '~' :: rest =>
      classFrom? options fuel (o.operator options .symmetricDifference) outer rest
    | cs =>
      match item? options cs with
      | some (s, rest) => classFrom? options fuel (o.addSet s) outer rest
      | none => none

def class? (options : Options) (cs : List Char) : Option (Described × List Char) :=
  let (o, rest) := OpenClass.start options cs
  classFrom? options (rest.length + 1) o [] rest

end RelPipe.Regex
