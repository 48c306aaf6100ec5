import RelPipe.Unicode.Property

/-!
Regular expressions. The functions that build them simplify: what is empty is left out of a
sequence, alternatives that are single characters become one set, and a repetition of something that
takes no characters is at most one.
-/

namespace RelPipe

set_option autoImplicit false

/-- A place in a text, between two characters or at an end. -/
structure Place where
  before : Option Char
  after : Option Char

/-- How a place can lie to the words around it. -/
inductive WordEdge where
  /-- A word begins or ends. -/
  | boundary
  /-- No word begins or ends. -/
  | interior
  | start
  | finish
  /-- No word goes on from the left. -/
  | startHalf
  /-- No word goes on to the right. -/
  | finishHalf
deriving DecidableEq, Hashable

/-- A condition on a place. -/
inductive Look where
  | textStart
  | textEnd
  /-- The start of a line; with `crlf`, lines also end with a carriage return, alone or before a
  line feed. -/
  | lineStart (crlf : Bool)
  | lineEnd (crlf : Bool)
  | word (edge : WordEdge) (unicode : Bool)
deriving DecidableEq, Hashable

inductive Regex where
  | empty
  | one (set : CharSet)
  | look (l : Look)
  | seq (a b : Regex)
  | alt (a b : Regex)
  | rep (a : Regex) (least : Nat) (most : Option Nat)
  /-- A part whose match could be cut out. -/
  | group (a : Regex)
with
  /-- A key that tells most expressions apart. -/
  @[computed_field] key : Regex → UInt64
    | .empty => 1
    | .one set => mixHash 2 (hash set)
    | .look l => mixHash 3 (hash l)
    | .seq a b => mixHash 4 (mixHash a.key b.key)
    | .alt a b => mixHash 5 (mixHash a.key b.key)
    | .rep a least most => mixHash 6 (mixHash a.key (hash (least, most)))
    | .group a => mixHash 7 a.key
deriving DecidableEq

namespace Regex

instance : Hashable Regex := ⟨key⟩

/-- Keys are compared first, since most expressions that differ have different keys. -/
instance : BEq Regex := ⟨fun a b => a.key == b.key && decide (a = b)⟩

instance : LawfulBEq Regex where
  eq_of_beq h := of_decide_eq_true (Bool.and_eq_true_iff.mp h).2
  rfl := by simp [BEq.beq]

end Regex

def asciiWord : CharSet := .ofRanges [('0', '9'), ('A', 'Z'), ('_', '_'), ('a', 'z')]

namespace Look

def isWord (unicode : Bool) : Option Char → Bool
  | some c => (if unicode then Unicode.word else asciiWord).contains c
  | none => false

def holds (p : Place) : Look → Bool
  | textStart => p.before.isNone
  | textEnd => p.after.isNone
  | lineStart crlf =>
    p.before.isNone || p.before == some '\n'
      || crlf && p.before == some '\r' && p.after != some '\n'
  | lineEnd crlf =>
    p.after.isNone || crlf && p.after == some '\r'
      || p.after == some '\n' && !(crlf && p.before == some '\r')
  | word edge unicode =>
    let before := isWord unicode p.before
    let after := isWord unicode p.after
    match edge with
    | .boundary => before != after
    | .interior => before == after
    | .start => !before && after
    | .finish => before && !after
    | .startHalf => !before
    | .finishHalf => !after

end Look

namespace Regex

/-- Whether the expression can only take no characters at all. -/
def isWidthless : Regex → Bool
  | empty | look _ => true
  | one _ => false
  | seq a b | alt a b => isWidthless a && isWidthless b
  | rep a _ _ | group a => isWidthless a

/-- Whether the expression takes at least one character wherever it matches. -/
def takesCharacter : Regex → Bool
  | empty | look _ => false
  | one s => !s.bounds.isEmpty
  | seq a b => takesCharacter a || takesCharacter b
  | alt a b => takesCharacter a && takesCharacter b
  | rep a least _ => 0 < least && takesCharacter a
  | group a => takesCharacter a

def andThen (a b : Regex) : Regex :=
  match a, b with
  | empty, b => b
  | a, empty => a
  | a, b => seq a b

def sequence (parts : List Regex) : Regex := parts.foldr andThen empty

def set? : Regex → Option CharSet
  | one s => some s
  | _ => none

def alternatives (last : Regex) : List Regex → Regex
  | [] => last
  | r :: rest => alt r (alternatives last rest)

def choice (others : List Regex) (last : Regex) : Regex :=
  if others.isEmpty then last
  else
    match (others ++ [last]).mapM set? with
    | some sets => one (.unions sets)
    | none => alternatives last others

/-- Between `least` and `most` times the expression, or any number from `least` on. -/
def repeated (r : Regex) (least : Nat) (most : Option Nat) : Regex :=
  let (least, most) :=
    if r.isWidthless then (min least 1, some (min (most.getD 1) 1)) else (least, most)
  if most = some 0 then empty
  else if least = 1 ∧ most = some 1 then r
  else rep r least most

end Regex

end RelPipe
