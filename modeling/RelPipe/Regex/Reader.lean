import RelPipe.Regex.BracketClass
import RelPipe.Regex.Footprint
import RelPipe.Regex.GroupName
import RelPipe.Regex.Search
import RelPipe.Text.Numeral

/-!
Reading regular expressions. The text is taken piece by piece; the groups that are still open are
held on a stack. Greedy and reluctant repetitions are told apart only when a match is cut out of a
text, so the marks of reluctance are skipped. A pattern is refused if it is malformed, nests too
deeply or would need too large an automaton.
-/

namespace RelPipe.Regex

set_option autoImplicit false

namespace Reader

/-! Repetitions -/

/-- A decimal number of 32 bits between blanks. -/
def count? (o : Options) (cs : List Char) : Option (Nat × List Char) := do
  let (digits, rest) := o.gather Char.isDigit cs.length (cs.dropWhile Text.isBlank)
  let n ← if digits.isEmpty then none else Text.Numeral.natural? digits
  if n < 0x100000000 then some (n, rest.dropWhile Text.isBlank) else none

def afterBounds? : List Char → Option (List Char)
  | '\x7d' :: rest => some rest
  | _ => none

/-- The bounds of a counted repetition after its opening brace. Only a comma right before the
closing brace leaves the number of times open. -/
def bounds? (o : Options) (cs : List Char) : Option ((Nat × Option Nat) × List Char) := do
  let (least, rest) ← count? o (o.skip cs)
  match rest with
  | ',' :: rest =>
    match o.skip rest with
    | '\x7d' :: rest => some ((least, none), o.skip rest)
    | rest =>
      let (most, rest) ← count? o rest
      let rest ← afterBounds? rest
      if least ≤ most then some ((least, some most), o.skip rest) else none
  | rest =>
    let rest ← afterBounds? rest
    some ((least, some least), o.skip rest)

/-- Skips the mark of a reluctant repetition. -/
def afterRepetition : List Char → List Char
  | '?' :: cs => cs
  | cs => cs

/-! Groups -/

/-- The options that a group begins with, up to the colon or the bracket that ends them. No option
is named twice, and a minus sign is followed by at least one. -/
def options? (value dangling : Bool) (seen : List Char) (o : Options) : List Char →
    Option (Options × Char × List Char)
  | [] => none
  | c :: cs =>
    if seen.contains c then none
    else
      match c with
      | 'i' => options? value false (c :: seen) { o with caseless := value } cs
      | 'm' => options? value false (c :: seen) { o with multiline := value } cs
      | 's' => options? value false (c :: seen) { o with dotAll := value } cs
      | 'R' => options? value false (c :: seen) { o with crlf := value } cs
      | 'u' => options? value false (c :: seen) { o with unicode := value } cs
      | 'x' => options? value false (c :: seen) { o with verbose := value } cs
      | 'U' => options? value false (c :: seen) o cs
      | '-' => if value then options? false true (c :: seen) o cs else none
      | ':' => if dangling then none else some (o, ':', cs)
      | ')' => if dangling || seen.isEmpty then none else some (o, ')', cs)
      | _ => none

/-- A part of a sequence and how deeply it is nested. The places where options are set are parts
that cannot be repeated. -/
structure Part where
  regex : Regex
  depth : Nat
  repeatable : Bool

/-- A group that is still open, or the whole pattern: whether its match could be cut out, its
alternatives and the parts of the last one, both in reverse, and the options to return to. -/
structure Level where
  capturing : Bool
  alternatives : List (Regex × Nat)
  parts : List Part
  options : Options

namespace Level

def start (capturing : Bool) (options : Options) : Level := ⟨capturing, [], [], options⟩

def add (l : Level) (part : Part) : Level := { l with parts := part :: l.parts }

def maxDepth (depths : List Nat) : Nat := depths.foldl max 0

def sequence (l : Level) : Regex × Nat :=
  (Regex.sequence (l.parts.reverse.map (·.regex)),
    depthOfSeveral l.parts.length (maxDepth (l.parts.map (·.depth))))

def nextAlternative (l : Level) : Level :=
  { l with alternatives := l.sequence :: l.alternatives, parts := [] }

def close (l : Level) : Regex × Nat :=
  let (last, depth) := l.sequence
  (choice (l.alternatives.reverse.map (·.1)) last,
    depthOfSeveral (l.alternatives.length + 1) (maxDepth (depth :: l.alternatives.map (·.2))))

def closeGroup (l : Level) : Part :=
  let (r, depth) := l.close
  ⟨if l.capturing then .group r else r, depth + 1, true⟩

def repeatLast? (l : Level) (least : Nat) (most : Option Nat) : Option Level :=
  match l.parts with
  | part :: parts =>
    if part.repeatable then
      some { l with parts := ⟨part.regex.repeated least most, part.depth + 1, true⟩ :: parts }
    else none
  | [] => none

end Level

/-- The state of reading: the options in force, the names of the groups so far, the innermost group
and those around it. -/
structure Reading where
  options : Options
  names : List (List Char)
  level : Level
  outer : List Level

namespace Reading

def start (options : Options) : Reading := ⟨options, [], .start false options, []⟩

def add (s : Reading) (r : Regex) : Reading := { s with level := s.level.add ⟨r, 0, true⟩ }

def literal (s : Reading) (c : Char) : Reading := s.add (.one (s.options.closed (.single c)))

def openGroup (s : Reading) (capturing : Bool) (options : Options) : Reading :=
  { s with options, level := .start capturing s.options, outer := s.level :: s.outer }

def openNamed? (s : Reading) (cs : List Char) : Option (Reading × List Char) := do
  let (name, rest) ← GroupName.read? cs
  if s.names.contains name then none
  else some ({ s.openGroup true s.options with names := name :: s.names }, rest)

def closeGroup? (s : Reading) : Option Reading :=
  match s.outer with
  | [] => none
  | parent :: outer =>
    some { s with options := s.level.options, level := parent.add s.level.closeGroup, outer }

def repeatLast? (s : Reading) (least : Nat) (most : Option Nat) : Option Reading :=
  (s.level.repeatLast? least most).map fun level => { s with level }

/-- Opens a group after its bracket, or sets options up to the end of the group around it. -/
def group? (s : Reading) (cs : List Char) : Option (Reading × List Char) :=
  match s.options.skip cs with
  | '?' :: 'P' :: '<' :: cs | '?' :: '<' :: cs => s.openNamed? cs
  | '?' :: cs => do
    let (options, last, rest) ← options? true false [] s.options cs
    if last = ':' then some (s.openGroup false options, rest)
    else some ({ s with options, level := s.level.add ⟨.empty, 0, false⟩ }, rest)
  | cs => some (s.openGroup true s.options, cs)

/-- The characters that a dot stands for. Without Unicode it would stand for single bytes. -/
def dot? (o : Options) : Option CharSet :=
  if !o.unicode then none
  else if o.dotAll then some .all
  else if o.crlf then some (CharSet.ofRanges [('\n', '\n'), ('\r', '\r')]).complement
  else some .inLine

def step? (s : Reading) (c : Char) (cs : List Char) : Option (Reading × List Char) :=
  match c with
  | '(' => s.group? cs
  | ')' => s.closeGroup?.map (·, cs)
  | '|' => some ({ s with level := s.level.nextAlternative }, cs)
  | '*' => (s.repeatLast? 0 none).map (·, afterRepetition cs)
  | '+' => (s.repeatLast? 1 none).map (·, afterRepetition cs)
  | '?' => (s.repeatLast? 0 (some 1)).map (·, afterRepetition cs)
  | '\x7b' => do
    let ((least, most), rest) ← bounds? s.options cs
    let s ← s.repeatLast? least most
    some (s, afterRepetition rest)
  | '[' => do
    let (d, rest) ← class? s.options cs
    some ({ s with level := s.level.add ⟨.one d.set, d.depth, true⟩ }, rest)
  | '.' => (dot? s.options).map fun set => (s.add (.one set), cs)
  | '^' =>
    some (s.add (.look (if s.options.multiline then .lineStart s.options.crlf else .textStart)), cs)
  | '$' =>
    some (s.add (.look (if s.options.multiline then .lineEnd s.options.crlf else .textEnd)), cs)
  | '\\' =>
    match escape? s.options cs with
    | some (.literal c, rest) => some (s.literal c, rest)
    | some (.set set, rest) => some (s.add (.one set), rest)
    | some (.look l, rest) => some (s.add (.look l), rest)
    | none => none
  | c => some (s.literal c, cs)

/-- Takes all pieces. Every step takes at least one character, so the length of the pattern is
enough fuel. -/
def run? : (fuel : Nat) → Reading → List Char → Option (Regex × Nat)
  | fuel, s, cs =>
    match fuel, s.options.skip cs with
    | _, [] => if s.outer.isEmpty then some s.level.close else none
    | 0, _ :: _ => none
    | fuel + 1, c :: cs =>
      match s.step? c cs with
      | some (s, rest) => run? fuel s rest
      | none => none

end Reading

end Reader

/-- How deeply groups, repetitions, sequences, alternatives and classes may be nested in all. -/
def maxDepth : Nat := 250

def ofPattern? (options : Options) (pattern : List Char) : Option Regex := do
  let (r, depth) ← Reader.Reading.run? pattern.length (.start options) pattern
  if depth ≤ maxDepth && r.fits .forward && r.fits .backward then some r else none

end RelPipe.Regex
