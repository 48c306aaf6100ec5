import RelPipe.Text.Blank
import RelPipe.Unicode.Folding
import RelPipe.Unicode.Property

/-!
The options of a pattern, and how they decide what its parts stand for.
-/

namespace RelPipe.Regex

set_option autoImplicit false

/-- How the following part of a pattern is to be taken. Without `unicode` a pattern knows the
letters of ASCII only; a `verbose` pattern may contain blanks and comments. -/
structure Options where
  caseless : Bool := false
  multiline : Bool := false
  dotAll : Bool := false
  crlf : Bool := false
  unicode : Bool := true
  verbose : Bool := false

namespace Options

/-- With the letters that differ only in case, if case is not regarded. -/
def closed (o : Options) (s : CharSet) : CharSet :=
  if o.caseless then
    if o.unicode then Unicode.caseClosure s else Unicode.asciiCaseClosure s
  else s

/-- A set or its complement. Without Unicode there are no complements, since the bytes they are made
of are not characters. -/
def negated? (o : Options) (negate : Bool) (s : CharSet) : Option CharSet :=
  if negate then if o.unicode then some s.complement else none
  else some s

def admits (o : Options) (c : Char) : Bool := o.unicode || c.toNat < 0x80

end Options

/-! Blanks and comments -/

/-- Skips blanks and comments, which go from `#` to the end of the line. -/
def skipVerbose (inComment : Bool) : List Char → List Char
  | [] => []
  | c :: cs =>
    if inComment then skipVerbose (c ≠ '\n') cs
    else if Text.isBlank c then skipVerbose false cs
    else if c = '#' then skipVerbose true cs
    else c :: cs

namespace Options

def skip (o : Options) (cs : List Char) : List Char :=
  if o.verbose then skipVerbose false cs else cs

/-- Takes up to `limit` characters of a kind, skipping what a verbose pattern may contain between
and after them. -/
def gatherFrom (o : Options) (p : Char → Bool) (inComment : Bool) (limit : Nat) :
    List Char → List Char × List Char
  | [] => ([], [])
  | c :: cs =>
    if inComment then o.gatherFrom p (c ≠ '\n') limit cs
    else if o.verbose && Text.isBlank c then o.gatherFrom p false limit cs
    else if o.verbose && c = '#' then o.gatherFrom p true limit cs
    else
      match limit with
      | 0 => ([], c :: cs)
      | limit + 1 =>
        if p c then
          let (taken, rest) := o.gatherFrom p false limit cs
          (c :: taken, rest)
        else ([], c :: cs)

def gather (o : Options) (p : Char → Bool) (limit : Nat) (cs : List Char) :
    List Char × List Char :=
  o.gatherFrom p false limit cs

@[simp] theorem skip_plain (o : Options) (h : o.verbose = false) (cs : List Char) :
    o.skip cs = cs := by
  simp [skip, h]

end Options

end RelPipe.Regex
