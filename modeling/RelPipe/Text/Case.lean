import RelPipe.Text.CaseContext
import RelPipe.Text.CaseTable

/-!
Letter case of texts. `lower` and `upper` are the full Unicode mappings: one character may become
several, and a capital sigma at the end of a word becomes its final form.
-/

namespace RelPipe.Text

set_option autoImplicit false

/-- Whether the first character that is not ignorable is cased. -/
def startsCased : List Char → Bool
  | [] => false
  | c :: cs => if CaseContext.isIgnorable c then startsCased cs else CaseContext.isCased c

/-- The lower-case form of one character that stands between the reversed text `before` and the
text `after`. -/
def lowerChar (before : List Char) (c : Char) (after : List Char) : List Char :=
  if c.toNat < 0x80 then
    [c.toLower]
  else if c = 'Σ' then
    [if startsCased before && !startsCased after then 'ς' else 'σ']
  else if c = 'İ' then
    ['i', Char.ofNat 0x307]
  else
    [Char.ofNat (mapCode CaseTable.lower c.toNat)]

/-- Lower-cases the text that follows the reversed text `before`. -/
def lowerFrom (before : List Char) : List Char → List Char
  | [] => []
  | c :: cs => lowerChar before c cs ++ lowerFrom (c :: before) cs

def upperChar (c : Char) : List Char :=
  if c.toNat < 0x80 then
    [c.toUpper]
  else
    match CaseTable.upperSequences.lookup c.toNat with
    | some sequence => sequence.map Char.ofNat
    | none => [Char.ofNat (mapCode CaseTable.upper c.toNat)]

def lower (s : String) : String := String.ofList (lowerFrom [] s.toList)

def upper (s : String) : String := String.ofList (s.toList.flatMap upperChar)

@[simp] theorem lowerFrom_nil (before : List Char) : lowerFrom before [] = [] := rfl

end RelPipe.Text
