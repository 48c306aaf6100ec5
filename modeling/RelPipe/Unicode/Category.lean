import RelPipe.Unicode.CategoryTable

/-!
General categories. Every code point is in one category; groups of categories have names of their
own.
-/

namespace RelPipe.Unicode

set_option autoImplicit false

def categoryGroups : List (String × String) :=
  [("l letter", "lu ll lt lm lo"), ("lc casedletter", "lu ll lt"),
   ("m mark combiningmark", "mn mc me"), ("n number", "nd nl no"),
   ("p punct punctuation", "pc pd ps pe pi pf po"), ("s symbol", "sm sc sk so"),
   ("z separator", "zs zl zp")]

def categories (names : String) : CharSet := categoryTable.unionOf names

/-- The code points that are in no category. Surrogates are not characters and do not matter. -/
def unassigned : CharSet :=
  (CharSet.unions (categoryTable.map fun entry => CharSet.ofDistances entry.2)).complement

def category? (name : List Char) : Option CharSet :=
  match categoryGroups.find? fun group => isNamed group.1 name with
  | some group => some (categories group.2)
  | none =>
    if isNamed "c other" name then some (unassigned.union (categories "cc cf co"))
    else if isNamed "cn unassigned" name then some unassigned
    else if isNamed "any" name then some .all
    else if isNamed "assigned" name then some unassigned.complement
    else if isNamed "ascii" name then some (.range '\x00' '\x7f')
    else categoryTable.find? name

end RelPipe.Unicode
