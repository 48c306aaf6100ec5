import RelPipe.Proofs.Document.Order
import RelPipe.Proofs.Number.Rounding

/-!
When the order of values is a total preorder. Every value is equal to itself, and exchanging two
values turns their order around. The order is transitive on the values that are built from given
scalars just if equality is transitive on these: no symbol may stand beside two strings, since it
equals both, and no inexact number beside two integers that round to its double.
-/

namespace RelPipe

set_option autoImplicit false

/-! Three comparisons that fit together -/

/-- How `a` compares with `b`, `b` with `c` and `a` with `c`, as in a total preorder. -/
structure Consistent (ab bc ac : Ordering) : Prop where
  left : ab = .eq → ac = bc
  right : bc = .eq → ac = ab
  both : ab = bc → ac = ab

namespace Consistent

variable {ab bc ac ab' bc' ac' : Ordering}

theorem eq : Consistent .eq .eq .eq := ⟨fun h => h, fun h => h, fun h => h⟩

theorem isLE (h : Consistent ab bc ac) (hab : ab.isLE = true) (hbc : bc.isLE = true) :
    ac.isLE = true := by
  obtain ⟨left, right, both⟩ := h
  cases ab with
  | gt => cases hab
  | eq => rwa [left rfl]
  | lt =>
    cases bc with
    | gt => cases hbc
    | eq => rwa [right rfl]
    | lt => rwa [both rfl]

/-- The second comparisons count only where the first ones are all equal. -/
theorem followedBy (h : Consistent ab bc ac)
    (h' : ab = .eq → bc = .eq → Consistent ab' bc' ac') :
    Consistent (ab.then ab') (bc.then bc') (ac.then ac') := by
  obtain ⟨left, right, both⟩ := h
  by_cases hab : ab = .eq
  · rw [left hab, hab]
    by_cases hbc : bc = .eq
    · rw [hbc]
      simpa only [Ordering.eq_then] using h' hab hbc
    · cases bc with
      | eq => exact absurd rfl hbc
      | lt | gt => exact ⟨fun _ => rfl, nofun, fun h => h.symm⟩
  · by_cases hbc : bc = .eq
    · rw [right hbc, hbc]
      cases ab with
      | eq => exact absurd rfl hab
      | lt | gt => exact ⟨nofun, fun _ => rfl, fun _ => rfl⟩
    · cases ab with
      | eq => exact absurd rfl hab
      | lt | gt =>
        cases bc with
        | eq => exact absurd rfl hbc
        | lt | gt =>
          refine ⟨nofun, nofun, fun hSame => ?_⟩
          cases hSame <;> rw [both rfl] <;> rfl

theorem ofInt (a b c : Int) :
    Consistent (Ord.compare a b) (Ord.compare b c) (Ord.compare a c) := by
  constructor
  · intro h
    rw [Int.compare_eq_eq.mp h]
  · intro h
    rw [Int.compare_eq_eq.mp h]
  · intro h
    rcases Int.lt_trichotomy a b with hab | hab | hab
    · have hbc : b < c := Int.compare_eq_lt.mp (h ▸ Int.compare_eq_lt.mpr hab)
      rw [Int.compare_eq_lt.mpr hab, Int.compare_eq_lt]
      exact Int.lt_trans hab hbc
    · rw [h, hab]
    · have hbc : c < b := Int.compare_eq_gt.mp (h ▸ Int.compare_eq_gt.mpr hab)
      rw [Int.compare_eq_gt.mpr hab, Int.compare_eq_gt]
      exact Int.lt_trans hbc hab

theorem ofNat (a b c : Nat) :
    Consistent (Ord.compare a b) (Ord.compare b c) (Ord.compare a c) := by
  have hCast : ∀ m n : Nat, Ord.compare m n = Ord.compare (m : Int) (n : Int) := by
    intro m n
    rcases Nat.lt_trichotomy m n with h | h | h
    · rw [Nat.compare_eq_lt.mpr h, Int.compare_eq_lt.mpr (by omega)]
    · rw [Nat.compare_eq_eq.mpr h, Int.compare_eq_eq.mpr (by omega)]
    · rw [Nat.compare_eq_gt.mpr h, Int.compare_eq_gt.mpr (by omega)]
  rw [hCast, hCast, hCast]
  exact ofInt a b c

theorem ofEmpty {α : Type} {order : List α → List α → Ordering} (hEmpty : order [] [] = .eq)
    (hLess : ∀ a as, order [] (a :: as) = .lt) (hGreater : ∀ a as, order (a :: as) [] = .gt)
    {as bs cs : List α} (h : as = [] ∨ bs = [] ∨ cs = []) :
    Consistent (order as bs) (order bs cs) (order as cs) := by
  cases as with
  | nil => cases bs <;> cases cs <;> constructor <;> simp [hEmpty, hLess, hGreater]
  | cons a as =>
    cases bs with
    | nil => cases cs <;> constructor <;> simp [hEmpty, hLess, hGreater]
    | cons b bs =>
      obtain rfl : cs = [] := by simpa using h
      rw [hGreater, hGreater]
      exact ⟨fun _ => rfl, nofun, fun h => h.symm⟩

theorem lexCompare {α : Type} {order : α → α → Ordering}
    (h : ∀ a b c, Consistent (order a b) (order b c) (order a c)) (as bs cs : List α) :
    Consistent (Text.lexCompare order as bs) (Text.lexCompare order bs cs)
      (Text.lexCompare order as cs) := by
  have hEmpty : ∀ {as bs cs : List α}, as = [] ∨ bs = [] ∨ cs = [] →
      Consistent (Text.lexCompare order as bs) (Text.lexCompare order bs cs)
        (Text.lexCompare order as cs) := ofEmpty rfl (fun _ _ => rfl) (fun _ _ => rfl)
  induction as generalizing bs cs with
  | nil => exact hEmpty (.inl rfl)
  | cons a as ih =>
    cases bs with
    | nil => exact hEmpty (.inr (.inl rfl))
    | cons b bs =>
      cases cs with
      | nil => exact hEmpty (.inr (.inr rfl))
      | cons c cs => exact (h a b c).followedBy fun _ _ => ih bs cs

theorem text (a b c : String) :
    Consistent (Text.compare a b) (Text.compare b c) (Text.compare a c) :=
  lexCompare (fun a b c : Char => ofNat a.toNat b.toNat c.toNat) _ _ _

theorem swap (h : Consistent ab bc ac) : Consistent ab.swap bc.swap ac.swap where
  left hab := congrArg Ordering.swap (h.left (Ordering.swap_eq_eq.mp hab))
  right hbc := congrArg Ordering.swap (h.right (Ordering.swap_eq_eq.mp hbc))
  both hSame := congrArg Ordering.swap (h.both (Ordering.swap_inj.mp hSame))

theorem reverse (h : Consistent ab bc ac) : Consistent bc.swap ab.swap ac.swap where
  left := h.swap.right
  right := h.swap.left
  both hSame := (h.swap.both hSame.symm).trans hSame.symm

section

/-! Two integers `i` and `j` with the places `p` and `q` of their doubles, and the place `r` of an
inexact number, which must not be the place of both unless they are one. -/

variable {i j p q r : Int}

theorem compare_places (hLess : i ≤ j → p ≤ q) (hGreater : j ≤ i → q ≤ p) (h : p = q → i = j) :
    Ord.compare p q = Ord.compare i j := by
  rcases Int.lt_trichotomy i j with hij | hij | hij
  · rw [Int.compare_eq_lt.mpr hij, Int.compare_eq_lt]
    omega
  · rw [Int.compare_eq_eq.mpr hij, Int.compare_eq_eq]
    omega
  · rw [Int.compare_eq_gt.mpr hij, Int.compare_eq_gt]
    omega

theorem inexactLast (hLess : i ≤ j → p ≤ q) (hGreater : j ≤ i → q ≤ p)
    (h : p = r → q = r → i = j) :
    Consistent (Ord.compare i j) (Ord.compare q r) (Ord.compare p r) := by
  refine ⟨fun hij => ?_, fun hqr => ?_, fun hSame => ?_⟩
  · obtain rfl : p = q := by
      have hij := Int.compare_eq_eq.mp hij
      omega
    rfl
  · obtain rfl := Int.compare_eq_eq.mp hqr
    exact compare_places hLess hGreater fun hpq => h hpq rfl
  · rcases Int.lt_trichotomy i j with hij | hij | hij
    · have hqr : q < r := Int.compare_eq_lt.mp (hSame ▸ Int.compare_eq_lt.mpr hij)
      rw [Int.compare_eq_lt.mpr hij, Int.compare_eq_lt]
      omega
    · have hqr : q = r := Int.compare_eq_eq.mp (hSame ▸ Int.compare_eq_eq.mpr hij)
      rw [Int.compare_eq_eq.mpr hij, Int.compare_eq_eq]
      omega
    · have hqr : r < q := Int.compare_eq_gt.mp (hSame ▸ Int.compare_eq_gt.mpr hij)
      rw [Int.compare_eq_gt.mpr hij, Int.compare_eq_gt]
      omega

theorem inexactFirst (hLess : i ≤ j → p ≤ q) (hGreater : j ≤ i → q ≤ p)
    (h : p = r → q = r → i = j) :
    Consistent (Ord.compare r p) (Ord.compare i j) (Ord.compare r q) := by
  have hLast := inexactLast hGreater hLess fun hq hp => (h hp hq).symm
  simpa only [Int.compare_swap] using hLast.reverse

theorem inexactBetween (hLess : i ≤ j → p ≤ q) (hGreater : j ≤ i → q ≤ p)
    (h : p = r → q = r → i = j) :
    Consistent (Ord.compare p r) (Ord.compare r q) (Ord.compare i j) := by
  by_cases hpq : p = q → i = j
  · rw [← compare_places hLess hGreater hpq]
    exact ofInt p r q
  · -- The doubles of two different integers are one, which lies apart from the number.
    obtain ⟨rfl, hij⟩ := Classical.not_imp.mp hpq
    have hr : p ≠ r := fun hr => hij (h hr hr)
    rcases Int.lt_or_gt_of_ne hr with hr | hr
    · rw [Int.compare_eq_lt.mpr hr, Int.compare_eq_gt.mpr hr]
      exact ⟨nofun, nofun, nofun⟩
    · rw [Int.compare_eq_gt.mpr hr, Int.compare_eq_lt.mpr hr]
      exact ⟨nofun, nofun, nofun⟩

end

end Consistent

namespace Value

open Number

/-! Scalars -/

mutual

/-- The scalars that a value is compared by: those at the ends of its arrays and documents. -/
def scalars : Value → List Value
  | .array items => scalarsOfItems items
  | .document fields => scalarsOfFields fields
  | v => [v]
termination_by structural v => v

def scalarsOfItems : List Value → List Value
  | [] => []
  | v :: rest => scalars v ++ scalarsOfItems rest
termination_by structural items => items

def scalarsOfFields : List (String × Value) → List Value
  | [] => []
  | (_, v) :: rest => scalars v ++ scalarsOfFields rest
termination_by structural fields => fields

end

/-- Scalars of which none equals two that differ from each other: there is no symbol beside two
strings, and no double or decimal beside two integers that round to its double. -/
structure Unambiguous (S : Value → Prop) : Prop where
  texts {s t u : String} (hs : S (.symbol s)) (ht : S (.string t)) (hu : S (.string u)) : t = u
  numbers {x m n : Value} {y : Binary64} {i j : Int} (hx : S x) (hm : S m) (hn : S n)
    (hInexact : x.integer? = none) (hDouble : x.toBinary64? = some y)
    (hFirst : m.integer? = some i) (hSecond : n.integer? = some j)
    (hm' : (Binary64.ofInt i).compare y = .eq) (hn' : (Binary64.ofInt j).compare y = .eq) : i = j

def place (v : Value) : Int := (v.toBinary64?.getD .nan).place

theorem place_of_integer? {v : Value} {n : Int} (h : v.integer? = some n) :
    v.place = (Binary64.ofInt n).place := by
  cases v <;> cases h <;> rfl

theorem compareNumbers_of_inexact {a b : Value} (h : a.integer? = none ∨ b.integer? = none) :
    compareNumbers a b = Ord.compare a.place b.place := by
  unfold compareNumbers
  split
  · rename_i ha hb
    rw [ha, hb] at h
    obtain h | h := h <;> cases h
  · exact Binary64.compare_eq_place _ _

theorem compareNumbers_of_integers {a b : Value} {m n : Int} (ha : a.integer? = some m)
    (hb : b.integer? = some n) : compareNumbers a b = Ord.compare m n := by
  rw [compareNumbers, ha, hb]

theorem exists_toBinary64? {v : Value} (h : v.isNumeric = true) :
    ∃ x, v.toBinary64? = some x := by
  cases v <;> cases h <;> exact ⟨_, rfl⟩

variable {S : Value → Prop}

/-- An inexact number has the place of two integers only if they are one. -/
theorem Unambiguous.eq_of_place (hS : Unambiguous S) {x m n : Value} {i j : Int}
    (hNumeric : x.isNumeric = true) (hx : S x) (hm : S m) (hn : S n) (hInexact : x.integer? = none)
    (hFirst : m.integer? = some i) (hSecond : n.integer? = some j)
    (hmx : (Binary64.ofInt i).place = x.place) (hnx : (Binary64.ofInt j).place = x.place) :
    i = j := by
  obtain ⟨y, hy⟩ := exists_toBinary64? hNumeric
  rw [place, hy, Option.getD_some] at hmx hnx
  refine hS.numbers hx hm hn hInexact hy hFirst hSecond ?_ ?_
  · rw [Binary64.compare_eq_place, Int.compare_eq_eq]
    exact hmx
  · rw [Binary64.compare_eq_place, Int.compare_eq_eq]
    exact hnx

theorem Unambiguous.compareNumbers (hS : Unambiguous S) {a b c : Value} (ha : S a) (hb : S b)
    (hc : S c) (hNumeric : a.isNumeric = true ∧ b.isNumeric = true ∧ c.isNumeric = true) :
    Consistent (compareNumbers a b) (compareNumbers b c) (compareNumbers a c) := by
  have hMono : ∀ {m n : Int}, m ≤ n → (Binary64.ofInt m).place ≤ (Binary64.ofInt n).place :=
    Binary64.place_ofInt_mono
  cases hia : a.integer? with
  | none =>
    rw [compareNumbers_of_inexact (.inl hia), compareNumbers_of_inexact (.inl hia)]
    cases hib : b.integer? with
    | none =>
      rw [compareNumbers_of_inexact (.inl hib)]
      exact .ofInt _ _ _
    | some j =>
      cases hic : c.integer? with
      | none =>
        rw [compareNumbers_of_inexact (.inr hic)]
        exact .ofInt _ _ _
      | some k =>
        rw [compareNumbers_of_integers hib hic, place_of_integer? hib, place_of_integer? hic]
        exact .inexactFirst hMono hMono (hS.eq_of_place hNumeric.1 ha hb hc hia hib hic)
  | some i =>
    cases hib : b.integer? with
    | none =>
      rw [compareNumbers_of_inexact (.inr hib), compareNumbers_of_inexact (.inl hib)]
      cases hic : c.integer? with
      | none =>
        rw [compareNumbers_of_inexact (.inr hic)]
        exact .ofInt _ _ _
      | some k =>
        rw [compareNumbers_of_integers hia hic, place_of_integer? hia, place_of_integer? hic]
        exact .inexactBetween hMono hMono (hS.eq_of_place hNumeric.2.1 hb ha hc hib hia hic)
    | some j =>
      rw [compareNumbers_of_integers hia hib]
      cases hic : c.integer? with
      | none =>
        rw [compareNumbers_of_inexact (.inr hic), compareNumbers_of_inexact (.inr hic),
          place_of_integer? hia, place_of_integer? hib]
        exact .inexactLast hMono hMono (hS.eq_of_place hNumeric.2.2 hc ha hb hic hia hib)
      | some k =>
        rw [compareNumbers_of_integers hib hic, compareNumbers_of_integers hia hic]
        exact .ofInt i j k

theorem compareScalars_of_isNumeric {a b : Value} (h : a.isNumeric = true) :
    compareScalars a b = RelPipe.Value.compareNumbers a b := by
  cases a <;> cases h <;> rfl

def isUnordered (rank : Nat) : Bool := rank ≤ 1 || rank = 4 || rank = 5 || 11 ≤ rank

theorem compareScalars_of_unordered {a b : Value} (h : isUnordered a.rank = true) :
    compareScalars a b = .eq := by
  cases a <;> first | rfl | cases h

theorem eq_text_of_rank {a : Value} (h : a.rank = 3) : ∃ s, a = .string s ∨ a = .symbol s := by
  cases a with
  | string s => exact ⟨s, .inl rfl⟩
  | symbol s => exact ⟨s, .inr rfl⟩
  | _ => cases h

theorem Unambiguous.compareTexts (hS : Unambiguous S) {a b c : Value} (ha : S a) (hb : S b)
    (hc : S c) (hRank : a.rank = 3 ∧ b.rank = 3 ∧ c.rank = 3) :
    Consistent (compareScalars a b) (compareScalars b c) (compareScalars a c) := by
  have hSame : ∀ s, compareScalars (.string s) (.string s) = .eq := Text.compare_self
  obtain ⟨s, rfl | rfl⟩ := eq_text_of_rank hRank.1
  · obtain ⟨t, rfl | rfl⟩ := eq_text_of_rank hRank.2.1
    · obtain ⟨u, rfl | rfl⟩ := eq_text_of_rank hRank.2.2
      · exact .text s t u
      · obtain rfl := hS.texts hc ha hb
        rw [hSame]
        exact .eq
    · obtain ⟨u, rfl | rfl⟩ := eq_text_of_rank hRank.2.2
      · obtain rfl := hS.texts hb ha hc
        rw [hSame]
        exact .eq
      · exact .eq
  · obtain ⟨t, rfl | rfl⟩ := eq_text_of_rank hRank.2.1
    · obtain ⟨u, rfl | rfl⟩ := eq_text_of_rank hRank.2.2
      · obtain rfl := hS.texts ha hb hc
        rw [hSame]
        exact .eq
      · exact .eq
    · obtain ⟨u, rfl | rfl⟩ := eq_text_of_rank hRank.2.2 <;> exact .eq

theorem Unambiguous.compareScalars (hS : Unambiguous S) {a b c : Value} (ha : S a) (hb : S b)
    (hc : S c) (hab : a.rank = b.rank) (hbc : b.rank = c.rank) :
    Consistent (compareScalars a b) (compareScalars b c) (compareScalars a c) := by
  have hNumbers : a.rank = 2 →
      Consistent (Value.compareScalars a b) (Value.compareScalars b c)
        (Value.compareScalars a c) := by
    intro hRank
    have hna := (isNumeric_iff_rank a).mpr hRank
    have hnb := (isNumeric_iff_rank b).mpr (by omega)
    have hnc := (isNumeric_iff_rank c).mpr (by omega)
    rw [compareScalars_of_isNumeric hna, compareScalars_of_isNumeric hna,
      compareScalars_of_isNumeric hnb]
    exact hS.compareNumbers ha hb hc ⟨hna, hnb, hnc⟩
  have hUnordered : isUnordered a.rank = true →
      Consistent (Value.compareScalars a b) (Value.compareScalars b c)
        (Value.compareScalars a c) := by
    intro hRank
    rw [compareScalars_of_unordered hRank, compareScalars_of_unordered hRank,
      compareScalars_of_unordered (hab ▸ hRank)]
    exact .eq
  cases a with
  | int32 | int64 | double | decimal => exact hNumbers rfl
  | string | symbol => exact hS.compareTexts ha hb hc ⟨rfl, hab.symm, by rw [← hbc, ← hab]; rfl⟩
  | binary i x =>
    cases b <;> cases hab
    cases c <;> cases hbc
    refine (Consistent.ofNat _ _ _).followedBy fun _ _ => ?_
    refine (Consistent.ofNat _ _ _).followedBy fun _ _ => ?_
    exact .lexCompare (fun x y z : UInt8 => .ofNat x.toNat y.toNat z.toNat) _ _ _
  | objectId | boolean =>
    cases b <;> cases hab
    cases c <;> cases hbc
    exact .ofNat _ _ _
  | date =>
    cases b <;> cases hab
    cases c <;> cases hbc
    exact .ofInt _ _ _
  | timestamp =>
    cases b <;> cases hab
    cases c <;> cases hbc
    exact (Consistent.ofNat _ _ _).followedBy fun _ _ => .ofNat _ _ _
  | _ => exact hUnordered rfl

/-! Values built from scalars -/

/-- A value is built from given scalars. -/
def BuiltFrom (S : Value → Prop) (v : Value) : Prop := ∀ w ∈ v.scalars, S w

theorem consistent_of_rank_ne {a b c : Value} (h : ¬ (a.rank = b.rank ∧ b.rank = c.rank)) :
    Consistent (compare a b) (compare b c) (compare a c) := by
  -- The ranks decide all three comparisons but those of equal ranks.
  have hRanks : ∀ a b : Value, ∃ rest, compare a b = (Ord.compare a.rank b.rank).then rest := by
    intro a b
    rw [compare.eq_def]
    cases Ord.compare a.rank b.rank with
    | lt => exact ⟨.eq, rfl⟩
    | gt => exact ⟨.eq, rfl⟩
    | eq => exact ⟨_, rfl⟩
  obtain ⟨ab, hab⟩ := hRanks a b
  obtain ⟨bc, hbc⟩ := hRanks b c
  obtain ⟨ac, hac⟩ := hRanks a c
  rw [hab, hbc, hac]
  refine (Consistent.ofNat _ _ _).followedBy fun hab hbc => ?_
  exact absurd ⟨Nat.compare_eq_eq.mp hab, Nat.compare_eq_eq.mp hbc⟩ h

theorem scalars_of_rank {v : Value} (hDocument : v.rank ≠ 4) (hArray : v.rank ≠ 5) :
    v.scalars = [v] := by
  cases v with
  | document => exact absurd rfl hDocument
  | array => exact absurd rfl hArray
  | _ => rfl

theorem Unambiguous.compare_scalars (hS : Unambiguous S) {a b c : Value} (ha : a.BuiltFrom S)
    (hb : b.BuiltFrom S) (hc : c.BuiltFrom S) (hRank : a.rank = b.rank ∧ b.rank = c.rank)
    (hDocument : a.rank ≠ 4) (hArray : a.rank ≠ 5) :
    Consistent (compare a b) (compare b c) (compare a c) := by
  obtain ⟨hab, hbc⟩ := hRank
  have hScalar : ∀ {v : Value}, v.BuiltFrom S → a.rank = v.rank → S v := by
    intro v hv hRank
    have hScalars := scalars_of_rank (v := v) (hRank ▸ hDocument) (hRank ▸ hArray)
    exact hv v (hScalars ▸ List.mem_singleton_self v)
  rw [compare_of_rank_eq hab hDocument hArray,
    compare_of_rank_eq hbc (hab ▸ hDocument) (hab ▸ hArray),
    compare_of_rank_eq (hab.trans hbc) hDocument hArray]
  exact hS.compareScalars (hScalar ha rfl) (hScalar hb hab) (hScalar hc (hab.trans hbc)) hab hbc

mutual

theorem Unambiguous.compare (hS : Unambiguous S) (a : Value) {b c : Value} (ha : a.BuiltFrom S)
    (hb : b.BuiltFrom S) (hc : c.BuiltFrom S) :
    Consistent (compare a b) (compare b c) (compare a c) := by
  by_cases hRank : a.rank = b.rank ∧ b.rank = c.rank
  · have hScalar := hS.compare_scalars ha hb hc hRank
    obtain ⟨hab, hbc⟩ := hRank
    cases a with
    | document x =>
      obtain ⟨y, rfl⟩ := eq_document_of_rank hab.symm
      obtain ⟨z, rfl⟩ := eq_document_of_rank hbc.symm
      rw [compare_documents, compare_documents, compare_documents]
      exact hS.compareFields x ha hb hc
    | array x =>
      obtain ⟨y, rfl⟩ := eq_array_of_rank hab.symm
      obtain ⟨z, rfl⟩ := eq_array_of_rank hbc.symm
      rw [compare_arrays, compare_arrays, compare_arrays]
      exact hS.compareItems x ha hb hc
    | _ => exact hScalar nofun nofun
  · exact consistent_of_rank_ne hRank
termination_by structural a

theorem Unambiguous.compareItems (hS : Unambiguous S) (as : List Value) {bs cs : List Value}
    (ha : ∀ w ∈ scalarsOfItems as, S w) (hb : ∀ w ∈ scalarsOfItems bs, S w)
    (hc : ∀ w ∈ scalarsOfItems cs, S w) :
    Consistent (compareItems as bs) (compareItems bs cs) (compareItems as cs) := by
  match as, bs, cs with
  | [], _, _ => exact .ofEmpty rfl (fun _ _ => rfl) (fun _ _ => rfl) (.inl rfl)
  | _ :: _, [], _ => exact .ofEmpty rfl (fun _ _ => rfl) (fun _ _ => rfl) (.inr (.inl rfl))
  | _ :: _, _ :: _, [] => exact .ofEmpty rfl (fun _ _ => rfl) (fun _ _ => rfl) (.inr (.inr rfl))
  | a :: as, b :: bs, c :: cs =>
    obtain ⟨ha, has⟩ := List.forall_mem_append.mp ha
    obtain ⟨hb, hbs⟩ := List.forall_mem_append.mp hb
    obtain ⟨hc, hcs⟩ := List.forall_mem_append.mp hc
    exact (hS.compare a ha hb hc).followedBy fun _ _ => hS.compareItems as has hbs hcs
termination_by structural as

theorem Unambiguous.compareFields (hS : Unambiguous S) (as : List (String × Value))
    {bs cs : List (String × Value)} (ha : ∀ w ∈ scalarsOfFields as, S w)
    (hb : ∀ w ∈ scalarsOfFields bs, S w) (hc : ∀ w ∈ scalarsOfFields cs, S w) :
    Consistent (compareFields as bs) (compareFields bs cs) (compareFields as cs) := by
  match as, bs, cs with
  | [], _, _ => exact .ofEmpty rfl (fun _ _ => rfl) (fun _ _ => rfl) (.inl rfl)
  | _ :: _, [], _ => exact .ofEmpty rfl (fun _ _ => rfl) (fun _ _ => rfl) (.inr (.inl rfl))
  | _ :: _, _ :: _, [] => exact .ofEmpty rfl (fun _ _ => rfl) (fun _ _ => rfl) (.inr (.inr rfl))
  | (k, a) :: as, (l, b) :: bs, (m, c) :: cs =>
    obtain ⟨ha, has⟩ := List.forall_mem_append.mp ha
    obtain ⟨hb, hbs⟩ := List.forall_mem_append.mp hb
    obtain ⟨hc, hcs⟩ := List.forall_mem_append.mp hc
    refine (hS.compare a ha hb hc).followedBy fun _ _ => ?_
    exact (Consistent.text k l m).followedBy fun _ _ => hS.compareFields as has hbs hcs
termination_by structural as

end

/-! The preorder -/

theorem compare_self (a : Value) : compare a a = .eq := by
  have hSwap := compare_swap a a
  cases h : compare a a with
  | eq => rfl
  | lt | gt =>
    rw [h] at hSwap
    cases hSwap

theorem builtFrom_of_scalar {v : Value} (h : S v) (hDocument : v.rank ≠ 4) (hArray : v.rank ≠ 5) :
    v.BuiltFrom S := by
  rw [BuiltFrom, scalars_of_rank hDocument hArray, List.forall_mem_singleton]
  exact h

/-- The order is transitive on all that is built from given scalars. -/
def Transitive (S : Value → Prop) : Prop :=
  ∀ a b c : Value, a.BuiltFrom S → b.BuiltFrom S → c.BuiltFrom S →
    (compare a b).isLE = true → (compare b c).isLE = true → (compare a c).isLE = true

theorem Transitive.eq_of_eq (h : Transitive S) {a b c : Value} (ha : a.BuiltFrom S)
    (hb : b.BuiltFrom S) (hc : c.BuiltFrom S) (hab : compare a b = .eq) (hbc : compare b c = .eq) :
    compare a c = .eq := by
  have hac := h a b c ha hb hc (by rw [hab]; rfl) (by rw [hbc]; rfl)
  have hca := h c b a hc hb ha (by rw [← compare_swap, hbc]; rfl) (by rw [← compare_swap, hab]; rfl)
  rw [← compare_swap] at hca
  cases hOrder : compare a c with
  | eq => rfl
  | gt => rw [hOrder] at hac; cases hac
  | lt => rw [hOrder] at hca; cases hca

end Value

theorem Text.eq_of_lexCompare_eq : ∀ {x y : List Char},
    Text.lexCompare (fun c d : Char => Ord.compare c.toNat d.toNat) x y = .eq → x = y
  | [], [], _ => rfl
  | [], _ :: _, h => by cases h
  | _ :: _, [], h => by cases h
  | c :: x, d :: y, h => by
    obtain ⟨hHead, hTail⟩ := Ordering.then_eq_eq.mp h
    rw [Char.toNat_inj.mp (Nat.compare_eq_eq.mp hHead), eq_of_lexCompare_eq hTail]

theorem Text.eq_of_compare_eq {s t : String} (h : Text.compare s t = .eq) : s = t :=
  String.toList_inj.mp (eq_of_lexCompare_eq h)

namespace Value

open Number

variable {S : Value → Prop}

theorem compare_of_numbers {a b : Value} (ha : a.rank = 2) (hb : b.rank = 2) :
    compare a b = compareNumbers a b := by
  have hRank : a.rank = b.rank := ha.trans hb.symm
  rw [compare_of_rank_eq hRank (by omega) (by omega),
    compareScalars_of_isNumeric ((isNumeric_iff_rank a).mpr ha)]

theorem rank_of_integer? {v : Value} {n : Int} (h : v.integer? = some n) : v.rank = 2 := by
  cases v <;> cases h <;> rfl

theorem rank_of_toBinary64? {v : Value} {x : Binary64} (h : v.toBinary64? = some x) :
    v.rank = 2 := by
  cases v <;> cases h <;> rfl

theorem compare_integer_inexact {n x : Value} {y : Binary64} {i : Int}
    (hInteger : n.integer? = some i) (hInexact : x.integer? = none)
    (hDouble : x.toBinary64? = some y) : compare n x = (Binary64.ofInt i).compare y := by
  rw [compare_of_numbers (rank_of_integer? hInteger) (rank_of_toBinary64? hDouble),
    compareNumbers_of_inexact (.inr hInexact), place_of_integer? hInteger,
    Binary64.compare_eq_place, place, hDouble, Option.getD_some]

/-- A transitive order of values has no scalar that equals two different ones. -/
theorem Transitive.unambiguous (h : Transitive S) : Unambiguous S where
  texts := by
    intro s t u hs ht hu
    have hEqual := h.eq_of_eq (builtFrom_of_scalar ht nofun nofun)
      (builtFrom_of_scalar hs nofun nofun) (builtFrom_of_scalar hu nofun nofun) rfl rfl
    exact Text.eq_of_compare_eq hEqual
  numbers := by
    intro x m n y i j hx hm hn hInexact hDouble hFirst hSecond hmy hny
    have hRank : ∀ {v : Value}, v.rank = 2 → S v → v.BuiltFrom S := by
      intro v hv hS
      exact builtFrom_of_scalar hS (by omega) (by omega)
    have hmn : compare m n = .eq := by
      refine h.eq_of_eq (hRank (rank_of_integer? hFirst) hm)
        (hRank (rank_of_toBinary64? hDouble) hx)
        (hRank (rank_of_integer? hSecond) hn) ?_ ?_
      · rw [compare_integer_inexact hFirst hInexact hDouble, hmy]
      · rw [← compare_swap, compare_integer_inexact hSecond hInexact hDouble, hny]
        rfl
    rw [compare_of_numbers (rank_of_integer? hFirst) (rank_of_integer? hSecond),
      compareNumbers_of_integers hFirst hSecond] at hmn
    exact Int.compare_eq_eq.mp hmn

/-- Every value is equal to itself and exchanging two values turns their order around. The order is
transitive on what is built from given scalars just if these are unambiguous. -/
theorem compare_preorder_iff (S : Value → Prop) :
    (∀ a : Value, compare a a = .eq) ∧
      (∀ a b : Value, compare b a = (compare a b).swap) ∧
      (Transitive S ↔ Unambiguous S) := by
  refine ⟨compare_self, fun a b => (compare_swap a b).symm, Transitive.unambiguous, ?_⟩
  intro hS a b c ha hb hc hab hbc
  exact (hS.compare a ha hb hc).isLE hab hbc

/-- A double equals two different integers that both round to it. -/
theorem not_transitive_largeIntegers :
    ¬ ∀ a b c : Value, (compare a b).isLE = true → (compare b c).isLE = true →
      (compare a c).isLE = true := by
  intro h
  have hGreater := h (.int64 9007199254740993) (.double (.ofInt 9007199254740992))
    (.int64 9007199254740992) (by decide +kernel) (by decide +kernel)
  exact absurd hGreater (by decide +kernel)

example : compare (.string "b") (.symbol "x") = .eq ∧ compare (.symbol "x") (.string "a") = .eq ∧
    compare (.string "b") (.string "a") = .gt := by decide +kernel

end Value

end RelPipe
