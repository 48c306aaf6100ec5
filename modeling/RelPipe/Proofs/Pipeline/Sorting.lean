import Mathlib.Data.List.Induction
import RelPipe.Pipeline.Stage
import RelPipe.Proofs.Document.Preorder
import RelPipe.Proofs.Planning.Projecting

/-!
Sorting by insertion. The result is a permutation of what is sorted, it is in order where the
comparison is a total preorder, and what compares equal keeps its order. Documents are compared by
one field after the other, which is a total preorder where the order of the values is one. A field
that is named twice among those to sort by decides nothing at its second place.
-/

namespace RelPipe

set_option autoImplicit false

/-! Values in a transitive order -/

namespace Value

def isOrdered : Value → Bool
  | .null | .int32 _ | .int64 _ | .string _ | .boolean _ | .date _ => true
  | _ => false

def isExact : Value → Bool
  | .symbol _ | .double _ | .decimal _ => false
  | _ => true

theorem unambiguous_isExact : Unambiguous fun v => v.isExact = true where
  texts hs := nomatch hs
  numbers := by
    intro x m n y i j hx _ _ hInexact hDouble
    -- The inexact numbers are the doubles and the decimals.
    cases x <;> simp [isExact, integer?, toBinary64?] at hx hInexact hDouble

theorem builtFrom_of_isOrdered {v : Value} (h : v.isOrdered = true) :
    v.BuiltFrom fun w => w.isExact = true := by
  cases v with
  | null | int32 | int64 | string | boolean | date =>
    refine builtFrom_of_scalar rfl ?_ ?_
    · intro hDocument
      cases hDocument
    · intro hArray
      cases hArray
  | _ => cases h

end Value

namespace Pipeline

/-! Insertion -/

section

variable {α : Type} {order : α → α → Ordering} {a : α} {items sorted : List α}

theorem perm_insertDescending (order : α → α → Ordering) (a : α) (sorted : List α) :
    (insertDescending order a sorted).Perm (a :: sorted) := by
  induction sorted with
  | nil => exact .refl _
  | cons b sorted ih =>
    rw [insertDescending]
    split
    · exact (ih.cons b).trans (.swap a b sorted)
    · exact .refl _

theorem sortBy_concat (order : α → α → Ordering) (items : List α) (a : α) :
    sortBy order (items ++ [a]) =
      (insertDescending order a (sortBy order items).reverse).reverse := by
  simp [sortBy]

theorem perm_sortBy (order : α → α → Ordering) (items : List α) :
    (sortBy order items).Perm items := by
  induction items using List.reverseRecOn with
  | nil => exact .refl _
  | append_singleton items a ih =>
    rw [sortBy_concat]
    have hInsert := perm_insertDescending order a (sortBy order items).reverse
    have hRest : (a :: (sortBy order items).reverse).Perm (a :: items) :=
      ((List.reverse_perm _).trans ih).cons a
    exact ((List.reverse_perm _).trans hInsert).trans
      (hRest.trans (List.perm_append_singleton a items).symm)

/-- A total preorder of the members of a list. -/
structure Preorders (order : α → α → Ordering) (items : List α) : Prop where
  swap (a b : α) : (order a b).swap = order b a
  trans {a b c : α} (ha : a ∈ items) (hb : b ∈ items) (hc : c ∈ items)
    (hab : (order a b).isLE = true) (hbc : (order b c).isLE = true) : (order a c).isLE = true

theorem Preorders.mono {others : List α} (h : Preorders order items) (hOthers : others ⊆ items) :
    Preorders order others where
  swap := h.swap
  trans ha hb hc := h.trans (hOthers ha) (hOthers hb) (hOthers hc)

theorem Preorders.ne_lt {b c : α} (h : Preorders order items) (ha : a ∈ items) (hb : b ∈ items)
    (hc : c ∈ items) (hab : order c a = .eq) (hac : order c b = .eq) : order a b ≠ .lt := by
  intro hLess
  have hSwap := h.swap a b
  rw [hLess] at hSwap
  have hba := h.trans hb hc ha (by rw [← h.swap, hac]; rfl) (by rw [hab]; rfl)
  rw [← hSwap] at hba
  cases hba

/-- Insertion keeps a descending list in order. -/
theorem Preorders.pairwise_insertDescending (h : Preorders order (a :: sorted))
    (hSorted : sorted.Pairwise fun b c => (order c b).isLE = true) :
    (insertDescending order a sorted).Pairwise fun b c => (order c b).isLE = true := by
  induction sorted with
  | nil => exact List.pairwise_singleton _ _
  | cons b sorted ih =>
    rw [List.pairwise_cons] at hSorted
    obtain ⟨hFirst, hRest⟩ := hSorted
    rw [insertDescending]
    split
    · rename_i hLess
      -- What is inserted goes below `b`, and so does the rest of the list.
      refine .cons ?_ (ih (h.mono (List.cons_subset_cons a (List.subset_cons_self b sorted))) hRest)
      intro c hc
      obtain rfl | hc := List.mem_cons.mp ((perm_insertDescending order a sorted).mem_iff.mp hc)
      · rw [hLess]
        rfl
      · exact hFirst c hc
    · rename_i hLess
      have hBelow : (order b a).isLE = true := by
        rw [← h.swap]
        cases hOrder : order a b with
        | lt => exact absurd hOrder hLess
        | gt | eq => rfl
      -- What is inserted comes first: it is above `b`, which is above the others.
      refine .cons ?_ (.cons hFirst hRest)
      intro c hc
      obtain rfl | hc := List.mem_cons.mp hc
      · exact hBelow
      · exact h.trans (.tail _ (.tail _ hc)) (.tail _ (.head _)) (.head _) (hFirst c hc) hBelow

theorem Preorders.pairwise_sortBy (h : Preorders order items) :
    (sortBy order items).Pairwise fun a b => (order a b).isLE = true := by
  induction items using List.reverseRecOn with
  | nil => exact .nil
  | append_singleton items a ih =>
    rw [sortBy_concat, List.pairwise_reverse]
    have hPerm := perm_sortBy order items
    refine pairwise_insertDescending (h.mono ?_) ?_
    · intro b hb
      simpa [hPerm.mem_iff, or_comm] using hb
    · exact List.pairwise_reverse.mpr (ih (h.mono (List.subset_append_left items [a])))

theorem filter_insertDescending {p : α → Bool}
    (h : ∀ b ∈ sorted, p a = true → p b = true → order a b ≠ .lt) :
    (insertDescending order a sorted).filter p = (a :: sorted).filter p := by
  induction sorted with
  | nil => rfl
  | cons b sorted ih =>
    rw [List.forall_mem_cons] at h
    rw [insertDescending]
    split
    · rename_i hLess
      rw [List.filter_cons, ih h.2]
      -- What is inserted passes `b` only if one of the two is left out.
      have hOther : ¬ (p a = true ∧ p b = true) := fun ⟨ha, hb⟩ => h.1 ha hb hLess
      cases ha : p a <;> cases hb : p b <;> simp [ha, hb] at hOther ⊢
    · rfl

/-- Elements of which none is less than another keep their order. -/
theorem filter_sortBy {p : α → Bool}
    (h : ∀ a ∈ items, ∀ b ∈ items, p a = true → p b = true → order a b ≠ .lt) :
    (sortBy order items).filter p = items.filter p := by
  induction items using List.reverseRecOn with
  | nil => rfl
  | append_singleton items a ih =>
    have hLast : ∀ b ∈ (sortBy order items).reverse, p a = true → p b = true → order a b ≠ .lt := by
      intro b hb
      rw [List.mem_reverse, (perm_sortBy order items).mem_iff] at hb
      exact h a (List.mem_append_right items (.head _)) b (List.mem_append_left [a] hb)
    have hItems : ∀ b ∈ items, ∀ c ∈ items, p b = true → p c = true → order b c ≠ .lt := by
      intro b hb c hc
      exact h b (List.mem_append_left [a] hb) c (List.mem_append_left [a] hc)
    rw [sortBy_concat, List.filter_reverse, filter_insertDescending hLast, ← List.filter_reverse,
      List.reverse_cons, List.reverse_reverse, List.filter_append, ih hItems, List.filter_append]

end

theorem sortStage_nil (documents : List Document) : sortStage [] documents = documents := by
  have hKept : (sortStage [] documents).filter (fun _ => true) =
      documents.filter fun _ => true := filter_sortBy fun _ _ _ _ _ _ => nofun
  rwa [List.filter_true, List.filter_true] at hKept

/-! Fields to sort by -/

namespace SortField

def value (f : SortField) (d : Document) : Value := (d.path? f.path).getD .null

theorem compare_eq (f : SortField) (a b : Document) :
    f.compare a b = if f.descending then ((f.value a).compare (f.value b)).swap
      else (f.value a).compare (f.value b) := rfl

theorem compare_swap (f : SortField) (a b : Document) : (f.compare a b).swap = f.compare b a := by
  rw [compare_eq, compare_eq, ← Value.compare_swap (f.value a) (f.value b)]
  split <;> rfl

theorem compare_eq_eq_iff {f : SortField} {a b : Document} :
    f.compare a b = .eq ↔ (f.value a).compare (f.value b) = .eq := by
  rw [compare_eq]
  split
  · exact Ordering.swap_eq_eq
  · rfl

theorem compare_eq_lt_iff {f : SortField} {a b : Document} :
    f.compare a b = .lt ↔
      (f.value a).compare (f.value b) = if f.descending then .gt else .lt := by
  rw [compare_eq]
  split
  · exact Ordering.swap_eq_lt
  · rfl

theorem consistent {S : Value → Prop} (hS : Value.Unambiguous S) {f : SortField} {a b c : Document}
    (ha : (f.value a).BuiltFrom S) (hb : (f.value b).BuiltFrom S) (hc : (f.value c).BuiltFrom S) :
    Consistent (f.compare a b) (f.compare b c) (f.compare a c) := by
  have hValues := hS.compare (f.value a) ha hb hc
  rw [compare_eq, compare_eq, compare_eq]
  split
  · exact hValues.swap
  · exact hValues

end SortField

theorem compareBy_swap (fields : List SortField) (a b : Document) :
    (compareBy fields a b).swap = compareBy fields b a := by
  induction fields with
  | nil => rfl
  | cons f fields ih => rw [compareBy, Ordering.swap_then, f.compare_swap, ih, compareBy]

theorem consistent_compareBy {S : Value → Prop} (hS : Value.Unambiguous S)
    {fields : List SortField} {a b c : Document} (ha : ∀ f ∈ fields, (f.value a).BuiltFrom S)
    (hb : ∀ f ∈ fields, (f.value b).BuiltFrom S) (hc : ∀ f ∈ fields, (f.value c).BuiltFrom S) :
    Consistent (compareBy fields a b) (compareBy fields b c) (compareBy fields a c) := by
  induction fields with
  | nil => exact .eq
  | cons f fields ih =>
    rw [List.forall_mem_cons] at ha hb hc
    exact (SortField.consistent hS ha.1 hb.1 hc.1).followedBy fun _ _ => ih ha.2 hb.2 hc.2

theorem preorders_compareBy {S : Value → Prop} (hS : Value.Unambiguous S)
    {fields : List SortField} {documents : List Document}
    (h : ∀ f ∈ fields, ∀ d ∈ documents, (f.value d).BuiltFrom S) :
    Preorders (compareBy fields) documents where
  swap := compareBy_swap fields
  trans {a b c} ha hb hc := (consistent_compareBy hS (fun f hf => h f hf a ha)
    (fun f hf => h f hf b hb) (fun f hf => h f hf c hc)).isLE

/-- Sorted documents are in order if all values that are sorted by are. -/
theorem pairwise_sortStage {order : Document} {documents : List Document}
    (h : ∀ f ∈ sortFields order, ∀ d ∈ documents, (f.value d).isOrdered = true) :
    (sortStage order documents).Pairwise
      fun a b => (compareBy (sortFields order) a b).isLE = true :=
  (preorders_compareBy Value.unambiguous_isExact fun f hf d hd =>
    Value.builtFrom_of_isOrdered (h f hf d hd)).pairwise_sortBy

/-! The first difference -/

/-- The first of several comparisons that tells two things apart. -/
def firstDifference {ι : Type} (order : ι → Ordering) : List ι → Ordering
  | [] => .eq
  | i :: rest => (order i).then (firstDifference order rest)

section

variable {ι : Type} {order : ι → Ordering}

theorem firstDifference_map {κ : Type} (f : κ → ι) (items : List κ) :
    firstDifference order (items.map f) = firstDifference (order ∘ f) items := by
  induction items with
  | nil => rfl
  | cons i items ih => rw [List.map_cons, firstDifference, firstDifference, ih, Function.comp]

/-- What comes after the first difference has no influence. -/
theorem eq_lt_of_firstDifference {before after : List ι} {i : ι}
    (h : (firstDifference order (before ++ i :: after)).isLE = true)
    (hBefore : ∀ j ∈ before, order j = .eq) (hDiffers : order i ≠ .eq) : order i = .lt := by
  induction before with
  | nil =>
    rw [List.nil_append, firstDifference] at h
    cases hOrder : order i with
    | lt => rfl
    | eq => exact absurd hOrder hDiffers
    | gt =>
      rw [hOrder] at h
      cases h
  | cons j before ih =>
    rw [List.forall_mem_cons] at hBefore
    rw [List.cons_append, firstDifference, hBefore.1, Ordering.eq_then] at h
    exact ih h hBefore.2

end

theorem compareBy_eq_firstDifference (fields : List SortField) (a b : Document) :
    compareBy fields a b = firstDifference (fun f => f.compare a b) fields := by
  induction fields with
  | nil => rfl
  | cons f fields ih => rw [compareBy, firstDifference, ih]

/-! The order of sorted documents -/

namespace SortField

/-- The first field in which two documents differ orders them in its direction. -/
def Precedes (fields : List SortField) (a b : Document) : Prop :=
  ∀ (earlier : List SortField) (f : SortField) (later : List SortField),
    fields = earlier ++ f :: later →
    (∀ g ∈ earlier, (g.value a).compare (g.value b) = .eq) →
    (f.value a).compare (f.value b) ≠ .eq →
    (f.value a).compare (f.value b) = if f.descending then .gt else .lt

def tie (fields : List SortField) (a b : Document) : Bool :=
  fields.all fun f => (f.value a).compare (f.value b) == .eq

theorem precedes_of_compareBy {fields : List SortField} {a b : Document}
    (h : (compareBy fields a b).isLE = true) : Precedes fields a b := by
  rintro earlier f later rfl hEarlier hDiffers
  rw [compareBy_eq_firstDifference] at h
  have hLess : f.compare a b = .lt := by
    refine eq_lt_of_firstDifference (i := f) h ?_ ?_
    · exact fun g hg => compare_eq_eq_iff.mpr (hEarlier g hg)
    · exact fun hEqual => hDiffers (compare_eq_eq_iff.mp hEqual)
  exact compare_eq_lt_iff.mp hLess

theorem compareBy_of_tie {fields : List SortField} {a b : Document} (h : tie fields a b = true) :
    compareBy fields a b = .eq := by
  induction fields with
  | nil => rfl
  | cons f fields ih =>
    obtain ⟨hFirst, hRest⟩ := Bool.and_eq_true_iff.mp h
    rw [compareBy, compare_eq_eq_iff.mpr (beq_iff_eq.mp hFirst), Ordering.eq_then, ih hRest]

end SortField

/-- Sorting puts documents into the order of their fields, and documents that are equal in all
fields keep the order in which they come. -/
theorem sortStage_stable {body : Document} {documents : List Document}
    (h : ∀ f ∈ sortFields body, ∀ d ∈ documents,
      (f.value d).BuiltFrom fun v => v.isExact = true) :
    (sortStage body documents).Perm documents ∧
      (sortStage body documents).Pairwise (SortField.Precedes (sortFields body)) ∧
      ∀ d ∈ documents, (sortStage body documents).filter (SortField.tie (sortFields body) d) =
        documents.filter (SortField.tie (sortFields body) d) := by
  have hPreorder := preorders_compareBy Value.unambiguous_isExact h
  refine ⟨perm_sortBy _ _, ?_, fun d hd => ?_⟩
  · exact hPreorder.pairwise_sortBy.imp SortField.precedes_of_compareBy
  · refine filter_sortBy fun a ha b hb hda hdb => hPreorder.ne_lt ha hb hd ?_ ?_
    · exact SortField.compareBy_of_tie hda
    · exact SortField.compareBy_of_tie hdb

def parcels : List Document :=
  [[("name", .string "a"), ("at", .document [("size", .array [.int32 1, .int64 2])]),
      ("id", .int32 1)],
    [("name", .string "b"), ("id", .int32 2)],
    [("name", .string "a"), ("at", .document [("size", .array [.int64 1, .int32 2])]),
      ("id", .int32 3)],
    [("name", .string "c"), ("at", .document [("size", .document [("x", .int32 1)])]),
      ("id", .int32 4)],
    [("name", .string "d"), ("at", .document [("size", .array [.int32 1, .int64 2])]),
      ("id", .int32 5)]]

def bySizeAndName : Document := [("at.size", .int32 1), ("name", .int32 (-1))]

theorem sortStage_stable_parcels :
    (sortStage bySizeAndName parcels).Perm parcels ∧
      (sortStage bySizeAndName parcels).Pairwise
        (SortField.Precedes (sortFields bySizeAndName)) ∧
      ∀ d ∈ parcels,
        (sortStage bySizeAndName parcels).filter (SortField.tie (sortFields bySizeAndName) d) =
          parcels.filter (SortField.tie (sortFields bySizeAndName) d) := by
  have hExact : ∀ f ∈ sortFields bySizeAndName, ∀ d ∈ parcels, ∀ w ∈ (f.value d).scalars,
      w.isExact = true := by decide +kernel
  exact sortStage_stable hExact

example : (sortStage bySizeAndName parcels).map (Fields.get? · "id") =
    [some (.int32 2), some (.int32 4), some (.int32 5), some (.int32 1), some (.int32 3)] := by
  decide +kernel

/-! Fields that are named twice -/

theorem firstDifference_insert {α : Type} (order : String → Ordering) (fields : Fields α)
    (name : String) (v : α) :
    firstDifference order ((Fields.insert fields name v).map Prod.fst) =
      (firstDifference order (fields.map Prod.fst)).then (order name) := by
  induction fields with
  | nil => exact Ordering.then_eq
  | cons field fields ih =>
    obtain ⟨key, old⟩ := field
    rw [Fields.insert, List.map_cons, firstDifference]
    split
    · rename_i hKey
      subst hKey
      rw [List.map_cons, firstDifference]
      -- Either the name decides where it stands, or it does not decide at the end either.
      cases order key with
      | eq => simp
      | lt | gt => rfl
    · rw [List.map_cons, firstDifference, ih, Ordering.then_assoc]

theorem firstDifference_insertAll {α : Type} (order : String → Ordering) (fields : Fields α)
    (pairs : List (String × α)) :
    firstDifference order ((Fields.insertAll fields pairs).map Prod.fst) =
      (firstDifference order (fields.map Prod.fst)).then
        (firstDifference order (pairs.map Prod.fst)) := by
  induction pairs generalizing fields with
  | nil => exact Ordering.then_eq.symm
  | cons pair pairs ih =>
    change firstDifference order ((Fields.insertAll (Fields.insert fields pair.1 pair.2) pairs).map
      Prod.fst) = _
    rw [ih, firstDifference_insert, Ordering.then_assoc]
    rfl

def sortField (order : Document) (name : String) : SortField :=
  ⟨name, ((Fields.get? order name).bind Value.toBinary64?).elim false
    fun x => x.isNegative && !x.isZero && !x.isNaN⟩

theorem sortFields_eq {order : Document} (h : Fields.Distinct order) :
    sortFields order = (order.map Prod.fst).map (sortField order) := by
  rw [sortFields, List.map_map]
  refine List.map_congr_left fun field hField => ?_
  rw [Function.comp, sortField, Fields.get?_of_mem h hField]
  rfl

/-- Documents are compared by the names that were written, each with its last direction. -/
theorem compareBy_insertAll (entries : List (String × Value)) (a b : Document) :
    compareBy (sortFields (Fields.insertAll [] entries)) a b =
      firstDifference (fun name => (sortField (Fields.insertAll [] entries) name).compare a b)
        (entries.map Prod.fst) := by
  have hNil : Fields.Distinct ([] : Document) := List.nodup_nil
  rw [sortFields_eq (hNil.insertAll entries), compareBy_eq_firstDifference, firstDifference_map]
  exact firstDifference_insertAll _ [] entries

end Pipeline

end RelPipe
