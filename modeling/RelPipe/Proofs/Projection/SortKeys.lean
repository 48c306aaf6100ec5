import Mathlib.Data.List.Permutation
import RelPipe.Proofs.Projection.Cells
import RelPipe.Proofs.Projection.Reordering

/-!
The order of rows. The first sort key that tells two documents apart decides which of their rows
comes first, and the keys after it have no influence. A key with the signature of an operand sorts
by the field of this operand: there it sorts by what the operand reads, and if several keys do so,
all of them sort in the direction of the last.
-/

namespace RelPipe

set_option autoImplicit false

open Pipeline CaselessMap

namespace SortKey

/-- The value of a sort key on a document. What is missing counts as null. -/
def valueOn (site : Site) (key : SortKey) (d : Document) : Option Value :=
  (site.compile key.expression).toOption.bind fun o =>
    (o.valueOn ⟨d, []⟩).toOption.map Value.presentOrNull

def compareOn (site : Site) (key : SortKey) (d e : Document) : Option Ordering :=
  (key.valueOn site d).bind fun v => (key.valueOn site e).map fun w =>
    match key.direction with
    | .ascending => v.compare w
    | .descending => (v.compare w).swap

/-- One document stands before another: if some key orders them and the keys before it do not, then
this key puts it first. -/
def Precedes (site : Site) (keys : List SortKey) (d e : Document) : Prop :=
  ∀ earlier key later, keys = earlier ++ key :: later →
    (∀ other ∈ earlier, other.compareOn site d e = some .eq) →
    key.compareOn site d e ≠ some .eq → key.compareOn site d e = some .lt

end SortKey

namespace Statement

/-- Statements that sort documents without groups, by keys whose letter case counts, and show them
under names that are different from each other and from those of fields that are only sorted by. -/
structure SortsDocuments (s : Statement) : Prop where
  groupBy : s.groupBy = []
  aggregates : ∀ e ∈ s.operands.map (·.expression) ++ s.having.toList ++
    s.sorts.map (·.expression), e.localAggregates = []
  names : (OutputColumn.fieldNames s.operands).Pairwise fun a b => sameName a b = false
  helpers : ∀ index, "_sort" ++ Text.Numeral.ofNat index ∉ OutputColumn.fieldNames s.operands
  keys : ∀ key ∈ s.sorts, key.expression.sortsCaselessly = false

/-- The rows of a statement show the documents that reach its projection in the order of some sort
keys, provided that these have values of kinds with a transitive order. -/
def OrdersBy (s : Statement) (keys : List SortKey) : Prop :=
  ∀ (caseSensitive : Bool) (plan : Plan) (ctx : Context) (catalog : Catalog)
    (documents : List Document), s.compile caseSensitive = .ok (plan, ctx) →
    catalog.runPlan plan = .ok documents →
    ∃ source working, s.planSource caseSensitive [] = .ok (source, .empty) ∧
      catalog.runPlan source.plan = .ok working ∧
      ((∀ key ∈ keys, ∀ d ∈ working, ∀ v,
          key.valueOn (source.site caseSensitive) d = some v → v.isOrdered = true) →
        ∃ ordered, working.Perm ordered ∧
          ordered.Pairwise (SortKey.Precedes (source.site caseSensitive) keys) ∧
          List.Forall₂ (fun d row => List.Forall₂ (OutputColumn.Shows (source.site caseSensitive) d)
            s.operands row) (s.page ordered) (s.materialize documents))

/-- What a sort key comes to: the first operand of its signature, in the direction of the last key
of its signature. -/
def settled (s : Statement) (key : SortKey) : SortKey :=
  match s.operands.find? fun o => o.expression.signature = key.expression.signature with
  | none => key
  | some o => ⟨o.expression, ((s.sorts.reverse.find? fun other =>
      other.expression.signature = key.expression.signature).getD key).direction⟩

end Statement

/-! The fields of the sort keys -/

theorem lookup_map_eq_find? {α β γ : Type} [DecidableEq β] (key : α → β) (value : α → γ)
    (items : List α) (b : β) :
    (items.map fun a => (key a, value a)).lookup b = (items.find? fun a => key a = b).map value := by
  induction items with
  | nil => rfl
  | cons a items ih =>
    rw [List.map_cons, List.lookup_cons, List.find?_cons, ih]
    by_cases h : key a = b
    · simp [h]
    · have hOther : (b == key a) = false := beq_eq_false_iff_ne.mpr (Ne.symm h)
      simp [h, hOther]

theorem Projection.names_helpers_sublist (p : Projection) (g : Grouping) (index : Nat)
    (keys : List SortKey) :
    ((p.helpers g index keys).map Prod.fst).Sublist
      ((List.range' index keys.length).map fun i => "_sort" ++ Text.Numeral.ofNat i) := by
  induction keys generalizing index with
  | nil => exact .slnil
  | cons key keys ih =>
    rw [helpers, List.length_cons, List.range'_succ, List.map_cons]
    split
    · exact (ih (index + 1)).cons_cons _
    · exact (ih (index + 1)).cons _

theorem Projection.WritesHelper.writes {scope : Scope} {caseSensitive : Bool}
    {fields : List (String × Expression)} {specs : List (String × Value)}
    (hCase : ∀ field ∈ fields, field.2.sortsCaselessly = false)
    (h : List.Forall₂ (WritesHelper ⟨scope, .empty, caseSensitive⟩) fields specs) :
    List.Forall₂ (Writes ⟨scope, .empty, caseSensitive⟩) fields specs := by
  induction h with
  | nil => exact .nil
  | @cons field spec _ _ hField _ ih =>
    rw [List.forall_mem_cons] at hCase
    obtain ⟨hName, v, hv, hSpec⟩ := hField
    obtain ⟨operand, hOperand, rfl⟩ := exists_of_map_eq_ok hv
    rw [hCase.1] at hSpec
    exact .cons ⟨hName, operand, hOperand, hSpec⟩ (ih hCase.2)

theorem Expression.namedField?_eq_none {e : Expression} (h : e.sortsCaselessly = false)
    (p : Projection) : p.namedField? e = none := by
  cases e with
  | property name => cases h
  | _ => rfl

namespace Statement

variable {s : Statement}

def sortName (s : Statement) (index : Nat) (e : Expression) : String :=
  ((s.namedOperands.find? fun column => column.1.expression.signature = e.signature).map
    Prod.snd).getD ("_sort" ++ Text.Numeral.ofNat index)

theorem sortTarget_outline {e : Expression} (h : e.sortsCaselessly = false) :
    s.outline.sortTarget .empty e =
      ((s.namedOperands.find? fun column => column.1.expression.signature = e.signature).map
        Prod.snd).elim (.helper false) .field := by
  have hLookup : s.outline.fields.lookup e.signature =
      (s.namedOperands.find? fun column => column.1.expression.signature = e.signature).map
        Prod.snd := lookup_map_eq_find? _ _ s.namedOperands e.signature
  rw [Projection.sortTarget, h, hLookup, Expression.namedField?_eq_none h]
  cases s.namedOperands.find? fun column => column.1.expression.signature = e.signature <;> rfl

theorem sortEntries_outline (index : Nat) {keys : List SortKey}
    (h : ∀ key ∈ keys, key.expression.sortsCaselessly = false) :
    s.outline.sortEntries .empty index keys = (keys.zipIdx index).map fun place =>
      (s.sortName place.2 place.1.expression, Projection.direction place.1.direction) := by
  induction keys generalizing index with
  | nil => rfl
  | cons key keys ih =>
    rw [List.forall_mem_cons] at h
    rw [Projection.sortEntries, Projection.sortField?, sortTarget_outline h.1, ih (index + 1) h.2,
      List.zipIdx_cons, List.map_cons, sortName]
    cases s.namedOperands.find? fun column =>
      column.1.expression.signature = key.expression.signature <;> rfl

theorem mem_helpers_outline (index : Nat) {keys : List SortKey}
    (h : ∀ key ∈ keys, key.expression.sortsCaselessly = false) {place : SortKey × Nat}
    (hPlace : place ∈ keys.zipIdx index) (hNone : (s.namedOperands.find? fun column =>
      column.1.expression.signature = place.1.expression.signature) = none) :
    ("_sort" ++ Text.Numeral.ofNat place.2, place.1.expression) ∈
      s.outline.helpers .empty index keys := by
  induction keys generalizing index with
  | nil => cases hPlace
  | cons key keys ih =>
    rw [List.forall_mem_cons] at h
    rw [List.zipIdx_cons, List.mem_cons] at hPlace
    rw [Projection.helpers, sortTarget_outline h.1]
    obtain rfl | hPlace := hPlace
    · rw [hNone]
      exact .head _
    · have hRest := ih (index + 1) h.2 hPlace
      split
      · exact .tail _ hRest
      · exact hRest

theorem find?_operands (test : OutputColumn → Bool) :
    s.operands.find? test = (s.namedOperands.find? fun column => test column.1).map Prod.fst := by
  conv_lhs => rw [operands_eq, List.find?_map]
  rfl

theorem settled_of_none {key : SortKey} (h : (s.namedOperands.find? fun column =>
    column.1.expression.signature = key.expression.signature) = none) : s.settled key = key := by
  rw [settled, find?_operands, h]
  rfl

theorem settled_of_some {key : SortKey} {column : OutputColumn × String}
    (h : (s.namedOperands.find? fun column =>
      column.1.expression.signature = key.expression.signature) = some column) :
    s.settled key = ⟨column.1.expression, ((s.sorts.reverse.find? fun other =>
      other.expression.signature = key.expression.signature).getD key).direction⟩ := by
  rw [settled, find?_operands, h]
  rfl

namespace SortsDocuments

variable (hs : s.SortsDocuments)

include hs

theorem ofStatement_eq : Grouping.ofStatement s = .empty := by
  have hAggregates : (s.operands.map (·.expression) ++ s.having.toList ++
      s.sorts.map (·.expression)).flatMap Expression.localAggregates = [] :=
    List.flatMap_eq_nil_iff.mpr hs.aggregates
  rw [Grouping.ofStatement, hs.groupBy, hAggregates]
  rfl

theorem nodup_fieldNames : (OutputColumn.fieldNames s.operands).Nodup := by
  refine hs.names.imp fun hOther hSame => ?_
  rw [hSame, sameName_self] at hOther
  cases hOther

theorem not_mem_fieldNames {g : Grouping} {name : String}
    (h : name ∈ (s.helpers g).map Prod.fst) : name ∉ OutputColumn.fieldNames s.operands := by
  obtain ⟨index, _, rfl⟩ :=
    List.mem_map.mp ((Projection.names_helpers_sublist _ g 0 s.sorts).subset h)
  exact hs.helpers index

theorem separatesHelpers : s.SeparatesHelpers :=
  ⟨hs.names, fun _ => hs.not_mem_fieldNames⟩

theorem nodup_projected (g : Grouping) : ((s.outputs ++ s.helpers g).map Prod.fst).Nodup := by
  have hHelpers : ((s.helpers g).map Prod.fst).Nodup := by
    refine (Projection.names_helpers_sublist _ g 0 s.sorts).nodup (.map ?_ ?_)
    · exact fun i j h => Text.Numeral.ofNat_injective ((String.append_right_inj _).mp h)
    · exact List.nodup_range'
  rw [List.map_append, s.names_outputs, List.nodup_append]
  refine ⟨hs.nodup_fieldNames, hHelpers, fun name hName other hOther hSame => ?_⟩
  exact hs.not_mem_fieldNames hOther (hSame ▸ hName)

variable {scope : Scope} {caseSensitive : Bool} {place : SortKey × Nat}

/-- Two keys sort by one field only if they have the signature of one operand, or are the same. -/
theorem sortName_eq_iff {column : OutputColumn × String} {e other : Expression} {index : Nat}
    (hFound : (s.namedOperands.find? fun column => column.1.expression.signature = e.signature) =
      some column) :
    s.sortName index other = column.2 ↔ other.signature = e.signature := by
  have hColumn := List.mem_of_find?_eq_some hFound
  have hSignature := List.find?_some hFound
  have hName : column.2 ∈ OutputColumn.fieldNames s.operands := (List.of_mem_zip hColumn).2
  rw [sortName]
  cases hOther : s.namedOperands.find? fun column =>
      column.1.expression.signature = other.signature with
  | none =>
    constructor
    · intro hSame
      rw [← hSame] at hName
      exact absurd hName (hs.helpers index)
    · intro hSame
      rw [hSame, hFound] at hOther
      cases hOther
  | some found =>
    have hMember := List.mem_of_find?_eq_some hOther
    have hOwn := List.find?_some hOther
    rw [decide_eq_true_eq] at hSignature hOwn
    constructor
    · intro hSame
      have hNames : (s.namedOperands.map Prod.snd).Nodup := by
        rw [namedOperands, List.map_snd_zip (Nat.le_of_eq length_fieldNames)]
        exact hs.nodup_fieldNames
      obtain rfl := List.inj_on_of_nodup_map hNames hMember hColumn hSame
      exact hOwn.symm.trans hSignature
    · intro hSame
      rw [hSame, hFound] at hOther
      cases hOther
      rfl

/-- The direction under the field of a key is that of the last key that sorts by it. -/
theorem get?_order (hPlace : place ∈ s.sorts.zipIdx) :
    Fields.get? (s.order .empty) (s.sortName place.2 place.1.expression) =
      some (Projection.direction (s.settled place.1).direction) := by
  have hLast : Fields.get? (s.order .empty) (s.sortName place.2 place.1.expression) =
      (s.sorts.zipIdx.reverse.find? fun other => s.sortName other.2 other.1.expression =
        s.sortName place.2 place.1.expression).map
          fun other => Projection.direction other.1.direction := by
    rw [order, Fields.get?_insertAll, sortEntries_outline 0 hs.keys, ← List.map_reverse,
      lookup_map_eq_find?]
    exact Option.or_none
  rw [hLast]
  cases hFound : s.namedOperands.find? fun column =>
      column.1.expression.signature = place.1.expression.signature with
  | some column =>
    -- All keys of this signature sort by the field of one operand, and the last of them is kept.
    have hName : s.sortName place.2 place.1.expression = column.2 :=
      (hs.sortName_eq_iff hFound).mpr rfl
    have hReverse : s.sorts.reverse.find? (fun other =>
        other.expression.signature = place.1.expression.signature) =
        (s.sorts.zipIdx.reverse.find? fun other =>
          other.1.expression.signature = place.1.expression.signature).map Prod.fst := by
      conv_lhs => rw [← List.zipIdx_map_fst 0 s.sorts, ← List.map_reverse, List.find?_map]
      rfl
    have hSome : (s.sorts.zipIdx.reverse.find? fun other =>
        other.1.expression.signature = place.1.expression.signature).isSome = true :=
      List.find?_isSome.mpr ⟨place, List.mem_reverse.mpr hPlace, decide_eq_true rfl⟩
    obtain ⟨last, hLast⟩ := Option.isSome_iff_exists.mp hSome
    simp only [hName, hs.sortName_eq_iff hFound]
    rw [settled_of_some hFound, hReverse, hLast]
    rfl
  | none =>
    -- The field is named for the position of the key, so that no other key sorts by it.
    have hSome : (s.sorts.zipIdx.reverse.find? fun other =>
        s.sortName other.2 other.1.expression =
          s.sortName place.2 place.1.expression).isSome = true :=
      List.find?_isSome.mpr ⟨place, List.mem_reverse.mpr hPlace, decide_eq_true rfl⟩
    obtain ⟨last, hLast⟩ := Option.isSome_iff_exists.mp hSome
    have hMember := List.mem_reverse.mp (List.mem_of_find?_eq_some hLast)
    have hName := List.find?_some hLast
    rw [decide_eq_true_eq] at hName
    have hIndex : last.2 = place.2 := by
      cases hOther : s.namedOperands.find? fun column =>
          column.1.expression.signature = last.1.expression.signature with
      | some column =>
        rw [(hs.sortName_eq_iff hOther).mpr rfl, sortName, hFound] at hName
        have hField := (List.of_mem_zip (List.mem_of_find?_eq_some hOther)).2
        rw [hName] at hField
        exact absurd hField (hs.helpers place.2)
      | none =>
        rw [sortName, sortName, hFound, hOther] at hName
        exact Text.Numeral.ofNat_injective ((String.append_right_inj _).mp hName)
    have hKey : last.1 = place.1 := by
      rw [List.mem_zipIdx_iff_getElem?] at hMember hPlace
      rw [hIndex, hPlace] at hMember
      exact (Option.some.inj hMember).symm
    rw [hLast, settled_of_none hFound, ← hKey]
    rfl

theorem mem_projected (hPlace : place ∈ s.sorts.zipIdx) :
    (s.sortName place.2 place.1.expression, (s.settled place.1).expression) ∈
      s.outputs ++ s.helpers .empty := by
  cases hFound : s.namedOperands.find? fun column =>
      column.1.expression.signature = place.1.expression.signature with
  | some column =>
    rw [(hs.sortName_eq_iff hFound).mpr rfl, settled_of_some hFound]
    exact List.mem_append_left _ (List.mem_map.mpr ⟨column, List.mem_of_find?_eq_some hFound, rfl⟩)
  | none =>
    rw [sortName, hFound, settled_of_none hFound]
    exact List.mem_append_right _ (mem_helpers_outline 0 hs.keys hPlace hFound)

theorem valueOn_eq {specs helperSpecs : List (String × Value)}
    (hSpecs : List.Forall₂ (Projection.Writes ⟨scope, .empty, caseSensitive⟩) s.outputs specs)
    (hHelpers : List.Forall₂ (Projection.WritesHelper ⟨scope, .empty, caseSensitive⟩)
      (s.helpers .empty) helperSpecs) {d row : Document}
    (hRow : project [] (Fields.insertAll [("_id", .int32 0)] (specs ++ helperSpecs)) d = .ok row)
    (hPlace : place ∈ s.sorts.zipIdx) :
    (s.settled place.1).valueOn ⟨scope, .empty, caseSensitive⟩ d =
      some ((sortField (s.order .empty) (s.sortName place.2 place.1.expression)).value row) := by
  have hField := hs.mem_projected hPlace
  have hCase : ∀ helper ∈ s.helpers .empty, helper.2.sortsCaselessly = false := by
    intro helper hHelper
    obtain ⟨key, hKey, hExpression⟩ := Projection.exists_of_mem_helpers hHelper
    exact hExpression ▸ hs.keys key hKey
  have hWrites := List.rel_append hSpecs (Projection.WritesHelper.writes hCase hHelpers)
  obtain ⟨operand, v, hOperand, hv, hRead⟩ :=
    Projection.exists_of_writes hWrites (hs.nodup_projected .empty) hRow hField
  have hPlain : '.' ∉ (s.sortName place.2 place.1.expression).toList :=
    not_mem_projected (.inl rfl) (List.mem_map.mpr ⟨_, hField, rfl⟩)
  rw [SortKey.valueOn, hOperand, SortField.value, sortField, Document.path?_of_plain row hPlain,
    hRead]
  change ((operand.valueOn ⟨d, []⟩).toOption).map Value.presentOrNull = _
  rw [hv]
  cases v <;> rfl

theorem compareOn_eq {specs helperSpecs : List (String × Value)}
    (hSpecs : List.Forall₂ (Projection.Writes ⟨scope, .empty, caseSensitive⟩) s.outputs specs)
    (hHelpers : List.Forall₂ (Projection.WritesHelper ⟨scope, .empty, caseSensitive⟩)
      (s.helpers .empty) helperSpecs) {d e row row' : Document}
    (hRow : project [] (Fields.insertAll [("_id", .int32 0)] (specs ++ helperSpecs)) d = .ok row)
    (hRow' : project [] (Fields.insertAll [("_id", .int32 0)] (specs ++ helperSpecs)) e = .ok row')
    (hPlace : place ∈ s.sorts.zipIdx) :
    (s.settled place.1).compareOn ⟨scope, .empty, caseSensitive⟩ d e =
      some ((sortField (s.order .empty) (s.sortName place.2 place.1.expression)).compare
        row row') := by
  have hDescending : (sortField (s.order .empty)
      (s.sortName place.2 place.1.expression)).descending =
      ((s.settled place.1).direction == .descending) := by
    rw [sortField, hs.get?_order hPlace]
    cases (s.settled place.1).direction <;> rfl
  rw [SortKey.compareOn, hs.valueOn_eq hSpecs hHelpers hRow hPlace,
    hs.valueOn_eq hSpecs hHelpers hRow' hPlace, SortField.compare, hDescending]
  cases (s.settled place.1).direction <;> rfl

theorem names_sortEntries : (s.outline.sortEntries .empty 0 s.sorts).map Prod.fst =
    s.sorts.zipIdx.map fun place => s.sortName place.2 place.1.expression := by
  rw [sortEntries_outline 0 hs.keys, List.map_map]
  rfl

theorem exists_of_mem_sortFields {f : SortField} (h : f ∈ sortFields (s.order .empty)) :
    ∃ place ∈ s.sorts.zipIdx,
      f = sortField (s.order .empty) (s.sortName place.2 place.1.expression) := by
  have hNil : Fields.Distinct ([] : Document) := List.nodup_nil
  have hDistinct : Fields.Distinct (s.order .empty) := hNil.insertAll _
  rw [sortFields_eq hDistinct, List.mem_map] at h
  obtain ⟨name, hName, rfl⟩ := h
  obtain hNone | hName := Fields.mem_names_insertAll.mp hName
  · cases hNone
  · rw [hs.names_sortEntries, List.mem_map] at hName
    obtain ⟨place, hPlace, rfl⟩ := hName
    exact ⟨place, hPlace, rfl⟩

/-- Documents stand in the order of the keys if what they are projected to is sorted. -/
theorem precedes_of_compareBy {specs helperSpecs : List (String × Value)}
    (hSpecs : List.Forall₂ (Projection.Writes ⟨scope, .empty, caseSensitive⟩) s.outputs specs)
    (hHelpers : List.Forall₂ (Projection.WritesHelper ⟨scope, .empty, caseSensitive⟩)
      (s.helpers .empty) helperSpecs) {d e row row' : Document}
    (hRow : project [] (Fields.insertAll [("_id", .int32 0)] (specs ++ helperSpecs)) d = .ok row)
    (hRow' : project [] (Fields.insertAll [("_id", .int32 0)] (specs ++ helperSpecs)) e = .ok row')
    (hLess : (compareBy (sortFields (s.order .empty)) row row').isLE = true) :
    SortKey.Precedes ⟨scope, .empty, caseSensitive⟩ (s.sorts.map s.settled) d e := by
  intro earlier key later hKeys hEarlier hDiffers
  -- The keys are split at the first that differs, and the fields that they sort by with them.
  have hPlaces : s.sorts.zipIdx.map (fun place => s.settled place.1) = earlier ++ key :: later := by
    rw [← hKeys]
    conv_rhs => rw [← List.zipIdx_map_fst 0 s.sorts, List.map_map]
    rfl
  obtain ⟨before, rest, hSplit, rfl, hRest⟩ := List.map_eq_append_iff.mp hPlaces
  obtain ⟨place, after, rfl, rfl, rfl⟩ := List.map_eq_cons_iff.mp hRest
  have hCompare : ∀ other ∈ s.sorts.zipIdx,
      (s.settled other.1).compareOn ⟨scope, .empty, caseSensitive⟩ d e =
        some ((sortField (s.order .empty) (s.sortName other.2 other.1.expression)).compare
          row row') := fun other hOther => hs.compareOn_eq hSpecs hHelpers hRow hRow' hOther
  rw [order, compareBy_insertAll, hs.names_sortEntries, firstDifference_map, hSplit] at hLess
  rw [hSplit, List.forall_mem_append, List.forall_mem_cons] at hCompare
  rw [hCompare.2.1] at hDiffers ⊢
  have hFirst := eq_lt_of_firstDifference hLess (fun other hOther => ?_)
    fun hEqual => hDiffers (congrArg some hEqual)
  · exact congrArg some hFirst
  · have hEqual := hEarlier _ (List.mem_map.mpr ⟨other, hOther, rfl⟩)
    rw [hCompare.1 other hOther] at hEqual
    exact Option.some.inj hEqual

end SortsDocuments

/-! The order of the rows -/

theorem pairwise_of_forall₂ {α β : Type} {R : α → β → Prop} {S : α → α → Prop} {T : β → β → Prop}
    {as : List α} {bs : List β} (h : List.Forall₂ R as bs) (hPairwise : bs.Pairwise T)
    (hS : ∀ a a' b b', R a b → R a' b' → T b b' → S a a') : as.Pairwise S := by
  induction h with
  | nil => exact .nil
  | @cons a b as bs hFirst hRest ih =>
    rw [List.pairwise_cons] at hPairwise
    refine .cons (fun a' ha' => ?_) (ih hPairwise.2)
    have hFlip : List.Forall₂ (flip R) bs as := hRest.flip
    obtain ⟨b', hb', hOther⟩ := exists_of_mem_of_forall₂ hFlip ha'
    exact hS a a' b b' hFirst hOther (hPairwise.1 b' hb')

/-- What is kept is what is projected without the fields that are only sorted by. -/
theorem Shaping.forall₂_kept {g : Grouping} {scope : Scope} {caseSensitive : Bool}
    {working ordered : List Document} (hg : Grouping.ofStatement s = g) (h : s.SeparatesHelpers)
    (shaping : s.Shaping ⟨scope, g, caseSensitive⟩ working)
    (hOrdered : List.Forall₂ (fun d row => project [] (Fields.insertAll [("_id", .int32 0)]
      (shaping.specs ++ shaping.helperSpecs)) d = .ok row) ordered shaping.sorted) :
    List.Forall₂ (fun d kept => project [] (Fields.insertAll [("_id", .int32 0)] shaping.specs) d =
      .ok kept) ordered shaping.kept := by
  subst hg
  have hKeeps := shaping.keeps
  split at hKeeps
  · rename_i hNone
    have hHelpers := shaping.writesHelpers
    rw [hNone] at hHelpers
    rw [List.forall₂_nil_left_iff.mp hHelpers, List.append_nil] at hOrdered
    rw [hKeeps]
    exact hOrdered
  · refine forall₂_comp hOrdered hKeeps fun d row kept hRow hKept => ?_
    rw [← h.project_final shaping.writes shaping.writesHelpers hRow]
    exact hKept

/-- Sorted rows stand in the order of the sort keys, as far as these come to what they say. -/
theorem ordersBy_settled (hs : s.SortsDocuments) : s.OrdersBy (s.sorts.map s.settled) := by
  intro caseSensitive plan ctx catalog documents h hRun
  obtain ⟨source, working, hSource, hWorking, hShaping⟩ := exists_shaping_of_run h hRun
  rw [hs.ofStatement_eq] at hSource hShaping
  obtain ⟨shaping, rfl⟩ := hShaping
  refine ⟨source, working, hSource, hWorking, fun hOrdered => ?_⟩
  -- Documents that are projected and then sorted could as well be permuted and then projected.
  have hExchange : Relation.Comp (List.Forall₂ fun d row => project [] (Fields.insertAll
      [("_id", .int32 0)] (shaping.specs ++ shaping.helperSpecs)) d = .ok row) List.Perm
      working shaping.sorted := ⟨shaping.rows, shaping.projects, shaping.orders⟩
  rw [List.forall₂_comp_perm_eq_perm_comp_forall₂] at hExchange
  obtain ⟨ordered, hPerm, hRows⟩ := hExchange
  refine ⟨ordered, hPerm, ?_, ?_⟩
  · have hValues : ∀ f ∈ sortFields (s.order .empty), ∀ row ∈ shaping.rows,
        (f.value row).isOrdered = true := by
      intro f hf row hRow
      obtain ⟨place, hPlace, rfl⟩ := hs.exists_of_mem_sortFields hf
      obtain ⟨d, hd, hProject⟩ := exists_of_mem_of_forall₂ shaping.projects hRow
      have hKey : place.1 ∈ s.sorts := List.fst_mem_of_mem_zipIdx hPlace
      exact hOrdered _ (List.mem_map.mpr ⟨_, hKey, rfl⟩) d hd _
        (hs.valueOn_eq shaping.writes shaping.writesHelpers hProject hPlace)
    have hSorted := pairwise_sortStage hValues
    rw [← shaping.sorts] at hSorted
    exact pairwise_of_forall₂ hRows hSorted fun d e row row' hRow hRow' hLess =>
      hs.precedes_of_compareBy shaping.writes shaping.writesHelpers hRow hRow' hLess
  · rw [materialize, List.forall₂_map_right_iff]
    refine (forall₂_page (shaping.forall₂_kept hs.ofStatement_eq hs.separatesHelpers hRows)).imp
      fun d row hRow => ?_
    rw [Document.toRow, columns_eq, List.map_map, operands_eq, List.forall₂_map_left_iff,
      List.forall₂_map_right_iff, List.forall₂_same]
    exact fun column hColumn => shows_of_projected shaping.writes hs.nodup_fieldNames hRow hColumn

def sortedItems (keys : List (String × SortDirection)) : Statement :=
  { Statement.empty with
    table := "Items"
    aliasName := some "i"
    operands := [⟨.column ⟨some "i", "Value", .int32⟩, some "v"⟩,
      ⟨.column ⟨some "i", "Name", .string⟩, some "n"⟩]
    sorts := keys.map fun key => ⟨.column ⟨some "i", key.1, .int32⟩, key.2⟩ }

theorem fieldNames_sortedItems (keys : List (String × SortDirection)) :
    OutputColumn.fieldNames (sortedItems keys).operands = ["v", "n"] := rfl

theorem sortsDocuments_sortedItems (keys : List (String × SortDirection)) :
    (sortedItems keys).SortsDocuments where
  groupBy := rfl
  aggregates := by
    intro e he
    simp only [sortedItems, Statement.empty, List.map_map, List.mem_append, List.mem_map] at he
    obtain (⟨o, ho, rfl⟩ | hNone) | ⟨key, _, rfl⟩ := he
    · obtain rfl | ho := List.mem_cons.mp ho
      · rfl
      · obtain rfl := List.mem_singleton.mp ho
        rfl
    · cases hNone
    · rfl
  names := by
    rw [fieldNames_sortedItems]
    decide
  helpers := by
    intro index hName
    rw [fieldNames_sortedItems] at hName
    simp [← String.toList_inj] at hName
  keys := by
    intro key hKey
    obtain ⟨_, _, rfl⟩ := List.mem_map.mp hKey
    rfl

def rankedItems : Catalog :=
  [("Items", [[("Name", .string "a"), ("Value", .int32 1), ("Rank", .int32 1)],
    [("Name", .string "b"), ("Value", .int32 2), ("Rank", .int32 2)],
    [("Name", .string "c"), ("Value", .int32 2), ("Rank", .int32 1)]])]

/-- By value, by rank and by value again: the last direction of the value counts from the first
place on. -/
theorem ordersBy_rankedItems :
    (∃ plan ctx, (sortedItems [("Value", .ascending), ("Rank", .ascending),
        ("Value", .descending)]).compile false = .ok (plan, ctx) ∧
      rankedItems.runPlan plan = .ok [[("v", .int32 2), ("n", .string "c")],
        [("v", .int32 2), ("n", .string "b")], [("v", .int32 1), ("n", .string "a")]]) ∧
      (sortedItems [("Value", .ascending), ("Rank", .ascending), ("Value", .descending)]).OrdersBy
        (sortedItems [("Value", .descending), ("Rank", .ascending), ("Value", .descending)]).sorts :=
  ⟨⟨_, _, rfl, rfl⟩, ordersBy_settled (sortsDocuments_sortedItems _)⟩

/-- A key that is repeated in the other direction turns the first one around. -/
theorem not_ordersBy_sortedItems :
    (sortedItems [("Value", .ascending), ("Value", .descending)]).SortsDocuments ∧
      ¬ (sortedItems [("Value", .ascending), ("Value", .descending)]).OrdersBy
        (sortedItems [("Value", .ascending), ("Value", .descending)]).sorts := by
  refine ⟨sortsDocuments_sortedItems _, fun hOrders => ?_⟩
  obtain ⟨source, working, hSource, hWorking, hOrders⟩ := hOrders false _ _ twoItems
    [[("v", .int32 2), ("n", .string "b")], [("v", .int32 1), ("n", .string "a")]] rfl rfl
  cases hSource
  cases hWorking
  have hValues : ∀ key ∈ (sortedItems [("Value", .ascending), ("Value", .descending)]).sorts,
      ∀ d ∈ twoItems.collection "Items", ∀ v,
        key.valueOn ((Planning.start "Items" "i" []).site false) d = some v →
          v.isOrdered = true := by
    intro key hKey d hd v hv
    have hName : key.expression = .column ⟨some "i", "Value", .int32⟩ := by
      obtain rfl | hKey := List.mem_cons.mp hKey
      · rfl
      · obtain rfl := List.mem_singleton.mp hKey
        rfl
    rw [SortKey.valueOn, hName] at hv
    obtain rfl | hd := List.mem_cons.mp hd
    · cases hv
      rfl
    · obtain rfl := List.mem_singleton.mp hd
      cases hv
      rfl
  obtain ⟨ordered, hPerm, hPairwise, hRows⟩ := hOrders hValues
  have hOrdered : ordered ∈ [[[("Name", .string "b"), ("Value", .int32 2)],
      [("Name", .string "a"), ("Value", .int32 1)]],
      [[("Name", .string "a"), ("Value", .int32 1)], [("Name", .string "b"), ("Value", .int32 2)]]] :=
    List.mem_permutations'.mpr hPerm.symm
  obtain rfl | hOrdered := List.mem_cons.mp hOrdered
  · have hFirst := List.rel_of_pairwise_cons hPairwise (.head _)
    cases hFirst [] _ _ rfl (List.forall_mem_nil _) nofun
  · obtain rfl := List.mem_singleton.mp hOrdered
    obtain ⟨operand, v, hOperand, hv, hCell⟩ := (List.forall₂_cons.mp (List.forall₂_cons.mp hRows).1).1
    cases hOperand
    cases hv
    cases hCell

end Statement

end RelPipe
