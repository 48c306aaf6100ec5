import Mathlib.Data.List.Forall2
import Mathlib.Data.List.Perm.Basic
import RelPipe.Pipeline.Stage
import RelPipe.Proofs.Document.Fields
import RelPipe.Proofs.Outcome

/-!
Groups of documents. A document joins the first group whose first document is like it, or starts a
group of its own at the end. The stage that groups documents forms these groups and keeps, for each,
the key of the first document and the inputs of all of them.
-/

namespace RelPipe.Pipeline

set_option autoImplicit false

/-- A group of documents in the order of their arrival. -/
structure DocumentGroup where
  first : Document
  rest : List Document

namespace DocumentGroup

def documents (g : DocumentGroup) : List Document := g.first :: g.rest

def add (g : DocumentGroup) (d : Document) : DocumentGroup := ⟨g.first, g.rest ++ [d]⟩

theorem documents_add (g : DocumentGroup) (d : Document) :
    (g.add d).documents = g.documents ++ [d] := rfl

section

variable (same : Document → Document → Prop) [DecidableRel same]

/-- Puts a document into the first group whose first document is like it, or into a new group at the
end. -/
def joinFirst (d : Document) : List DocumentGroup → List DocumentGroup
  | [] => [⟨d, []⟩]
  | g :: groups => if same g.first d then g.add d :: groups else g :: joinFirst d groups

def ofDocuments (documents : List Document) : List DocumentGroup :=
  documents.foldl (fun groups d => joinFirst same d groups) []

end

/-- Documents are in groups by a relation: each document is in one group, groups are in the order of
their first documents and have their documents in the order of arrival, and a document is in the
first of the groups whose first document is like it. -/
structure Partitions (same : Document → Document → Prop) (documents : List Document)
    (groups : List DocumentGroup) : Prop where
  once : (groups.flatMap DocumentGroup.documents).Perm documents
  order : (groups.map first).Sublist documents
  arrival : ∀ g ∈ groups, g.documents.Sublist documents
  alike : ∀ g ∈ groups, ∀ d ∈ g.rest, same g.first d
  apart : groups.Pairwise fun g later => ∀ d ∈ later.documents, ¬ same g.first d

section

variable {same : Document → Document → Prop} [DecidableRel same] {d : Document}
  {groups : List DocumentGroup}

theorem joinFirst_cons (d : Document) (g : DocumentGroup) (groups : List DocumentGroup) :
    joinFirst same d (g :: groups) =
      if same g.first d then g.add d :: groups else g :: joinFirst same d groups := rfl

theorem mem_joinFirst {g : DocumentGroup} (h : g ∈ joinFirst same d groups) :
    g ∈ groups ∨ (∃ old ∈ groups, same old.first d ∧ g = old.add d) ∨ g = ⟨d, []⟩ := by
  induction groups with
  | nil => exact .inr (.inr (List.mem_singleton.mp h))
  | cons old groups ih =>
    rw [joinFirst_cons] at h
    split at h
    · rename_i hSame
      obtain rfl | h := List.mem_cons.mp h
      · exact .inr (.inl ⟨old, .head _, hSame, rfl⟩)
      · exact .inl (.tail _ h)
    · obtain rfl | h := List.mem_cons.mp h
      · exact .inl (.head _)
      · obtain h | ⟨other, hOther, hAdded⟩ | hNew := ih h
        · exact .inl (.tail _ h)
        · exact .inr (.inl ⟨other, .tail _ hOther, hAdded⟩)
        · exact .inr (.inr hNew)

theorem perm_joinFirst :
    ((joinFirst same d groups).flatMap documents).Perm (groups.flatMap documents ++ [d]) := by
  induction groups with
  | nil => exact .refl _
  | cons g groups ih =>
    rw [joinFirst_cons]
    split
    · rw [List.flatMap_cons, List.flatMap_cons, documents_add, List.append_assoc,
        List.append_assoc]
      exact List.perm_append_comm.append_left g.documents
    · rw [List.flatMap_cons, List.flatMap_cons, List.append_assoc]
      exact ih.append_left g.documents

theorem map_first_joinFirst :
    (joinFirst same d groups).map first = groups.map first ∨
      (joinFirst same d groups).map first = groups.map first ++ [d] := by
  induction groups with
  | nil => exact .inr rfl
  | cons g groups ih =>
    rw [joinFirst_cons]
    split
    · exact .inl rfl
    · simpa using ih

theorem pairwise_joinFirst
    (h : groups.Pairwise fun g later => ∀ x ∈ later.documents, ¬ same g.first x) :
    (joinFirst same d groups).Pairwise fun g later => ∀ x ∈ later.documents, ¬ same g.first x := by
  induction groups with
  | nil => exact List.pairwise_singleton _ _
  | cons g groups ih =>
    obtain ⟨hFirst, hRest⟩ := List.pairwise_cons.mp h
    rw [joinFirst_cons]
    split
    · exact List.pairwise_cons.mpr ⟨hFirst, hRest⟩
    · rename_i hOther
      refine List.pairwise_cons.mpr ⟨fun later hLater x hx => ?_, ih hRest⟩
      obtain hLater | ⟨old, hOld, _, rfl⟩ | rfl := mem_joinFirst hLater
      · exact hFirst later hLater x hx
      · rw [documents_add] at hx
        obtain hx | hx := List.mem_append.mp hx
        · exact hFirst old hOld x hx
        · obtain rfl := List.mem_singleton.mp hx
          exact hOther
      · obtain rfl := List.mem_singleton.mp hx
        exact hOther

theorem Partitions.joinFirst {documents : List Document} (h : Partitions same documents groups) :
    Partitions same (documents ++ [d]) (joinFirst same d groups) where
  once := perm_joinFirst.trans (h.once.append_right [d])
  order := by
    have hFirst : (DocumentGroup.joinFirst same d groups).map first = groups.map first ∨
        (DocumentGroup.joinFirst same d groups).map first = groups.map first ++ [d] :=
      map_first_joinFirst
    obtain hFirst | hFirst := hFirst
    · rw [hFirst]
      exact h.order.trans (List.sublist_append_left _ _)
    · rw [hFirst]
      exact h.order.append_right [d]
  arrival g hg := by
    obtain hg | ⟨old, hOld, _, rfl⟩ | rfl := mem_joinFirst hg
    · exact (h.arrival g hg).trans (List.sublist_append_left _ _)
    · exact (h.arrival old hOld).append_right [d]
    · exact List.sublist_append_right _ _
  alike g hg x hx := by
    obtain hg | ⟨old, hOld, hSame, rfl⟩ | rfl := mem_joinFirst hg
    · exact h.alike g hg x hx
    · obtain hx | hx := List.mem_append.mp hx
      · exact h.alike old hOld x hx
      · obtain rfl := List.mem_singleton.mp hx
        exact hSame
    · cases hx
  apart := pairwise_joinFirst h.apart

theorem Partitions.foldl {seen : List Document} (h : Partitions same seen groups)
    (documents : List Document) :
    Partitions same (seen ++ documents)
      (documents.foldl (fun groups d => DocumentGroup.joinFirst same d groups) groups) := by
  induction documents generalizing seen groups with
  | nil => simpa using h
  | cons d documents ih => simpa using ih h.joinFirst

theorem partitions_ofDocuments (documents : List Document) :
    Partitions same documents (ofDocuments same documents) := by
  have hNone : Partitions same [] [] :=
    ⟨.refl _, .refl _, List.forall_mem_nil _, List.forall_mem_nil _, .nil⟩
  exact hNone.foldl documents

end

end DocumentGroup

/-! The stage that groups -/

/-- What a stage that groups computes: the key of a document, its input for each of some
accumulators, and what the accumulators make of the inputs. -/
structure GroupSpec (ι : Type) where
  items : List ι
  accumulator : ι → Accumulator
  keyOf : Document → Value
  inputOf : ι → Document → Value
  total : ι → List Value → Value

namespace GroupSpec

variable {ι : Type} (spec : GroupSpec ι)

def kept (g : DocumentGroup) : Group :=
  ⟨spec.keyOf g.first, spec.items.map fun i => g.documents.map (spec.inputOf i)⟩

def summary (g : DocumentGroup) : Document :=
  ("_id", spec.keyOf g.first) ::
    spec.items.map fun i =>
      ((spec.accumulator i).field, spec.total i (g.documents.map (spec.inputOf i)))

/-- A key and the accumulators compute what they should on some documents. -/
structure Describes (vars : Variables) (key : Value) (documents : List Document) : Prop where
  key : ∀ d ∈ documents, evaluate ⟨d, vars⟩ key = .ok (spec.keyOf d) ∧ spec.keyOf d ≠ .undefined
  inputs : ∀ d ∈ documents, ∀ i ∈ spec.items,
    evaluate ⟨d, vars⟩ (spec.accumulator i).input = .ok (spec.inputOf i d)
  totals : ∀ i ∈ spec.items, ∀ inputs,
    accumulate (spec.accumulator i).operator inputs = .ok (spec.total i inputs)

variable {spec}

theorem evaluateEach_items {env : Environment} {items : List ι} {accumulator : ι → Accumulator}
    {f : ι → Value} (h : ∀ i ∈ items, evaluate env (accumulator i).input = .ok (f i)) :
    evaluateEach env ((items.map accumulator).map Accumulator.input) = .ok (items.map f) := by
  induction items with
  | nil => rfl
  | cons i items ih =>
    obtain ⟨hFirst, hRest⟩ := List.forall_mem_cons.mp h
    rw [List.map_cons, List.map_cons, evaluateEach, hFirst, ih hRest]
    rfl

theorem accumulateAll_items {items : List ι} {accumulator : ι → Accumulator}
    {total : ι → List Value → Value}
    (h : ∀ i ∈ items, ∀ inputs, accumulate (accumulator i).operator inputs = .ok (total i inputs))
    (slot : ι → List Value) :
    accumulateAll ((items.map accumulator).zip (items.map slot)) =
      .ok (items.map fun i => ((accumulator i).field, total i (slot i))) := by
  induction items with
  | nil => rfl
  | cons i items ih =>
    obtain ⟨hFirst, hRest⟩ := List.forall_mem_cons.mp h
    rw [List.map_cons, List.map_cons, List.zip_cons_cons, accumulateAll, hFirst, ih hRest]
    rfl

section

variable {same : Document → Document → Prop} [DecidableRel same]
  (hSame : ∀ d d', same d d' ↔ (spec.keyOf d).compare (spec.keyOf d') = .eq)

include hSame

theorem addToGroup_kept (d : Document) (groups : List DocumentGroup) :
    addToGroup (spec.keyOf d) (spec.items.map (spec.inputOf · d)) (groups.map spec.kept) =
      (DocumentGroup.joinFirst same d groups).map spec.kept := by
  induction groups with
  | nil => simp [addToGroup, DocumentGroup.joinFirst, kept, DocumentGroup.documents]
  | cons g groups ih =>
    have hTest : (spec.kept g).key.compare (spec.keyOf d) = .eq ↔ same g.first d :=
      (hSame g.first d).symm
    rw [List.map_cons, addToGroup, DocumentGroup.joinFirst]
    by_cases hFirst : same g.first d
    · rw [if_pos (hTest.mpr hFirst), if_pos hFirst, List.map_cons]
      simp [kept, DocumentGroup.add, DocumentGroup.documents, List.zipWith_map]
    · rw [if_neg (mt hTest.mp hFirst), if_neg hFirst, List.map_cons, ih]

theorem Describes.groupAll {vars : Variables} {key : Value} {documents : List Document}
    (h : spec.Describes vars key documents) (groups : List DocumentGroup) :
    groupAll vars key (spec.items.map spec.accumulator) (groups.map spec.kept) documents =
      .ok ((documents.foldl (fun groups d => DocumentGroup.joinFirst same d groups) groups).map
        spec.kept) := by
  obtain ⟨hKey, hInputs, _⟩ := h
  induction documents generalizing groups with
  | nil => rfl
  | cons d documents ih =>
    obtain ⟨⟨hFirstKey, hPresent⟩, hKeys⟩ := List.forall_mem_cons.mp hKey
    obtain ⟨hFirstInputs, hInputs⟩ := List.forall_mem_cons.mp hInputs
    have hKept : (spec.keyOf d).presentOrNull = spec.keyOf d := by
      cases hd : spec.keyOf d with
      | undefined => exact absurd hd hPresent
      | _ => rfl
    rw [Pipeline.groupAll, hFirstKey, evaluateEach_items hFirstInputs]
    change Pipeline.groupAll vars key _ (addToGroup (spec.keyOf d).presentOrNull _ _) documents = _
    rw [hKept, addToGroup_kept hSame, ih _ hKeys hInputs, List.foldl_cons]

theorem Describes.groupStage {vars : Variables} {key : Value} {documents : List Document}
    (h : spec.Describes vars key documents) {fields : List (String × Value)}
    (hFields : accumulators fields = .ok (spec.items.map spec.accumulator)) :
    groupStage vars (("_id", key) :: fields) documents =
      .ok ((DocumentGroup.ofDocuments same documents).map spec.summary) := by
  have hAccumulators : accumulators (("_id", key) :: fields) =
      .ok (spec.items.map spec.accumulator) := by
    rw [accumulators.eq_def]
    exact hFields
  have hDocuments : ∀ groups : List DocumentGroup,
      groupDocuments (spec.items.map spec.accumulator) (groups.map spec.kept) =
        .ok (groups.map spec.summary) := by
    intro groups
    induction groups with
    | nil => rfl
    | cons g groups ih =>
      rw [List.map_cons, groupDocuments, kept, accumulateAll_items h.totals, ih]
      rfl
  have hGroups := h.groupAll hSame []
  rw [List.map_nil] at hGroups
  rw [Pipeline.groupStage, Fields.get?_cons, if_pos rfl]
  dsimp only
  rw [hAccumulators]
  change (Pipeline.groupAll _ _ _ _ _ >>= _) = _
  rw [hGroups]
  exact hDocuments _

end

end GroupSpec

/-! The keys of the groups -/

theorem identities_groupDocuments {accumulators : List Accumulator} {groups : List Group}
    {out : List Document} (h : groupDocuments accumulators groups = .ok out) :
    List.Forall₂ (fun g row => Fields.get? row "_id" = some g.key) groups out := by
  induction groups generalizing out with
  | nil =>
    cases h
    exact .nil
  | cons g groups ih =>
    obtain ⟨fields, _, h⟩ := exists_of_bind_eq_ok h
    obtain ⟨others, hOthers, h⟩ := exists_of_bind_eq_ok h
    cases h
    exact .cons rfl (ih hOthers)

section

variable {same : Document → Document → Prop} [DecidableRel same] {keyOf : Document → Value}
  (hSame : ∀ d d', same d d' ↔ (keyOf d).compare (keyOf d') = .eq)

include hSame

theorem keys_addToGroup {groups : List Group} {formed : List DocumentGroup}
    (h : groups.map Group.key = formed.map fun g => keyOf g.first) (d : Document)
    (inputs : List Value) : (addToGroup (keyOf d) inputs groups).map Group.key =
      (DocumentGroup.joinFirst same d formed).map fun g => keyOf g.first := by
  induction formed generalizing groups with
  | nil =>
    obtain rfl := List.map_eq_nil_iff.mp h
    rfl
  | cons g formed ih =>
    obtain ⟨old, rest, rfl, hKey, hRest⟩ := List.map_eq_cons_iff.mp h
    rw [addToGroup, DocumentGroup.joinFirst, hKey]
    by_cases hFirst : same g.first d
    · rw [if_pos ((hSame g.first d).mp hFirst), if_pos hFirst, List.map_cons, List.map_cons, hRest]
      rfl
    · rw [if_neg (mt (hSame g.first d).mpr hFirst), if_neg hFirst, List.map_cons, List.map_cons,
        hKey, ih hRest]

theorem keys_groupAll {vars : Variables} {key : Value} {accumulators : List Accumulator}
    {documents : List Document} (hKeys : ∀ d ∈ documents, evaluate ⟨d, vars⟩ key = .ok (keyOf d) ∧
      (keyOf d).presentOrNull = keyOf d) {groups out : List Group} {formed : List DocumentGroup}
    (h : groups.map Group.key = formed.map fun g => keyOf g.first)
    (hRun : groupAll vars key accumulators groups documents = .ok out) :
    out.map Group.key =
      (documents.foldl (fun formed d => DocumentGroup.joinFirst same d formed) formed).map
        fun g => keyOf g.first := by
  induction documents generalizing groups formed with
  | nil =>
    cases hRun
    exact h
  | cons d documents ih =>
    obtain ⟨⟨hKey, hPresent⟩, hKeys⟩ := List.forall_mem_cons.mp hKeys
    obtain ⟨k, hk, hRun⟩ := exists_of_bind_eq_ok hRun
    obtain rfl := Except.ok.inj (hKey.symm.trans hk)
    obtain ⟨inputs, _, hRun⟩ := exists_of_bind_eq_ok hRun
    rw [hPresent] at hRun
    exact ih hKeys (keys_addToGroup hSame h d inputs) hRun

/-- The stage yields a document for each group, with the key of the first document of the group. -/
theorem identities_groupStage {vars : Variables} {body : Document} {key : Value}
    (hBody : Fields.get? body "_id" = some key) {documents : List Document}
    (hKeys : ∀ d ∈ documents, evaluate ⟨d, vars⟩ key = .ok (keyOf d) ∧
      (keyOf d).presentOrNull = keyOf d) {out : List Document}
    (h : groupStage vars body documents = .ok out) :
    List.Forall₂ (fun g row => Fields.get? row "_id" = some (keyOf g.first))
      (DocumentGroup.ofDocuments same documents) out := by
  rw [groupStage, hBody] at h
  obtain ⟨accumulators, _, h⟩ := exists_of_bind_eq_ok h
  obtain ⟨groups, hGroups, h⟩ := exists_of_bind_eq_ok h
  have hFormed : groups.map Group.key =
      (DocumentGroup.ofDocuments same documents).map fun g => keyOf g.first :=
    keys_groupAll hSame hKeys rfl hGroups
  have hIdentities : List.Forall₂ (fun k row => Fields.get? row "_id" = some k)
      (groups.map Group.key) out := List.forall₂_map_left_iff.mpr (identities_groupDocuments h)
  rw [hFormed, List.forall₂_map_left_iff] at hIdentities
  exact hIdentities

end

end RelPipe.Pipeline
