import RelPipe.Compile.Projection
import RelPipe.Proofs.Document.Fields
import RelPipe.Proofs.Outcome
import RelPipe.Proofs.Scoping.Correlations
import RelPipe.Proofs.Scoping.Planning

/-!
The stages that shape results, one by one. The first projection computes the operands and what is
sorted by on its own, each under the name that it is written under last. The stages after it sort,
keep and count documents by these names and compute nothing.
-/

namespace RelPipe

set_option autoImplicit false

namespace Fields

variable {α : Type}

theorem get?_insertAll (fields : Fields α) (pairs : List (String × α)) (name : String) :
    get? (insertAll fields pairs) name = (pairs.reverse.lookup name).or (get? fields name) := by
  induction pairs generalizing fields with
  | nil => rfl
  | cons pair pairs ih =>
    obtain ⟨key, v⟩ := pair
    change get? (insertAll (insert fields key v) pairs) name = _
    rw [ih, List.reverse_cons, List.lookup_append, Option.or_assoc]
    congr 1
    by_cases h : key = name
    · subst h
      simp
    · have hOther : (name == key) = false := beq_eq_false_iff_ne.mpr (Ne.symm h)
      simp [get?_insert_of_ne fields h, List.lookup_cons, hOther]

theorem Distinct.insertAll {fields : Fields α} (h : Distinct fields) (pairs : List (String × α)) :
    Distinct (insertAll fields pairs) := by
  induction pairs generalizing fields with
  | nil => exact h
  | cons pair pairs ih => exact ih (h.insert pair.1 pair.2)

theorem mem_insertAll {fields : Fields α} (h : Distinct fields) {pairs : List (String × α)}
    {name : String} {v : α} :
    (name, v) ∈ insertAll fields pairs ↔
      pairs.reverse.lookup name = some v ∨
        pairs.reverse.lookup name = none ∧ (name, v) ∈ fields := by
  have hGet : ∀ {fields : Fields α}, Distinct fields →
      ((name, v) ∈ fields ↔ get? fields name = some v) :=
    fun h => ⟨get?_of_mem h, mem_of_get?⟩
  rw [hGet (h.insertAll pairs), hGet h, get?_insertAll]
  cases pairs.reverse.lookup name <;> simp

theorem mem_of_mem_ofPairs {pairs : List (String × α)} {pair : String × α}
    (h : pair ∈ ofPairs pairs) : pair ∈ pairs := by
  obtain hSome | ⟨_, hNil⟩ := (mem_insertAll (by exact List.nodup_nil)).mp h
  · exact List.mem_reverse.mp (mem_of_get? hSome)
  · cases hNil

theorem forall₂_insert {β : Type} {R : String × α → String × β → Prop}
    (hR : ∀ field other, R field other → field.1 = other.1) {fields : Fields α} {others : Fields β}
    (h : List.Forall₂ R fields others) {name : String} {v : α} {w : β}
    (hLast : R (name, v) (name, w)) :
    List.Forall₂ R (insert fields name v) (insert others name w) := by
  induction h with
  | nil => exact .cons hLast .nil
  | @cons field other fields others hFirst hRest ih =>
    obtain ⟨key, old⟩ := field
    obtain ⟨key', old'⟩ := other
    obtain rfl : key = key' := hR _ _ hFirst
    rw [insert, insert]
    split
    · rename_i hKey
      exact .cons (hKey ▸ hLast) hRest
    · exact .cons hFirst ih

theorem forall₂_insertAll {β : Type} {R : String × α → String × β → Prop}
    (hR : ∀ field other, R field other → field.1 = other.1) {fields : Fields α} {others : Fields β}
    (h : List.Forall₂ R fields others) {pairs : List (String × α)} {pairs' : List (String × β)}
    (hPairs : List.Forall₂ R pairs pairs') :
    List.Forall₂ R (insertAll fields pairs) (insertAll others pairs') := by
  induction hPairs generalizing fields others with
  | nil => exact h
  | @cons pair pair' pairs pairs' hPair _ ih =>
    obtain ⟨name, v⟩ := pair
    obtain ⟨name', w⟩ := pair'
    obtain rfl : name = name' := hR _ _ hPair
    exact ih (forall₂_insert hR h hPair)

theorem insert_of_not_mem {fields : Fields α} {name : String} (h : name ∉ fields.map Prod.fst)
    (v : α) : insert fields name v = fields ++ [(name, v)] := by
  induction fields with
  | nil => rfl
  | cons field fields ih =>
    obtain ⟨key, old⟩ := field
    rw [List.map_cons, List.mem_cons, not_or] at h
    rw [insert, if_neg (Ne.symm h.1), ih h.2, List.cons_append]

theorem insertAll_of_distinct {fields pairs : Fields α} (h : Distinct (fields ++ pairs)) :
    insertAll fields pairs = fields ++ pairs := by
  induction pairs generalizing fields with
  | nil => exact (List.append_nil _).symm
  | cons pair pairs ih =>
    obtain ⟨name, v⟩ := pair
    have hNew : name ∉ fields.map Prod.fst := by
      intro hName
      rw [Distinct, List.map_append] at h
      exact List.disjoint_of_nodup_append h hName (.head _)
    have hSame : fields ++ (name, v) :: pairs = fields ++ [(name, v)] ++ pairs := by simp
    change insertAll (insert fields name v) pairs = _
    rw [insert_of_not_mem hNew, ih (hSame ▸ h), hSame]

theorem ofPairs_of_distinct {pairs : Fields α} (h : Distinct pairs) : ofPairs pairs = pairs :=
  insertAll_of_distinct h

theorem mem_names_insertAll {fields : Fields α} {pairs : List (String × α)} {name : String} :
    name ∈ (insertAll fields pairs).map Prod.fst ↔
      name ∈ fields.map Prod.fst ∨ name ∈ pairs.map Prod.fst := by
  induction pairs generalizing fields with
  | nil => simp [insertAll]
  | cons pair pairs ih =>
    change name ∈ (insertAll (insert fields pair.1 pair.2) pairs).map Prod.fst ↔ _
    rw [ih, mem_names_insert, List.map_cons, List.mem_cons]
    tauto

theorem insertAll_ne_nil {fields : Fields α} (h : fields ≠ []) (pairs : List (String × α)) :
    insertAll fields pairs ≠ [] := by
  obtain ⟨field, rest, rfl⟩ := List.exists_cons_of_ne_nil h
  intro hEmpty
  have hName : field.1 ∈ (insertAll (field :: rest) pairs).map Prod.fst :=
    mem_names_insertAll.mpr (.inl (.head _))
  rw [hEmpty] at hName
  cases hName

theorem Distinct.get?_reverse {fields : Fields α} (h : Distinct fields)
    (name : String) : get? fields.reverse name = get? fields name := by
  have hReverse : Distinct fields.reverse := by
    rw [Distinct, List.map_reverse]
    exact List.nodup_reverse.mpr h
  cases hFound : get? fields name with
  | some v => exact get?_of_mem hReverse (List.mem_reverse.mpr (mem_of_get? hFound))
  | none =>
    refine get?_eq_none_of_not_mem fun hName => ?_
    obtain ⟨field, hField, rfl⟩ := List.mem_map.mp hName
    rw [get?_of_mem h (List.mem_reverse.mp hField)] at hFound
    cases hFound

theorem get?_map {β : Type} (f : α → β) (fields : Fields α) (name : String) :
    get? (fields.map fun field => (field.1, f field.2)) name = (get? fields name).map f := by
  induction fields with
  | nil => rfl
  | cons field fields ih =>
    obtain ⟨key, v⟩ := field
    rw [List.map_cons, get?_cons, get?_cons, ih]
    split <;> rfl

/-- Fields without a name twice are the same if they read the same. -/
theorem Distinct.perm {fields others : Fields α} (h : Distinct fields)
    (hOthers : Distinct others) (hGet : ∀ name, get? fields name = get? others name) :
    fields.Perm others := by
  rw [List.perm_ext_iff_of_nodup h.of_map hOthers.of_map]
  rintro ⟨name, v⟩
  constructor
  · intro hMem
    exact mem_of_get? ((hGet name).symm.trans (get?_of_mem h hMem))
  · intro hMem
    exact mem_of_get? ((hGet name).trans (get?_of_mem hOthers hMem))

end Fields

theorem CaselessMap.keys_insertAll_subset {α : Type} (m : CaselessMap α)
    (pairs : List (String × α)) {name : String} (h : name ∈ (m.insertAll pairs).keys) :
    name ∈ m.keys ∨ name ∈ pairs.map Prod.fst := by
  have hInsert : ∀ (m : CaselessMap α) (pair : String × α),
      name ∈ (m.insert pair.1 pair.2).keys → name ∈ m.keys ∨ name = pair.1 := by
    intro m pair hName
    unfold insert at hName
    split at hName
    · obtain ⟨entry, hEntry, rfl⟩ := List.mem_map.mp hName
      obtain ⟨old, hOld, rfl⟩ := List.mem_map.mp hEntry
      refine .inl (List.mem_map.mpr ⟨old, hOld, ?_⟩)
      rw [apply_ite Prod.fst, ite_self]
    · simpa [keys] using hName
  induction pairs generalizing m with
  | nil => exact .inl h
  | cons pair pairs ih =>
    obtain hKeys | hPairs := ih (m.insert pair.1 pair.2) h
    · obtain hKeys | rfl := hInsert m pair hKeys
      · exact .inl hKeys
      · exact .inr (.head _)
    · exact .inr (.tail _ hPairs)

theorem names_eq_of_forall₂ {α : Type} {nameOf : α → String} {R : α → String × Value → Prop}
    (hR : ∀ a field, R a field → field.1 = nameOf a) {as : List α} {fields : List (String × Value)}
    (h : List.Forall₂ R as fields) : fields.map Prod.fst = as.map nameOf := by
  induction h with
  | nil => rfl
  | cons hHead _ ih => rw [List.map_cons, List.map_cons, ih, hR _ _ hHead]

theorem exists_of_mem_of_forall₂ {α β : Type} {R : α → β → Prop} {as : List α} {bs : List β}
    (h : List.Forall₂ R as bs) {b : β} (hb : b ∈ bs) : ∃ a ∈ as, R a b := by
  induction h with
  | nil => cases hb
  | @cons a _ as _ hHead _ ih =>
    obtain rfl | hb := List.mem_cons.mp hb
    · exact ⟨a, .head _, hHead⟩
    · obtain ⟨other, hOther, hRest⟩ := ih hb
      exact ⟨other, .tail _ hOther, hRest⟩

theorem forall_before_concat {α : Type} {P : List α → α → Prop} (items : List α) (last : α) :
    (∀ i, ∀ h : i < (items ++ [last]).length, P ((items ++ [last]).take i) (items ++ [last])[i]) ↔
      (∀ i, ∀ h : i < items.length, P (items.take i) items[i]) ∧ P items last := by
  have hEarlier : ∀ i, ∀ hi : i < items.length, ∀ h : i < (items ++ [last]).length,
      P ((items ++ [last]).take i) (items ++ [last])[i] ↔ P (items.take i) items[i] := by
    intro i hi h
    rw [List.take_append_of_le_length (Nat.le_of_lt hi), List.getElem_append_left hi]
  have hLast : ∀ h : items.length < (items ++ [last]).length,
      P ((items ++ [last]).take items.length) (items ++ [last])[items.length] ↔ P items last := by
    intro h
    rw [List.take_left, List.getElem_concat_length rfl]
  have hLength : (items ++ [last]).length = items.length + 1 := List.length_append
  constructor
  · intro hAll
    exact ⟨fun i hi => (hEarlier i hi (by omega)).mp (hAll i (by omega)),
      (hLast (by omega)).mp (hAll items.length (by omega))⟩
  · rintro ⟨hItems, hItem⟩ i h
    obtain hi | rfl : i < items.length ∨ i = items.length := by omega
    · exact (hEarlier i hi h).mpr (hItems i hi)
    · exact (hLast h).mpr hItem

namespace Projection

/-- The fields of their own that sort keys need, with what they sort by. -/
def helpers (p : Projection) (g : Grouping) (index : Nat) :
    List SortKey → List (String × Expression)
  | [] => []
  | key :: rest =>
    match p.sortTarget g key.expression with
    | .helper _ =>
      ("_sort" ++ Text.Numeral.ofNat index, key.expression) :: helpers p g (index + 1) rest
    | _ => helpers p g (index + 1) rest

/-- A field is written with the projected operand of an expression. -/
def Writes (site : Site) (field : String × Expression) (spec : String × Value) : Prop :=
  spec.1 = field.1 ∧ ∃ o, site.compile field.2 = .ok o ∧ spec.2 = o.projected

/-- A field is written with what an expression sorts by, in lower case or not. -/
def WritesHelper (site : Site) (field : String × Expression) (spec : String × Value) : Prop :=
  spec.1 = field.1 ∧ ∃ v, sortValue site field.2 = .ok v ∧
    spec.2 = if field.2.sortsCaselessly then .single "$toLower" v else v

def outputs (columns : List (OutputColumn × String)) : List (String × Expression) :=
  columns.map fun column => (column.2, column.1.expression)

variable {site : Site} {p q : Projection}

theorem exists_of_addAll {columns : List (OutputColumn × String)}
    (h : p.addAll site columns = .ok q) :
    ∃ specs, List.Forall₂ (Writes site) (outputs columns) specs ∧
      q.stage = Fields.insertAll p.stage specs ∧
      q.fields = p.fields ++ columns.map (fun column => (column.1.expression.signature, column.2)) ∧
      q.names = p.names.insertAll (columns.map fun column => (column.2, ())) := by
  induction columns generalizing p with
  | nil =>
    cases h
    exact ⟨[], .nil, rfl, (List.append_nil _).symm, rfl⟩
  | cons column columns ih =>
    obtain ⟨o, name⟩ := column
    obtain ⟨first, hFirst, h⟩ := exists_of_bind_eq_ok h
    obtain ⟨operand, hOperand, hFirst⟩ := exists_of_bind_eq_ok hFirst
    cases hFirst
    obtain ⟨specs, hSpecs, hStage, hFields, hNames⟩ := ih h
    refine ⟨(name, operand.projected) :: specs, .cons ⟨rfl, operand, hOperand, rfl⟩ hSpecs, hStage,
      ?_, hNames⟩
    rw [hFields, List.append_assoc]
    rfl

def Offers (p : Projection) (name : String) : Prop :=
  name ∈ p.fields.map Prod.snd ∨ name ∈ p.names.keys

theorem offers_of_sortTarget {g : Grouping} {e : Expression} {name : String}
    (h : p.sortTarget g e = .field name) : p.Offers name := by
  unfold sortTarget at h
  dsimp only at h
  split at h
  · rename_i hFound
    cases h
    split at hFound
    · cases hFound
    · obtain ⟨before, after, hFields, _⟩ := List.lookup_eq_some_iff.mp hFound
      refine .inl (List.mem_map.mpr ⟨(e.signature, name), ?_, rfl⟩)
      rw [hFields]
      exact List.mem_append_right _ (.head _)
  · split at h
    · rename_i hNamed
      cases h
      unfold namedField? at hNamed
      split at hNamed
      · exact .inr (List.mem_of_find?_eq_some hNamed)
      · cases hNamed
    · split at h <;> cases h

theorem caseless_of_sortTarget {g : Grouping} {e : Expression} {caseless : Bool}
    (h : p.sortTarget g e = .helper caseless) : caseless = e.sortsCaselessly := by
  unfold sortTarget at h
  dsimp only at h
  split at h
  · cases h
  · split at h
    · cases h
    · split at h
      · cases h
        rfl
      · cases h

theorem exists_of_addSorts {s t : Sorting} {index : Nat} {keys : List SortKey}
    (h : p.addSorts site s index keys = .ok t) :
    ∃ specs, List.Forall₂ (WritesHelper site) (p.helpers site.grouping index keys) specs ∧
      t.stage = Fields.insertAll s.stage specs ∧
      ∀ name ∈ t.order.map Prod.fst,
        name ∈ s.order.map Prod.fst ∨ p.Offers name ∨ name ∈ specs.map Prod.fst := by
  induction keys generalizing s index with
  | nil =>
    cases h
    exact ⟨[], .nil, rfl, fun _ => .inl⟩
  | cons key keys ih =>
    rw [addSorts] at h
    cases hTarget : p.sortTarget site.grouping key.expression with
    | field name =>
      rw [hTarget] at h
      obtain ⟨specs, hSpecs, hStage, hOrder⟩ := ih h
      refine ⟨specs, ?_, hStage, fun other hOther => ?_⟩
      · rw [helpers, hTarget]
        exact hSpecs
      · obtain hOther | hOther := hOrder other hOther
        · obtain hOther | rfl := Fields.mem_names_insert.mp hOther
          · exact .inl hOther
          · exact .inr (.inl (offers_of_sortTarget hTarget))
        · exact .inr hOther
    | helper caseless =>
      rw [hTarget] at h
      obtain ⟨v, hv, h⟩ := exists_of_bind_eq_ok h
      obtain ⟨specs, hSpecs, hStage, hOrder⟩ := ih h
      refine ⟨("_sort" ++ Text.Numeral.ofNat index, if caseless then .single "$toLower" v else v) ::
        specs, ?_, hStage, fun other hOther => ?_⟩
      · rw [helpers, hTarget]
        exact .cons ⟨rfl, v, hv, by rw [caseless_of_sortTarget hTarget]⟩ hSpecs
      · obtain hOther | hOther | hOther := hOrder other hOther
        · obtain hOther | rfl := Fields.mem_names_insert.mp hOther
          · exact .inl hOther
          · exact .inr (.inr (.head _))
        · exact .inr (.inl hOther)
        · exact .inr (.inr (.tail _ hOther))
    | nothing =>
      rw [hTarget] at h
      obtain ⟨specs, hSpecs, hStage, hOrder⟩ := ih h
      refine ⟨specs, ?_, hStage, hOrder⟩
      rw [helpers, hTarget]
      exact hSpecs

/-- A stage that orders, keeps or counts documents by fields of the given names. -/
inductive Arranges (names : List String) : Stage → Prop where
  | sort {order : Document} (h : ∀ name ∈ order.map Prod.fst, name ∈ names) :
    Arranges names ⟨.sort, .document order⟩
  | keep {kept : List String} (h : ∀ name ∈ kept, name ∈ names) :
    Arranges names ⟨.project, .document
      (Fields.insertAll [("_id", .int32 0)] (kept.map (·, .int32 1)))⟩
  | skip (n : UInt64) : Arranges names ⟨.skip, pagingValue n⟩
  | limit (n : UInt64) : Arranges names ⟨.limit, pagingValue n⟩

/-- Since some stages, a plan has only been given stages that arrange documents. -/
def Arranged (names : List String) (stages : List Stage) (plan : Plan) : Prop :=
  ∃ tail, plan.stages = stages ++ tail ∧ ∀ stage ∈ tail, Arranges names stage

section

variable {names : List String} {stages : List Stage} {plan : Plan}

theorem Arranged.add (h : Arranged names stages plan) {kind : StageKind} {body : Value}
    (hStage : Arranges names ⟨kind, body⟩) : Arranged names stages (plan.add kind body) := by
  obtain ⟨tail, hTail, hAll⟩ := h
  unfold Plan.add
  split
  · exact ⟨tail, hTail, hAll⟩
  · refine ⟨tail ++ [⟨kind, body⟩], ?_, ?_⟩
    · rw [hTail, List.append_assoc]
    · rw [List.forall_mem_append]
      exact ⟨hAll, List.forall_mem_singleton.mpr hStage⟩

theorem Arranged.addPaging (h : Arranged names stages plan) {kind : StageKind}
    (hStage : ∀ n, Arranges names ⟨kind, pagingValue n⟩) (n? : Option UInt64) :
    Arranged names stages (plan.addPaging kind n?) := by
  cases n? with
  | none => exact h
  | some n =>
    rw [Plan.addPaging]
    split
    · exact h
    · exact h.add (hStage n)

end

end Projection

def Statement.outputs (s : Statement) : List (String × Expression) :=
  Projection.outputs (s.operands.zip (OutputColumn.fieldNames s.operands))

/-- What the sort keys of a statement choose from: the names of its fields and what they hold. -/
def Statement.outline (s : Statement) : Projection where
  stage := []
  fields := (s.operands.zip (OutputColumn.fieldNames s.operands)).map
    fun column => (column.1.expression.signature, column.2)
  names := .ofList ((s.operands.zip (OutputColumn.fieldNames s.operands)).map
    fun column => (column.2, ()))

def Statement.helpers (s : Statement) (g : Grouping) : List (String × Expression) :=
  s.outline.helpers g 0 s.sorts

/-! The names of projected fields hold none of the characters that mark paths. -/

section

variable {c : Char}

theorem ColumnName.not_mem_sanitize (hc : c = '.' ∨ c = '$') (name : String) :
    c ∉ (sanitize name).toList := by
  rw [sanitize, String.toList_ofList, List.mem_map]
  rintro ⟨d, _, hd⟩
  split at hd
  · subst hd
    simp at hc
  · rename_i hOther
    subst hd
    simp [hc] at hOther

theorem OutputColumn.not_mem_fieldNames (hc : c = '.' ∨ c = '$') {operands : List OutputColumn}
    {name : String} (h : name ∈ fieldNames operands) : c ∉ name.toList := by
  unfold fieldNames at h
  generalize 0 = index, CaselessMap.empty = used at h
  induction operands generalizing index used with
  | nil => cases h
  | cons o rest ih =>
    obtain rfl | h := List.mem_cons.mp h
    · exact ColumnName.not_mem_sanitize hc _
    · exact ih _ _ h

theorem Statement.not_mem_outputs (hc : c = '.' ∨ c = '$') {s : Statement} {name : String}
    (h : name ∈ s.outputs.map Prod.fst) : c ∉ name.toList := by
  obtain ⟨field, hField, rfl⟩ := List.mem_map.mp h
  obtain ⟨⟨o, name⟩, hColumn, rfl⟩ := List.mem_map.mp hField
  exact OutputColumn.not_mem_fieldNames hc (List.of_mem_zip hColumn).2

theorem Projection.exists_of_mem_helpers {p : Projection} {g : Grouping} {index : Nat}
    {keys : List SortKey} {field : String × Expression} (h : field ∈ p.helpers g index keys) :
    ∃ key ∈ keys, key.expression = field.2 := by
  induction keys generalizing index with
  | nil => cases h
  | cons key keys ih =>
    rw [helpers] at h
    rw [List.exists_mem_cons_iff]
    split at h
    · obtain rfl | h := List.mem_cons.mp h
      · exact .inl rfl
      · exact .inr (ih h)
    · exact .inr (ih h)

theorem Projection.not_mem_helpers (hc : c = '.' ∨ c = '$') {p : Projection} {g : Grouping}
    {index : Nat} {keys : List SortKey} {name : String}
    (h : name ∈ (p.helpers g index keys).map Prod.fst) : c ∉ name.toList := by
  induction keys generalizing index with
  | nil => cases h
  | cons key keys ih =>
    rw [helpers] at h
    split at h
    · obtain rfl | h := List.mem_cons.mp h
      · rw [String.toList_append, List.mem_append, not_or]
        obtain rfl | rfl := hc
        · exact ⟨by decide, Text.Numeral.not_mem_ofNat rfl index⟩
        · exact ⟨by decide, Text.Numeral.not_mem_ofNat rfl index⟩
      · exact ih h
    · exact ih h

theorem Statement.not_mem_projected (hc : c = '.' ∨ c = '$') {s : Statement} {g : Grouping}
    {name : String} (h : name ∈ (s.outputs ++ s.helpers g).map Prod.fst) : c ∉ name.toList := by
  rw [List.map_append] at h
  obtain h | h := List.mem_append.mp h
  · exact not_mem_outputs hc h
  · exact Projection.not_mem_helpers hc h

end

theorem Projection.sortTarget_congr {p q : Projection} (hFields : q.fields = p.fields)
    (hNames : q.names = p.names) (g : Grouping) : q.sortTarget g = p.sortTarget g := by
  funext e
  unfold sortTarget namedField?
  rw [hFields, hNames]

theorem Projection.helpers_congr {p q : Projection} (hFields : q.fields = p.fields)
    (hNames : q.names = p.names) (g : Grouping) (index : Nat) (keys : List SortKey) :
    q.helpers g index keys = p.helpers g index keys := by
  induction keys generalizing index with
  | nil => rfl
  | cons key keys ih => rw [helpers, helpers, sortTarget_congr hFields hNames, ih]

/-- The stages that a projection adds: the one that computes the fields, and those that only arrange
the documents. -/
theorem Planning.exists_of_project {p q : Planning} {site : Site} {s : Statement}
    (h : p.project site s (OutputColumn.fieldNames s.operands) = .ok q) :
    ∃ specs helperSpecs tail,
      List.Forall₂ (Projection.Writes site) s.outputs specs ∧
      List.Forall₂ (Projection.WritesHelper site) (s.helpers site.grouping) helperSpecs ∧
      q.plan.stages = p.plan.stages ++ ⟨.project, .document
        (Fields.insertAll [("_id", .int32 0)] (specs ++ helperSpecs))⟩ :: tail ∧
      ∀ stage ∈ tail, Projection.Arranges ((specs ++ helperSpecs).map Prod.fst) stage := by
  obtain ⟨projection, hProjection, h⟩ := exists_of_bind_eq_ok h
  obtain ⟨sorting, hSorting, h⟩ := exists_of_bind_eq_ok h
  obtain ⟨specs, hSpecs, hStage, hFields, hNames⟩ := Projection.exists_of_addAll hProjection
  obtain ⟨helperSpecs, hHelpers, hBody, hOrder⟩ := Projection.exists_of_addSorts hSorting
  have hOutline : projection.helpers site.grouping 0 s.sorts = s.helpers site.grouping :=
    Projection.helpers_congr hFields hNames _ _ _
  have hWritten : sorting.stage = Fields.insertAll [("_id", .int32 0)] (specs ++ helperSpecs) := by
    rw [hBody, hStage]
    exact (List.foldl_append ..).symm
  have hNonempty : sorting.stage ≠ [] := hWritten ▸ Fields.insertAll_ne_nil (List.cons_ne_nil _ _) _
  have hNamed : specs.map Prod.fst = s.outputs.map Prod.fst :=
    names_eq_of_forall₂ (fun _ _ h => h.1) hSpecs
  -- The names that are sorted by or kept are names of operands or of helpers.
  have hOffers : ∀ name, projection.Offers name → name ∈ (specs ++ helperSpecs).map Prod.fst := by
    intro name hName
    rw [List.map_append, hNamed]
    refine List.mem_append_left _ ?_
    obtain hName | hName := hName
    · rw [hFields] at hName
      simpa [Projection.empty, Statement.outputs, Projection.outputs] using hName
    · rw [hNames] at hName
      obtain hNone | hName := CaselessMap.keys_insertAll_subset _ _ hName
      · cases hNone
      · simpa [Statement.outputs, Projection.outputs] using hName
  have hSort : Projection.Arranges ((specs ++ helperSpecs).map Prod.fst)
      ⟨.sort, .document sorting.order⟩ := by
    refine .sort fun name hName => ?_
    obtain hNone | hName | hName := hOrder name hName
    · cases hNone
    · exact hOffers name hName
    · rw [List.map_append]
      exact List.mem_append_right _ hName
  have hKeep : Projection.Arranges ((specs ++ helperSpecs).map Prod.fst)
      ⟨.project, .document projection.final⟩ := .keep fun name hName => hOffers name (.inr hName)
  have hProjected : Projection.Arranged ((specs ++ helperSpecs).map Prod.fst)
      (p.plan.stages ++ [⟨.project, .document sorting.stage⟩])
      (p.plan.add .project (.document sorting.stage)) := by
    refine ⟨[], ?_, List.forall_mem_nil _⟩
    rw [List.append_nil, p.plan.stages_add _ hNonempty]
  have hTail : Projection.Arranged ((specs ++ helperSpecs).map Prod.fst)
      (p.plan.stages ++ [⟨.project, .document sorting.stage⟩]) q.plan := by
    cases h
    refine .addPaging (.addPaging ?_ .skip _) .limit _
    split
    · exact (hProjected.add hSort).add hKeep
    · exact hProjected.add hSort
  obtain ⟨tail, hStages, hAll⟩ := hTail
  refine ⟨specs, helperSpecs, tail, hSpecs, hOutline ▸ hHelpers, ?_, hAll⟩
  rw [hStages, hWritten, List.append_assoc]
  rfl

end RelPipe
