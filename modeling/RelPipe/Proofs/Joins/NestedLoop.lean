import RelPipe.Compile.Planning
import RelPipe.Pipeline.Catalog
import RelPipe.Proofs.CaselessMap
import RelPipe.Proofs.Document.Fields
import RelPipe.Proofs.Pipeline.Truth

/-!
The nested-loop join. A row is a document of the root with what the joins have attached to it; a
join goes through its collection in order and keeps the documents that satisfy its condition beside
the row. Reading a column from a row is reading it from the row written as one document.
-/

namespace RelPipe

set_option autoImplicit false

/-- Whether a comparison relates two values. Absent values are in no order. -/
def BinaryOp.relates (op : BinaryOp) (x y : Value) : Bool :=
  op.holds (x.compare y) && (!op.isInequality || (!x.isAbsent && !y.isAbsent))

mutual

/-- Whether a combination of comparisons between columns holds, given the values of the columns. -/
def Expression.holdsOf (value : ColumnRef → Value) : Expression → Bool
  | .binary op (.column a) (.column b) => op.relates (value a) (value b)
  | .group op es => op.holds (Expression.holdsOfEach value es)
  | _ => false
termination_by structural e => e

def Expression.holdsOfEach (value : ColumnRef → Value) : List Expression → List Bool
  | [] => []
  | e :: rest => e.holdsOf value :: Expression.holdsOfEach value rest
termination_by structural es => es

end

theorem Expression.holdsOfEach_eq_map (value : ColumnRef → Value) (es : List Expression) :
    Expression.holdsOfEach value es = es.map (·.holdsOf value) := by
  induction es with
  | nil => rfl
  | cons e es ih => rw [holdsOfEach, ih, List.map_cons]

/-- Combinations of comparisons between two columns, all of which are of one kind. -/
inductive Expression.ComparesColumns (known : ColumnRef → Prop) : Expression → Prop where
  | comparison {op : BinaryOp} (hop : op.isComparison = true) {a b : ColumnRef} (ha : known a)
    (hb : known b) : ComparesColumns known (.binary op (.column a) (.column b))
  | group {op : GroupOp} {es : List Expression} (h : ∀ e ∈ es, ComparesColumns known e) :
    ComparesColumns known (.group op es)

theorem Expression.ComparesColumns.holdsOf_congr {known : ColumnRef → Prop} {e : Expression}
    (h : e.ComparesColumns known) {value value' : ColumnRef → Value}
    (hValue : ∀ ref, known ref → value ref = value' ref) :
    e.holdsOf value = e.holdsOf value' := by
  induction h with
  | comparison _ ha hb => rw [holdsOf, holdsOf, hValue _ ha, hValue _ hb]
  | group _ ih =>
    rw [holdsOf, holdsOf, holdsOfEach_eq_map, holdsOfEach_eq_map, List.map_congr_left ih]

/-- A document of the root and what the joins have attached to it so far, each under its own name:
a document, or none. -/
structure JoinedRow where
  rootName : String
  root : Document
  joined : List (String × Option Document)

namespace JoinedRow

def ofRoot (rootName : String) (root : Document) : JoinedRow := ⟨rootName, root, []⟩

def attach (r : JoinedRow) (name : String) (found : Option Document) : JoinedRow :=
  { r with joined := r.joined ++ [(name, found)] }

def source? (r : JoinedRow) (qualifier : String) : Option Document :=
  if CaselessMap.sameName r.rootName qualifier then some r.root
  else (r.joined.find? fun e => CaselessMap.sameName e.1 qualifier).bind Prod.snd

/-- The value of a column, which is missing where its document is. -/
def value (r : JoinedRow) (ref : ColumnRef) : Value :=
  ((ref.qualifier.bind r.source?).bind (·.path? (ColumnName.normalize ref.name))).getD .undefined

/-- The documents of a join's collection that satisfy its condition beside a row, in order. -/
def matching (catalog : Pipeline.Catalog) (name : String) (node : JoinNode) (r : JoinedRow) :
    List Document :=
  (catalog.collection node.table).filter fun x =>
    node.condition.all (·.holdsOf (r.attach name (some x)).value)

/-- The rows that a join makes of one: one for each matching document. Without any, the row is
dropped or kept with nothing attached. -/
def join (catalog : Pipeline.Catalog) (name : String) (node : JoinNode) (r : JoinedRow) :
    List JoinedRow :=
  match r.matching catalog name node, node.kind with
  | [], .inner => []
  | [], .left => [r.attach name none]
  | found, _ => found.map fun x => r.attach name (some x)

/-- The rows that joins make of one, each join looping within those before it. -/
def nestedLoop (catalog : Pipeline.Catalog) : List (String × JoinNode) → JoinedRow → List JoinedRow
  | [], r => [r]
  | (name, node) :: rest, r => (r.join catalog name node).flatMap (nestedLoop catalog rest)

def write (d : Document) (e : String × Option Document) : Document :=
  match e.2 with
  | some x => Fields.insert d e.1 (.document x)
  | none => Fields.erase d e.1

def document (r : JoinedRow) : Document := r.joined.foldl write r.root

@[simp] theorem document_attach (r : JoinedRow) (name : String) (found : Option Document) :
    (r.attach name found).document = write r.document (name, found) := by
  simp [document, attach]

end JoinedRow

/-! The statements whose joins compare columns -/

/-- Joins with the names under which their documents are attached, given the number of stages before
them. Each join adds two. -/
def JoinNode.named (stageCount : Nat) : List JoinNode → List (String × JoinNode)
  | [] => []
  | node :: rest =>
    (JoinNode.fieldName node.table node.aliasName stageCount, node) :: named (stageCount + 2) rest

/-- A column that is compared: its qualifier is the root or one of the names, its path is not read
as a variable, and a column of the root is not hidden by what is attached. -/
structure ColumnRef.Readable (rootName : String) (names attached : List String) (ref : ColumnRef) :
    Prop where
  declared : ∃ qualifier, ref.qualifier = some qualifier ∧
    ∃ name ∈ rootName :: names, CaselessMap.sameName name qualifier = true
  path : Text.dollar (ColumnName.normalize ref.name) = false
  visible : ∀ qualifier, ref.qualifier = some qualifier →
    CaselessMap.sameName rootName qualifier = true →
    ∀ name ∈ attached, (pathSegments (ColumnName.normalize ref.name)).head? ≠ some name

/-- The columns of one alias in a condition do not differ in letter case only. -/
def Expression.SpellsAlike (e : Expression) : Prop :=
  ∀ ref ∈ e.outerColumns [], ∀ ref' ∈ e.outerColumns [],
    ref.qualifier.map Text.lower = ref'.qualifier.map Text.lower →
    foldName ref.name = foldName ref'.name →
    ColumnName.normalize ref.name = ColumnName.normalize ref'.name

instance (e : Expression) : Decidable e.SpellsAlike :=
  inferInstanceAs (Decidable (∀ ref ∈ e.outerColumns [], ∀ ref' ∈ e.outerColumns [], _ → _ → _))

namespace Statement

def rootName (s : Statement) : String := s.aliasName.getD ""

def namedJoins (s : Statement) : List (String × JoinNode) := JoinNode.named 0 s.joinNodes

def names (s : Statement) : List String := s.rootName :: s.namedJoins.map Prod.fst

/-- The joins of a statement are told apart by their names, and each condition compares columns of
the root, of joins before it and of its own. -/
structure JoinsByColumns (s : Statement) : Prop where
  apart : s.names.Pairwise fun a b => CaselessMap.sameName a b = false
  plain : ∀ join ∈ s.namedJoins, '.' ∉ join.1.toList ∧ Text.dollar join.1 = false
  compares : ∀ before join after, s.namedJoins = before ++ join :: after →
    ∀ e, join.2.condition = some e → e.ComparesColumns
      (ColumnRef.Readable s.rootName ((before ++ [join]).map Prod.fst)
        (s.namedJoins.map Prod.fst))
  spelling : ∀ join ∈ s.namedJoins, ∀ e, join.2.condition = some e → e.SpellsAlike

end Statement

/-! Reading a row -/

namespace JoinedRow

theorem get?_write_of_ne (d : Document) {e : String × Option Document} {name : String}
    (h : e.1 ≠ name) : Fields.get? (write d e) name = Fields.get? d name := by
  unfold write
  split
  · exact Fields.get?_insert_of_ne d h _
  · exact Fields.get?_erase_of_ne d h

theorem get?_write_self {d : Document} (h : Fields.Distinct d) (e : String × Option Document) :
    Fields.get? (write d e) e.1 = e.2.map .document := by
  unfold write
  split
  · rename_i x hFound
    rw [Fields.get?_insert_self, hFound, Option.map_some]
  · rename_i hFound
    rw [h.get?_erase_self, hFound, Option.map_none]

theorem distinct_write {d : Document} (h : Fields.Distinct d) (e : String × Option Document) :
    Fields.Distinct (write d e) := by
  unfold write
  split
  · exact h.insert _ _
  · exact h.erase _

theorem get?_foldl_write_of_not_mem (d : Document) {joined : List (String × Option Document)}
    {name : String} (h : name ∉ joined.map Prod.fst) :
    Fields.get? (joined.foldl write d) name = Fields.get? d name := by
  induction joined generalizing d with
  | nil => rfl
  | cons e joined ih =>
    rw [List.map_cons, List.mem_cons, not_or] at h
    rw [List.foldl_cons, ih _ h.2, get?_write_of_ne d (Ne.symm h.1)]

theorem get?_foldl_write_of_mem {d : Document} (hd : Fields.Distinct d)
    {joined : List (String × Option Document)} (hNames : (joined.map Prod.fst).Nodup)
    {e : String × Option Document} (he : e ∈ joined) :
    Fields.get? (joined.foldl write d) e.1 = e.2.map .document := by
  induction joined generalizing d with
  | nil => cases he
  | cons first joined ih =>
    obtain ⟨hFirst, hRest⟩ := List.nodup_cons.mp hNames
    rw [List.foldl_cons]
    cases he with
    | head => rw [get?_foldl_write_of_not_mem _ hFirst, get?_write_self hd]
    | tail _ he => exact ih (distinct_write hd first) hRest he

/-- A row of the named joins: its names are told apart without regard to letter case, and its root
has no field twice. -/
structure Fits (r : JoinedRow) (rootName : String) (names : List String) : Prop where
  rootName_eq : r.rootName = rootName
  names_eq : r.joined.map Prod.fst = names
  apart : (rootName :: names).Pairwise fun a b => CaselessMap.sameName a b = false
  distinct : Fields.Distinct r.root

theorem Fits.attach {r : JoinedRow} {rootName : String} {names : List String}
    (h : r.Fits rootName names) {name : String} (found : Option Document)
    (hApart : (rootName :: (names ++ [name])).Pairwise fun a b => CaselessMap.sameName a b = false) :
    (r.attach name found).Fits rootName (names ++ [name]) where
  rootName_eq := h.rootName_eq
  names_eq := by simp [JoinedRow.attach, h.names_eq]
  apart := hApart
  distinct := h.distinct

theorem source?_congr (r : JoinedRow) {a b : String} (h : Text.lower a = Text.lower b) :
    r.source? a = r.source? b := by
  unfold source?
  simp only [CaselessMap.sameName_congr_right h]

section

variable {r : JoinedRow} {rootName : String} {names : List String}

theorem Fits.nodup (h : r.Fits rootName names) : (r.joined.map Prod.fst).Nodup := by
  rw [h.names_eq]
  refine (List.pairwise_cons.mp h.apart).2.imp ?_
  rintro a _ hApart rfl
  rw [CaselessMap.sameName_self] at hApart
  cases hApart

theorem Fits.source?_root (h : r.Fits rootName names) {qualifier : String}
    (hSame : CaselessMap.sameName rootName qualifier = true) :
    r.source? qualifier = some r.root := by
  rw [source?, h.rootName_eq, if_pos hSame]

theorem Fits.source?_of_mem (h : r.Fits rootName names) {e : String × Option Document}
    (he : e ∈ r.joined) {qualifier : String}
    (hSame : CaselessMap.sameName e.1 qualifier = true) : r.source? qualifier = e.2 := by
  have hOther : ∀ {a : String}, CaselessMap.sameName a e.1 = false →
      CaselessMap.sameName a qualifier = false := by
    intro a ha
    rwa [← CaselessMap.sameName_congr_right (CaselessMap.sameName_iff.mp hSame)]
  obtain ⟨hRoot, hNames⟩ := List.pairwise_cons.mp h.apart
  rw [← h.names_eq] at hRoot hNames
  have hFirst : CaselessMap.sameName r.rootName qualifier = false := by
    rw [h.rootName_eq]
    exact hOther (hRoot e.1 (List.mem_map_of_mem he))
  obtain ⟨before, after, hSplit⟩ := List.append_of_mem he
  rw [source?, if_neg (by rw [hFirst]; decide), hSplit, List.find?_append]
  have hBefore : before.find? (fun e => CaselessMap.sameName e.1 qualifier) = none := by
    rw [List.find?_eq_none]
    intro e' he'
    rw [hSplit, List.map_append, List.pairwise_append] at hNames
    rw [hOther (hNames.2.2 e'.1 (List.mem_map_of_mem he') e.1 (List.mem_cons_self ..))]
    decide
  rw [hBefore, Option.none_or, List.find?_cons_of_pos (by exact hSame)]
  rfl

theorem Fits.get?_document_of_not_mem (h : r.Fits rootName names) {name : String}
    (hName : name ∉ names) : Fields.get? r.document name = Fields.get? r.root name :=
  get?_foldl_write_of_not_mem r.root (by rwa [h.names_eq])

theorem Fits.get?_document_of_mem (h : r.Fits rootName names) {e : String × Option Document}
    (he : e ∈ r.joined) : Fields.get? r.document e.1 = e.2.map .document :=
  get?_foldl_write_of_mem h.distinct h.nodup he

theorem Fits.exists_mem (h : r.Fits rootName names) {name : String} (hName : name ∈ names) :
    ∃ found, (name, found) ∈ r.joined := by
  rw [← h.names_eq] at hName
  obtain ⟨⟨_, found⟩, hMem, rfl⟩ := List.mem_map.mp hName
  exact ⟨found, hMem⟩

theorem Fits.source?_attach (h : r.Fits rootName names) {name : String} (found : Option Document)
    (hApart : (rootName :: (names ++ [name])).Pairwise fun a b => CaselessMap.sameName a b = false)
    {other qualifier : String} (hOther : other ∈ rootName :: names)
    (hSame : CaselessMap.sameName other qualifier = true) :
    (r.attach name found).source? qualifier = r.source? qualifier := by
  have hAttached := h.attach found hApart
  obtain rfl | hOther := List.mem_cons.mp hOther
  · rw [hAttached.source?_root hSame, h.source?_root hSame]
    rfl
  · obtain ⟨x, hMem⟩ := h.exists_mem hOther
    rw [hAttached.source?_of_mem (List.mem_append_left _ hMem) hSame, h.source?_of_mem hMem hSame]

end

end JoinedRow

end RelPipe
