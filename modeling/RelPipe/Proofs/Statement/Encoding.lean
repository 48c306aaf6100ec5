import RelPipe.Statement.Decode
import RelPipe.Statement.Encode
import RelPipe.Proofs.Calendar.Rfc3339
import RelPipe.Proofs.Json.Decode
import RelPipe.Proofs.Uuid

/-!
Statements are read back from the JSON values that they are written as, and no statement is read
from such a value when its deepest parts are cut off.
-/

namespace RelPipe

set_option autoImplicit false

open Json

/-! Names -/

theorem UnaryOp.ofName?_name (op : UnaryOp) : ofName? op.name = some op :=
  find?_name (by decide) (by cases op <;> decide)

theorem BinaryOp.ofName?_name (op : BinaryOp) : ofName? op.name = some op :=
  find?_name (by decide) (by cases op <;> decide)

theorem GroupOp.ofName?_name (op : GroupOp) : ofName? op.name = some op :=
  find?_name (by decide) (by cases op <;> decide)

theorem JoinKind.ofName?_name (kind : JoinKind) : ofName? kind.name = some kind :=
  find?_name (by decide) (by cases kind <;> decide)

theorem SortDirection.ofName?_name (direction : SortDirection) :
    ofName? direction.name = some direction :=
  find?_name (by decide) (by cases direction <;> decide)

theorem ColumnType.ofName?_name (type : ColumnType) : ofName? type.name = some type :=
  find?_name (by decide) (by cases type <;> decide)

theorem StandardFunction.ofExactName?_name (f : StandardFunction) :
    ofExactName? f.name = some f :=
  find?_name (by decide +kernel) f.mem_all

theorem Function.toJson_isExact (f : Function) : f.toJson.isExact = true := by cases f <;> rfl

theorem Function.ofJson?_toJson (f : Function) : Function.ofJson? f.toJson = some f := by
  cases f with
  | standard f =>
    change (StandardFunction.ofExactName? f.name).map Function.standard = _
    rw [StandardFunction.ofExactName?_name]
    rfl
  | custom tag => rfl

theorem Function.ofJson?_within (f : Function) {limit : Nat} (h : limit < f.toJson.depth) :
    Function.ofJson? (f.toJson.within limit) = none := by
  cases f with
  | standard => cases h
  | custom =>
    obtain rfl : limit = 0 := Nat.lt_one_iff.mp h
    rfl

theorem AggregateKind.toJson_isExact (kind : AggregateKind) : kind.toJson.isExact = true := by
  cases kind <;> rfl

theorem AggregateKind.ofJson?_toJson (kind : AggregateKind) :
    AggregateKind.ofJson? kind.toJson = some kind := by
  cases kind <;> rfl

theorem AggregateKind.ofJson?_within (kind : AggregateKind) {limit : Nat}
    (h : limit < kind.toJson.depth) : AggregateKind.ofJson? (kind.toJson.within limit) = none := by
  cases kind with
  | custom =>
    obtain rfl : limit = 0 := Nat.lt_one_iff.mp h
    rfl
  | _ => cases h

/-! Constants and columns -/

theorem tagged_isExact (name : String) (content : Json) :
    (tagged name content).isExact = content.isExact := Bool.and_true _

theorem ofOption_isExact (s : Option String) : (ofOption s).isExact = true := by cases s <;> rfl

theorem nullable?_ofOption (s : Option String) : nullable? string? (ofOption s) = some s := by
  cases s <;> rfl

@[simp] theorem depth_ofOption (s : Option String) : (ofOption s).depth = 0 := by cases s <;> rfl

theorem ColumnRef.ofJson?_toJson (c : ColumnRef) : ColumnRef.ofJson? c.toJson = some c := by
  obtain ⟨qualifier, name, columnType⟩ := c
  change (nullable? string? (ofOption qualifier)).bind (fun qualifier =>
    (ColumnType.ofName? columnType.name).bind fun columnType =>
      some (ColumnRef.mk qualifier name columnType)) = _
  rw [nullable?_ofOption, ColumnType.ofName?_name]
  rfl

theorem ColumnRef.toJson_isExact (c : ColumnRef) : c.toJson.isExact = true := by
  simp [ColumnRef.toJson, isExact, membersAreExact, ofOption_isExact]

theorem ColumnRef.ofJson?_within (c : ColumnRef) {limit : Nat} (h : limit < c.toJson.depth) :
    ColumnRef.ofJson? (c.toJson.within limit) = none := by
  obtain rfl : limit = 0 := by
    simp only [ColumnRef.toJson, depth, depthOfMembers, depth_ofOption] at h
    omega
  rfl

@[simp] theorem depth_countJson (n : Option UInt64) : (countJson n).depth = 0 := by cases n <;> rfl

theorem countJson_isExact (n : Option UInt64) : (countJson n).isExact = true := by
  cases n with
  | none => rfl
  | some n =>
    have hRange := n.toNat_lt
    exact integer_isExact (by omega)

theorem nullable?_countJson (n : Option UInt64) : nullable? count? (countJson n) = some n := by
  cases n with
  | none => rfl
  | some n =>
    have hRange := n.toNat_lt
    have hCount : count? (.integer n.toNat) = some n := by
      rw [count?, integerIn?_integer (by omega), Option.map_some, Int.toNat_natCast,
        UInt64.ofNat_toNat]
    change (count? (.integer n.toNat)).map some = _
    rw [hCount]
    rfl

namespace Constant

/-- Whether a constant is written exactly: floating-point numbers are not, and instants are only
written in the years from 0 to 9999. -/
def IsExact : Constant → Prop
  | .double _ => False
  | .dateTime millis =>
    0 ≤ Calendar.Rfc3339.yearOfMillis millis.toInt ∧
      Calendar.Rfc3339.yearOfMillis millis.toInt ≤ 9999
  | _ => True

instance : (c : Constant) → Decidable c.IsExact
  | .double _ => inferInstanceAs (Decidable False)
  | .dateTime _ => inferInstanceAs (Decidable (_ ∧ _))
  | .null | .boolean _ | .int32 _ | .int64 _ | .decimal _ | .string _ | .guid _ | .bytes _ =>
    inferInstanceAs (Decidable True)

theorem ofJson?_int32 (n : Int32) :
    Constant.ofJson? (tagged "Int32" (.integer n.toInt)) = some (int32 n) := by
  have hLow := n.le_toInt
  have hHigh := n.toInt_lt
  have hRead : integerIn? (-0x80000000) 0x7fffffff (.integer n.toInt) = some n.toInt :=
    integerIn?_integer (by omega)
  change (integerIn? (-0x80000000) 0x7fffffff (.integer n.toInt)).map
    (fun n => int32 (.ofInt n)) = _
  rw [hRead, Option.map_some, Int32.ofInt_toInt]

theorem ofJson?_int64 (n : Int64) :
    Constant.ofJson? (tagged "Int64" (.integer n.toInt)) = some (int64 n) := by
  have hLow := n.le_toInt
  have hHigh := n.toInt_lt
  have hRead : integerIn? (-0x8000000000000000) 0x7fffffffffffffff (.integer n.toInt) =
      some n.toInt := integerIn?_integer (by omega)
  change (integerIn? (-0x8000000000000000) 0x7fffffffffffffff (.integer n.toInt)).map
    (fun n => int64 (.ofInt n)) = _
  rw [hRead, Option.map_some, Int64.ofInt_toInt]

theorem ofJson?_dateTime (s : String) :
    Constant.ofJson? (tagged "DateTime" (.string s)) =
      (Calendar.Rfc3339.millis? s.toList).bind fun millis => some (dateTime (.ofInt millis)) := rfl

theorem ofJson?_guid (s : String) :
    Constant.ofJson? (tagged "Guid" (.string s)) =
      (Uuid.ofText? s.toList).bind fun id => some (guid id) := rfl

theorem ofJson?_bytes (content : List UInt8) :
    Constant.ofJson? (tagged "Bytes" (.array (content.map fun b => .integer b.toNat))) =
      some (bytes content) := by
  have hRead : (content.map fun b => Json.integer b.toNat).mapM
      (fun j => (j.integerIn? 0 255).map fun n => UInt8.ofNat n.toNat) = some content := by
    refine mapM_of_forall fun b _ => ?_
    have hRange := b.toNat_lt
    rw [integerIn?_integer (by omega), Option.map_some, Int.toNat_natCast, UInt8.ofNat_toNat]
  exact congrArg (Option.map bytes) hRead

theorem bytes_areExact (content : List UInt8) :
    areExact (content.map fun b => .integer b.toNat) = true := by
  refine areExact_of_forall fun j hj => ?_
  obtain ⟨b, -, rfl⟩ := List.mem_map.mp hj
  have hRange := b.toNat_lt
  exact integer_isExact (by omega)

theorem depth_bytes (content : List UInt8) :
    depthOfItems (content.map fun b => .integer b.toNat) = 0 := by
  induction content with
  | nil => rfl
  | cons b content ih =>
    rw [List.map_cons, depthOfItems, ih]
    rfl

theorem ofJson?_within {c : Constant} {j : Json} (hWritten : c.toJson? = some j) {limit : Nat}
    (h : limit < j.depth) : Constant.ofJson? (j.within limit) = none := by
  cases c with
  | null =>
    cases hWritten
    cases h
  | dateTime millis =>
    obtain ⟨s, -, rfl⟩ := Option.map_eq_some_iff.mp hWritten
    obtain rfl : limit = 0 := Nat.lt_one_iff.mp h
    rfl
  | bytes content =>
    cases hWritten
    rw [tagged, depth, depthOfMembers, depthOfMembers, depth, depth_bytes] at h
    obtain rfl | rfl : limit = 0 ∨ limit = 1 := by omega
    · rfl
    · rfl
  | _ =>
    cases hWritten
    obtain rfl : limit = 0 := Nat.lt_one_iff.mp h
    rfl

theorem exists_toJson? {c : Constant} (h : c.IsExact) :
    ∃ j, c.toJson? = some j ∧ j.isExact = true ∧ Constant.ofJson? j = some c := by
  cases c with
  | null => exact ⟨_, rfl, rfl, rfl⟩
  | boolean b => exact ⟨_, rfl, rfl, rfl⟩
  | int32 n =>
    have hLow := n.le_toInt
    have hHigh := n.toInt_lt
    have hExact : (Json.integer n.toInt).isExact = true := integer_isExact (by omega)
    exact ⟨_, rfl, (tagged_isExact _ _).trans hExact, ofJson?_int32 n⟩
  | int64 n =>
    have hLow := n.le_toInt
    have hHigh := n.toInt_lt
    have hExact : (Json.integer n.toInt).isExact = true := integer_isExact (by omega)
    exact ⟨_, rfl, (tagged_isExact _ _).trans hExact, ofJson?_int64 n⟩
  | double x => exact h.elim
  | decimal s => exact ⟨_, rfl, rfl, rfl⟩
  | string s => exact ⟨_, rfl, rfl, rfl⟩
  | dateTime millis =>
    obtain ⟨s, hText, hRead⟩ := Calendar.Rfc3339.exists_ofMillis? h.1 h.2
    refine ⟨tagged "DateTime" (.string s), ?_, rfl, ?_⟩
    · rw [Constant.toJson?, hText]
      rfl
    · rw [ofJson?_dateTime, hRead, Option.bind_some, Int64.ofInt_toInt]
  | guid id =>
    refine ⟨tagged "Guid" (.string id.text), rfl, rfl, ?_⟩
    rw [ofJson?_guid, Uuid.ofText?_text]
    rfl
  | bytes content =>
    exact ⟨_, rfl, (tagged_isExact _ _).trans (bytes_areExact content), ofJson?_bytes content⟩

example : (dateTime (-1)).toJson? =
    some (tagged "DateTime" (.string "1969-12-31T23:59:59.999Z")) := by rfl

end Constant

/-! Expressions -/

namespace Expression

variable {e left right test low high : Expression} {es : List Expression} {written : Option Json}

/-- What is written as an alternative of its own is read back if its content is. -/
theorem roundTrips_tagged (name : String) (content : Json)
    (hWritten : written = some (tagged name content)) (hExact : content.isExact = true)
    (hValue : ∀ fuel, content.depth < fuel → decode? (fuel + 1) (tagged name content) = some e)
    (hRefused : ∀ limit fuel, limit < content.depth →
      decode? (fuel + 1) (tagged name (content.within limit)) = none) :
    RoundTrips written decode? e := by
  have hDepth : depthOfMembers [(name, content)] = content.depth := Nat.max_zero _
  refine ⟨[(name, content)], hWritten, (tagged_isExact name content).trans hExact,
    .of_members (fun _ => rfl) (fun _ => rfl) ?_ ?_⟩
  · intro fuel hFuel
    exact hValue fuel (hDepth ▸ hFuel)
  · intro limit fuel hLimit
    exact hRefused limit fuel (hDepth ▸ hLimit)

/-- What is written as an alternative with named parts is read back if its parts are. -/
theorem roundTrips_record (name : String) (members : List (String × Json))
    (hWritten : written = some (tagged name (.object members)))
    (hExact : membersAreExact members = true)
    (hUnreadable : ∀ fuel, decode? (fuel + 1) (tagged name .unreadable) = none)
    (hValue : ∀ fuel, depthOfMembers members < fuel →
      decode? (fuel + 1) (tagged name (.object members)) = some e)
    (hRefused : ∀ limit fuel, limit < depthOfMembers members →
      decode? (fuel + 1) (tagged name (.object (membersWithin members limit))) = none) :
    RoundTrips written decode? e := by
  refine roundTrips_tagged name (.object members) hWritten hExact ?_ ?_
  · intro fuel hFuel
    exact hValue fuel (Nat.lt_of_succ_lt hFuel)
  · intro limit fuel hLimit
    cases limit with
    | zero => exact hUnreadable fuel
    | succ limit => exact hRefused limit fuel (Nat.lt_of_succ_lt_succ hLimit)

theorem roundTrips_column (c : ColumnRef) : RoundTrips (column c).toJson? decode? (column c) := by
  refine roundTrips_tagged "Column" c.toJson rfl c.toJson_isExact (fun fuel _ => ?_) ?_
  · change (ColumnRef.ofJson? c.toJson).map column = _
    rw [ColumnRef.ofJson?_toJson]
    rfl
  · intro limit fuel hLimit
    exact congrArg (Option.map column) (c.ofJson?_within hLimit)

theorem roundTrips_property (name : String) :
    RoundTrips (property name).toJson? decode? (property name) :=
  roundTrips_tagged "Property" (.string name) rfl rfl (fun _ _ => rfl) fun _ _ hLimit =>
    absurd hLimit (Nat.not_lt_zero _)

theorem roundTrips_constant {c : Constant} (h : c.IsExact) :
    RoundTrips (constant c).toJson? decode? (constant c) := by
  obtain ⟨j, hWritten, hExact, hRead⟩ := Constant.exists_toJson? h
  refine roundTrips_tagged "Constant" j ?_ hExact (fun fuel _ => ?_) ?_
  · change c.toJson?.map (tagged "Constant") = _
    rw [hWritten]
    rfl
  · change (Constant.ofJson? j).map constant = _
    rw [hRead]
    rfl
  · intro limit fuel hLimit
    exact congrArg (Option.map constant) (Constant.ofJson?_within hWritten hLimit)

theorem roundTrips_unary (op : UnaryOp) (h : RoundTrips e.toJson? decode? e) :
    RoundTrips (unary op e).toJson? decode? (unary op e) := by
  obtain ⟨members, hWritten, hExact, hReads⟩ := h
  refine roundTrips_record "Unary" [("op", .string op.name), ("operand", .object members)] ?_ ?_
    (fun _ => rfl) (fun fuel hFuel => ?_) fun limit fuel hLimit => ?_
  · change e.toJson?.bind (fun j => some (tagged "Unary"
      (.object [("op", .string op.name), ("operand", j)]))) = _
    rw [hWritten]
    rfl
  · simp [isExact, membersAreExact, hExact]
  · simp only [depthOfMembers] at hFuel
    change (UnaryOp.ofName? op.name).bind (fun op =>
      (decode? fuel (.object members)).bind fun e => some (unary op e)) = _
    rw [UnaryOp.ofName?_name, hReads.value fuel (by omega)]
    rfl
  · simp only [depthOfMembers, depth_string] at hLimit
    change (UnaryOp.ofName? op.name).bind (fun op =>
      (decode? fuel ((Json.object members).within limit)).bind fun e => some (unary op e)) = _
    rw [UnaryOp.ofName?_name, hReads.refused limit fuel (by omega)]
    rfl

theorem roundTrips_binary (op : BinaryOp) (hLeft : RoundTrips left.toJson? decode? left)
    (hRight : RoundTrips right.toJson? decode? right) :
    RoundTrips (binary op left right).toJson? decode? (binary op left right) := by
  obtain ⟨l, hWrittenLeft, hExactLeft, hLeft⟩ := hLeft
  obtain ⟨r, hWrittenRight, hExactRight, hRight⟩ := hRight
  refine roundTrips_record "Binary"
    [("op", .string op.name), ("left", .object l), ("right", .object r)] ?_ ?_
    (fun _ => rfl) (fun fuel hFuel => ?_) fun limit fuel hLimit => ?_
  · change left.toJson?.bind (fun l => right.toJson?.bind fun r => some (tagged "Binary"
      (.object [("op", .string op.name), ("left", l), ("right", r)]))) = _
    rw [hWrittenLeft, hWrittenRight]
    rfl
  · simp [isExact, membersAreExact, hExactLeft, hExactRight]
  · simp only [depthOfMembers] at hFuel
    change (BinaryOp.ofName? op.name).bind (fun op => (decode? fuel (.object l)).bind fun left =>
      (decode? fuel (.object r)).bind fun right => some (binary op left right)) = _
    rw [BinaryOp.ofName?_name, hLeft.value fuel (by omega), hRight.value fuel (by omega)]
    rfl
  · simp only [depthOfMembers, depth_string] at hLimit
    change (BinaryOp.ofName? op.name).bind (fun op =>
      (decode? fuel ((Json.object l).within limit)).bind fun left =>
        (decode? fuel ((Json.object r).within limit)).bind fun right =>
          some (binary op left right)) = _
    obtain h | h : limit < (Json.object l).depth ∨ limit < (Json.object r).depth := by omega
    · simp [hLeft.refused limit fuel h]
    · simp [hRight.refused limit fuel h]

theorem roundTrips_between (hTest : RoundTrips test.toJson? decode? test)
    (hLow : RoundTrips low.toJson? decode? low) (hHigh : RoundTrips high.toJson? decode? high) :
    RoundTrips (between test low high).toJson? decode? (between test low high) := by
  obtain ⟨t, hWrittenTest, hExactTest, hTest⟩ := hTest
  obtain ⟨l, hWrittenLow, hExactLow, hLow⟩ := hLow
  obtain ⟨h, hWrittenHigh, hExactHigh, hHigh⟩ := hHigh
  refine roundTrips_record "Between"
    [("test", .object t), ("begin", .object l), ("end", .object h)] ?_ ?_
    (fun _ => rfl) (fun fuel hFuel => ?_) fun limit fuel hLimit => ?_
  · change test.toJson?.bind (fun t => low.toJson?.bind fun l => high.toJson?.bind fun h =>
      some (tagged "Between" (.object [("test", t), ("begin", l), ("end", h)]))) = _
    rw [hWrittenTest, hWrittenLow, hWrittenHigh]
    rfl
  · simp [isExact, membersAreExact, hExactTest, hExactLow, hExactHigh]
  · simp only [depthOfMembers] at hFuel
    change (decode? fuel (.object t)).bind (fun test => (decode? fuel (.object l)).bind fun low =>
      (decode? fuel (.object h)).bind fun high => some (between test low high)) = _
    rw [hTest.value fuel (by omega), hLow.value fuel (by omega), hHigh.value fuel (by omega)]
    rfl
  · simp only [depthOfMembers] at hLimit
    change (decode? fuel ((Json.object t).within limit)).bind (fun test =>
      (decode? fuel ((Json.object l).within limit)).bind fun low =>
        (decode? fuel ((Json.object h).within limit)).bind fun high =>
          some (between test low high)) = _
    obtain hDeep | hDeep | hDeep : limit < (Json.object t).depth ∨ limit < (Json.object l).depth ∨
      limit < (Json.object h).depth := by omega
    · simp [hTest.refused limit fuel hDeep]
    · simp [hLow.refused limit fuel hDeep]
    · simp [hHigh.refused limit fuel hDeep]

theorem roundTrips_member (hLeft : RoundTrips left.toJson? decode? left)
    (hCandidates : RoundTripAll (allToJson? es) decode? es) :
    RoundTrips (member left es).toJson? decode? (member left es) := by
  obtain ⟨l, hWrittenLeft, hExactLeft, hLeft⟩ := hLeft
  obtain ⟨items, hWritten, hExact, hItems⟩ := hCandidates
  refine roundTrips_record "In" [("left", .object l), ("candidates", .array items)] ?_ ?_
    (fun _ => rfl) (fun fuel hFuel => ?_) fun limit fuel hLimit => ?_
  · change left.toJson?.bind (fun l => (allToJson? es).bind fun items =>
      some (tagged "In" (.object [("left", l), ("candidates", .array items)]))) = _
    rw [hWrittenLeft, hWritten]
    rfl
  · simp [isExact, membersAreExact, hExactLeft, hExact]
  · simp only [depthOfMembers] at hFuel
    change (decode? fuel (.object l)).bind (fun left =>
      (list? (decode? fuel) (.array items)).bind fun es => some (member left es)) = _
    rw [hLeft.value fuel (by omega), hItems.value fuel (by omega)]
    rfl
  · simp only [depthOfMembers] at hLimit
    change (decode? fuel ((Json.object l).within limit)).bind (fun left =>
      (list? (decode? fuel) ((Json.array items).within limit)).bind fun es =>
        some (member left es)) = _
    obtain h | h : limit < (Json.object l).depth ∨ limit < (Json.array items).depth := by omega
    · simp [hLeft.refused limit fuel h]
    · simp [hItems.refused limit fuel h]

theorem roundTrips_group (op : GroupOp) (h : RoundTripAll (allToJson? es) decode? es) :
    RoundTrips (group op es).toJson? decode? (group op es) := by
  obtain ⟨items, hWritten, hExact, hItems⟩ := h
  refine roundTrips_record "Group" [("op", .string op.name), ("operands", .array items)] ?_ ?_
    (fun _ => rfl) (fun fuel hFuel => ?_) fun limit fuel hLimit => ?_
  · change (allToJson? es).bind (fun items => some (tagged "Group"
      (.object [("op", .string op.name), ("operands", .array items)]))) = _
    rw [hWritten]
    rfl
  · simp [isExact, membersAreExact, hExact]
  · simp only [depthOfMembers] at hFuel
    change (GroupOp.ofName? op.name).bind (fun op =>
      (list? (decode? fuel) (.array items)).bind fun es => some (group op es)) = _
    rw [GroupOp.ofName?_name, hItems.value fuel (by omega)]
    rfl
  · simp only [depthOfMembers, depth_string] at hLimit
    change (GroupOp.ofName? op.name).bind (fun op =>
      (list? (decode? fuel) ((Json.array items).within limit)).bind fun es =>
        some (group op es)) = _
    rw [GroupOp.ofName?_name, hItems.refused limit fuel (by omega)]
    rfl

theorem roundTrips_call (f : Function) (h : RoundTripAll (allToJson? es) decode? es) :
    RoundTrips (call f es).toJson? decode? (call f es) := by
  obtain ⟨items, hWritten, hExact, hItems⟩ := h
  refine roundTrips_record "Function" [("function", f.toJson), ("arguments", .array items)] ?_ ?_
    (fun _ => rfl) (fun fuel hFuel => ?_) fun limit fuel hLimit => ?_
  · change (allToJson? es).bind (fun items => some (tagged "Function"
      (.object [("function", f.toJson), ("arguments", .array items)]))) = _
    rw [hWritten]
    rfl
  · simp [isExact, membersAreExact, f.toJson_isExact, hExact]
  · simp only [depthOfMembers] at hFuel
    change (Function.ofJson? f.toJson).bind (fun f =>
      (list? (decode? fuel) (.array items)).bind fun es => some (call f es)) = _
    rw [Function.ofJson?_toJson, hItems.value fuel (by omega)]
    rfl
  · simp only [depthOfMembers] at hLimit
    change (Function.ofJson? (f.toJson.within limit)).bind (fun f =>
      (list? (decode? fuel) ((Json.array items).within limit)).bind fun es =>
        some (call f es)) = _
    obtain h | h : limit < f.toJson.depth ∨ limit < (Json.array items).depth := by omega
    · simp [f.ofJson?_within h]
    · simp [hItems.refused limit fuel h]

theorem roundTrips_aggregate {kind : AggregateKind} {target : Option Expression}
    {statement : Option Statement}
    (hTarget : OptionRoundTrips (optionToJson? target) decode? target)
    (hStatement :
      OptionRoundTrips (Statement.optionToJson? statement) Statement.decode? statement) :
    RoundTrips (aggregate ⟨kind, target, statement⟩).toJson? decode?
      (aggregate ⟨kind, target, statement⟩) := by
  obtain ⟨t, hWrittenTarget, hExactTarget, hTarget⟩ := hTarget
  obtain ⟨s, hWritten, hExact, hStatement⟩ := hStatement
  refine roundTrips_record "Aggregate"
    [("kind", kind.toJson), ("target", t), ("statement", s)] ?_ ?_
    (fun _ => rfl) (fun fuel hFuel => ?_) fun limit fuel hLimit => ?_
  · change ((optionToJson? target).bind fun t =>
      (Statement.optionToJson? statement).bind fun s => some (Json.object
        [("kind", kind.toJson), ("target", t), ("statement", s)])).map (tagged "Aggregate") = _
    rw [hWrittenTarget, hWritten]
    rfl
  · simp [membersAreExact, kind.toJson_isExact, hExactTarget, hExact]
  · simp only [depthOfMembers] at hFuel
    change (AggregateKind.ofJson? kind.toJson).bind (fun kind =>
      (nullable? (decode? fuel) t).bind fun target =>
        (nullable? (Statement.decode? fuel) s).bind fun statement =>
          some (aggregate ⟨kind, target, statement⟩)) = _
    rw [AggregateKind.ofJson?_toJson, hTarget.value fuel (by omega),
      hStatement.value fuel (by omega)]
    rfl
  · simp only [depthOfMembers] at hLimit
    change (AggregateKind.ofJson? (kind.toJson.within limit)).bind (fun kind =>
      (nullable? (decode? fuel) (t.within limit)).bind fun target =>
        (nullable? (Statement.decode? fuel) (s.within limit)).bind fun statement =>
          some (aggregate ⟨kind, target, statement⟩)) = _
    obtain h | h | h : limit < kind.toJson.depth ∨ limit < t.depth ∨ limit < s.depth := by omega
    · simp [kind.ofJson?_within h]
    · simp [hTarget.refused limit fuel h]
    · simp [hStatement.refused limit fuel h]

end Expression

/-! Records -/

theorem OutputColumn.roundTrips_of_expression {e : Expression} (aliasName : Option String)
    (h : RoundTrips e.toJson? Expression.decode? e) :
    RoundTrips (OutputColumn.mk e aliasName).toJson? OutputColumn.decode? ⟨e, aliasName⟩ := by
  obtain ⟨members, hWritten, hExact, hReads⟩ := h
  refine ⟨[("expression", .object members), ("alias", ofOption aliasName)], ?_, ?_,
    .of_members (fun _ => rfl) (fun _ => rfl) (fun fuel hFuel => ?_) fun limit fuel hLimit => ?_⟩
  · change e.toJson?.bind (fun j => some (Json.object
      [("expression", j), ("alias", ofOption aliasName)])) = _
    rw [hWritten]
    rfl
  · simp [isExact, membersAreExact, hExact, ofOption_isExact]
  · simp only [depthOfMembers] at hFuel
    change (Expression.decode? fuel (.object members)).bind (fun e =>
      (nullable? string? (ofOption aliasName)).bind fun aliasName =>
        some (OutputColumn.mk e aliasName)) = _
    rw [hReads.value fuel (by omega), nullable?_ofOption]
    rfl
  · simp only [depthOfMembers, depth_ofOption] at hLimit
    change (Expression.decode? fuel ((Json.object members).within limit)).bind _ = _
    rw [hReads.refused limit fuel (by omega)]
    rfl

theorem SortKey.roundTrips_of_expression {e : Expression} (direction : SortDirection)
    (h : RoundTrips e.toJson? Expression.decode? e) :
    RoundTrips (SortKey.mk e direction).toJson? SortKey.decode? ⟨e, direction⟩ := by
  obtain ⟨members, hWritten, hExact, hReads⟩ := h
  refine ⟨[("expression", .object members), ("direction", .string direction.name)], ?_, ?_,
    .of_members (fun _ => rfl) (fun _ => rfl) (fun fuel hFuel => ?_) fun limit fuel hLimit => ?_⟩
  · change e.toJson?.bind (fun j => some (Json.object
      [("expression", j), ("direction", .string direction.name)])) = _
    rw [hWritten]
    rfl
  · simp [isExact, membersAreExact, hExact]
  · simp only [depthOfMembers] at hFuel
    change (Expression.decode? fuel (.object members)).bind (fun e =>
      (SortDirection.ofName? direction.name).bind fun direction =>
        some (SortKey.mk e direction)) = _
    rw [hReads.value fuel (by omega), SortDirection.ofName?_name]
    rfl
  · simp only [depthOfMembers, depth_string] at hLimit
    change (Expression.decode? fuel ((Json.object members).within limit)).bind _ = _
    rw [hReads.refused limit fuel (by omega)]
    rfl

theorem JoinNode.roundTrips_of_parts {table : String} {aliasName : Option String} {kind : JoinKind}
    {condition : Option Expression} {joins : List JoinNode}
    (hCondition :
      OptionRoundTrips (Expression.optionToJson? condition) Expression.decode? condition)
    (hJoins : RoundTripAll (JoinNode.allToJson? joins) JoinNode.decode? joins) :
    RoundTrips (JoinNode.mk table aliasName kind condition joins).toJson? JoinNode.decode?
      ⟨table, aliasName, kind, condition, joins⟩ := by
  obtain ⟨c, hWrittenCondition, hExactCondition, hCondition⟩ := hCondition
  obtain ⟨items, hWritten, hExact, hJoins⟩ := hJoins
  refine ⟨[("table", .string table), ("alias", ofOption aliasName), ("kind", .string kind.name),
    ("condition", c), ("joins", .array items)], ?_, ?_,
    .of_members (fun _ => rfl) (fun _ => rfl) (fun fuel hFuel => ?_) fun limit fuel hLimit => ?_⟩
  · change (Expression.optionToJson? condition).bind (fun c => (allToJson? joins).bind fun items =>
      some (Json.object [("table", .string table), ("alias", ofOption aliasName),
        ("kind", .string kind.name), ("condition", c), ("joins", .array items)])) = _
    rw [hWrittenCondition, hWritten]
    rfl
  · simp [isExact, membersAreExact, ofOption_isExact, hExactCondition, hExact]
  · have hDepths := depth_lt_of_mem hFuel
    simp only [List.forall_mem_cons] at hDepths
    obtain ⟨-, -, -, hConditionFuel, hJoinsFuel, -⟩ := hDepths
    change (nullable? string? (ofOption aliasName)).bind (fun aliasName =>
      (JoinKind.ofName? kind.name).bind fun kind =>
        (nullable? (Expression.decode? fuel) c).bind fun condition =>
          (list? (JoinNode.decode? fuel) (.array items)).bind fun joins =>
            some (JoinNode.mk table aliasName kind condition joins)) = _
    rw [nullable?_ofOption, JoinKind.ofName?_name, hCondition.value fuel hConditionFuel,
      hJoins.value fuel hJoinsFuel]
    rfl
  · change (nullable? string? ((ofOption aliasName).within limit)).bind (fun aliasName =>
      (JoinKind.ofName? kind.name).bind fun kind =>
        (nullable? (Expression.decode? fuel) (c.within limit)).bind fun condition =>
          (list? (JoinNode.decode? fuel) ((Json.array items).within limit)).bind fun joins =>
            some (JoinNode.mk table aliasName kind condition joins)) = _
    obtain h | h : limit < c.depth ∨ limit < (Json.array items).depth := by
      simpa using exists_mem_of_lt_depth hLimit
    · simp [hCondition.refused limit fuel h]
    · simp [hJoins.refused limit fuel h]

theorem Statement.roundTrips_of_parts {s : Statement}
    (hOperands : RoundTripAll (OutputColumn.allToJson? s.operands) OutputColumn.decode? s.operands)
    (hCondition :
      OptionRoundTrips (Expression.optionToJson? s.condition) Expression.decode? s.condition)
    (hJoins : RoundTripAll (JoinNode.allToJson? s.joins) JoinNode.decode? s.joins)
    (hGroupBy : RoundTripAll (Expression.allToJson? s.groupBy) Expression.decode? s.groupBy)
    (hHaving : OptionRoundTrips (Expression.optionToJson? s.having) Expression.decode? s.having)
    (hSorts : RoundTripAll (SortKey.allToJson? s.sorts) SortKey.decode? s.sorts) :
    RoundTrips s.toJson? Statement.decode? s := by
  obtain ⟨table, aliasName, operands, condition, joins, groupBy, having, sorts, skip, limit⟩ := s
  obtain ⟨o, hWrittenOperands, hExactOperands, hOperands⟩ := hOperands
  obtain ⟨c, hWrittenCondition, hExactCondition, hCondition⟩ := hCondition
  obtain ⟨j, hWrittenJoins, hExactJoins, hJoins⟩ := hJoins
  obtain ⟨g, hWrittenGroupBy, hExactGroupBy, hGroupBy⟩ := hGroupBy
  obtain ⟨h, hWrittenHaving, hExactHaving, hHaving⟩ := hHaving
  obtain ⟨k, hWrittenSorts, hExactSorts, hSorts⟩ := hSorts
  refine ⟨[("table", .string table), ("alias", ofOption aliasName), ("operands", .array o),
    ("condition", c), ("joins", .array j), ("group_by", .array g), ("having", h),
    ("sorts", .array k), ("skip", countJson skip), ("limit", countJson limit)], ?_, ?_,
    .of_members (fun _ => rfl) (fun _ => rfl) (fun fuel hFuel => ?_) fun nesting fuel hDeep => ?_⟩
  · change (OutputColumn.allToJson? operands).bind (fun o =>
      (Expression.optionToJson? condition).bind fun c => (JoinNode.allToJson? joins).bind fun j =>
        (Expression.allToJson? groupBy).bind fun g =>
          (Expression.optionToJson? having).bind fun h =>
            (SortKey.allToJson? sorts).bind fun k => some (Json.object
              [("table", .string table), ("alias", ofOption aliasName), ("operands", .array o),
                ("condition", c), ("joins", .array j), ("group_by", .array g), ("having", h),
                ("sorts", .array k), ("skip", countJson skip), ("limit", countJson limit)])) = _
    rw [hWrittenOperands, hWrittenCondition, hWrittenJoins, hWrittenGroupBy, hWrittenHaving,
      hWrittenSorts]
    rfl
  · simp [isExact, membersAreExact, ofOption_isExact, countJson_isExact, hExactOperands,
      hExactCondition, hExactJoins, hExactGroupBy, hExactHaving, hExactSorts]
  · have hDepths := depth_lt_of_mem hFuel
    simp only [List.forall_mem_cons] at hDepths
    obtain ⟨-, -, hOperandsFuel, hConditionFuel, hJoinsFuel, hGroupByFuel, hHavingFuel,
      hSortsFuel, -⟩ := hDepths
    change (nullable? string? (ofOption aliasName)).bind (fun aliasName =>
      (list? (OutputColumn.decode? fuel) (.array o)).bind fun operands =>
        (nullable? (Expression.decode? fuel) c).bind fun condition =>
          (list? (JoinNode.decode? fuel) (.array j)).bind fun joins =>
            (list? (Expression.decode? fuel) (.array g)).bind fun groupBy =>
              (nullable? (Expression.decode? fuel) h).bind fun having =>
                (list? (SortKey.decode? fuel) (.array k)).bind fun sorts =>
                  (nullable? count? (countJson skip)).bind fun skip =>
                    (nullable? count? (countJson limit)).bind fun limit =>
                      some (Statement.mk table aliasName operands condition joins groupBy having
                        sorts skip limit)) = _
    rw [nullable?_ofOption, hOperands.value fuel hOperandsFuel,
      hCondition.value fuel hConditionFuel, hJoins.value fuel hJoinsFuel,
      hGroupBy.value fuel hGroupByFuel, hHaving.value fuel hHavingFuel,
      hSorts.value fuel hSortsFuel, nullable?_countJson, nullable?_countJson]
    rfl
  · change (nullable? string? ((ofOption aliasName).within nesting)).bind (fun aliasName =>
      (list? (OutputColumn.decode? fuel) ((Json.array o).within nesting)).bind fun operands =>
        (nullable? (Expression.decode? fuel) (c.within nesting)).bind fun condition =>
          (list? (JoinNode.decode? fuel) ((Json.array j).within nesting)).bind fun joins =>
            (list? (Expression.decode? fuel) ((Json.array g).within nesting)).bind fun groupBy =>
              (nullable? (Expression.decode? fuel) (h.within nesting)).bind fun having =>
                (list? (SortKey.decode? fuel) ((Json.array k).within nesting)).bind _) = _
    obtain h | h | h | h | h | h : nesting < (Json.array o).depth ∨ nesting < c.depth ∨
      nesting < (Json.array j).depth ∨ nesting < (Json.array g).depth ∨ nesting < h.depth ∨
      nesting < (Json.array k).depth := by simpa using exists_mem_of_lt_depth hDeep
    · simp [hOperands.refused nesting fuel h]
    · simp [hCondition.refused nesting fuel h]
    · simp [hJoins.refused nesting fuel h]
    · simp [hGroupBy.refused nesting fuel h]
    · simp [hHaving.refused nesting fuel h]
    · simp [hSorts.refused nesting fuel h]

end RelPipe
