import RelPipe.Proofs.Compile.Shape
import RelPipe.Proofs.Pipeline.StageFailures

/-!
What is compiled is well-formed: every operator that the evaluator knows is applied to arguments of
the number and the form that it takes, and a native filter compares a field with constants.
-/

namespace RelPipe

set_option autoImplicit false

open Pipeline

/-- A well-formed expression that is no array, so that it can be the only argument of an operator.
-/
structure Value.StandsAlone (v : Value) : Prop where
  wellFormed : WellFormed v
  alone : ∀ items, v ≠ .array items

def Pipeline.Operator.isUnary : Operator → Bool
  | .onValues op => op.arity? = some 1
  | _ => false

namespace Value.StandsAlone

theorem atom {v : Value} (h : v.isAtom = true) : v.StandsAlone where
  wellFormed := .atom h
  alone items hArray := by
    subst hArray
    cases h

@[simp] theorem null : Value.null.StandsAlone := atom rfl

@[simp] theorem int32 (n : Int32) : (Value.int32 n).StandsAlone := atom rfl

@[simp] theorem string (s : String) : (Value.string s).StandsAlone := atom rfl

theorem unknown {name : String} (argument : Value) (hDollar : Text.dollar name = true)
    (hName : Operator.ofName? name = none) : (Value.single name argument).StandsAlone where
  wellFormed := .unknown hDollar hName
  alone _ h := by cases h

theorem operator {name : String} {op : Operator} {argument : Value}
    (hName : Operator.ofName? name = some op) (hAccepts : op.accepts argument = true)
    (h : ∀ v ∈ op.parts argument, WellFormed v) : (Value.single name argument).StandsAlone where
  wellFormed := .operator hName hAccepts h
  alone _ h := by cases h

theorem apply {name : String} {op : ValueOperator} {items : List Value}
    (hName : Operator.ofName? name = some (.onValues op)) (hTakes : op.takes items = true)
    (h : ∀ v ∈ items, v.StandsAlone) : (Value.apply name items).StandsAlone :=
  operator hName hTakes fun v hv => (h v hv).wellFormed

theorem single {name : String} {v : Value} (h : v.StandsAlone) (hDollar : Text.dollar name = true)
    (hUnary : (Operator.ofName? name).all Operator.isUnary = true) :
    (Value.single name v).StandsAlone := by
  cases hName : Operator.ofName? name with
  | none => exact unknown v hDollar hName
  | some op =>
    rw [hName, Option.all_some] at hUnary
    cases op with
    | onValues op =>
      have hArity : op.arity? = some 1 := by simpa [Operator.isUnary] using hUnary
      have hTakes : op.takes [v] = true := by
        cases op with
        | member => cases hArity
        | _ => simp [ValueOperator.takes, hArity]
      have hAccepts : (Operator.onValues op).accepts v = true := by
        cases v with
        | array items => exact absurd rfl (h.alone items)
        | _ => exact hTakes
      have hParts : (Operator.onValues op).parts v = [v] := by
        cases v with
        | array items => exact absurd rfl (h.alone items)
        | _ => rfl
      refine operator hName hAccepts ?_
      rw [hParts]
      exact List.forall_mem_singleton.mpr h.wellFormed
    | _ => cases hUnary

theorem quoted {v : Value} (h : v.isAtom = true) : v.quoted.StandsAlone := by
  cases v with
  | string s =>
    rw [Value.quoted]
    split
    · exact operator rfl rfl (List.forall_mem_nil _)
    · exact atom rfl
  | _ => exact atom h

end Value.StandsAlone

theorem Constant.isAtom_value {c : Constant} {v : Value} (h : c.value = .ok v) :
    v.isAtom = true := by
  cases c with
  | decimal text =>
    rw [Constant.value] at h
    split at h <;> cases h
    rfl
  | _ =>
    cases h
    rfl

/-- An operand that can be the argument of an operator. -/
def Operand.StandsAlone : Operand → Prop
  | .field _ => True
  | .constant v => v.isAtom = true
  | .computed v => v.StandsAlone

theorem Operand.StandsAlone.render {o : Operand} (h : o.StandsAlone) : o.render.StandsAlone := by
  cases o with
  | field path => exact .atom rfl
  | constant v => exact .quoted h
  | computed v => exact h

theorem Operand.StandsAlone.constant? {o : Operand} (h : o.StandsAlone) {v : Value}
    (hv : o.constant? = some v) : v.isAtom = true := by
  cases o with
  | constant w =>
    cases hv
    exact h
  | _ => cases hv

/-! Comparisons -/

theorem Value.StandsAlone.present {v : Value} (h : v.StandsAlone) : v.present.StandsAlone :=
  .apply rfl rfl (by simp [h])

theorem Value.StandsAlone.absent {v : Value} (h : v.StandsAlone) : v.absent.StandsAlone := by
  have hValue : (Value.apply "$ifNull" [v, .null]).StandsAlone := .apply rfl rfl (by simp [h])
  exact .apply rfl rfl (by simp [hValue])

theorem BinaryOp.standsAlone_apply (op : BinaryOp) (hop : op ≠ .like) {l r : Value}
    (hl : l.StandsAlone) (hr : r.StandsAlone) :
    (Value.apply op.operator [l, r]).StandsAlone := by
  have hBoth : ∀ v ∈ [l, r], v.StandsAlone := by simp [hl, hr]
  cases op with
  | like => exact absurd rfl hop
  | bitwiseAnd | bitwiseOr | bitwiseXor => exact .unknown _ rfl rfl
  | _ => exact .apply rfl rfl hBoth

theorem GroupOp.standsAlone_apply (op : GroupOp) {items : List Value}
    (h : ∀ v ∈ items, WellFormed v) : (Value.apply op.operator items).StandsAlone := by
  cases op with
  | and => exact .operator rfl rfl h
  | or => exact .operator rfl rfl h

theorem standsAlone_comparison (op : BinaryOp) (hop : op ≠ .like) {left right : Operand}
    (hl : left.StandsAlone) (hr : right.StandsAlone) :
    (comparison op left right).StandsAlone := by
  have hPlain := op.standsAlone_apply hop hl.render hr.render
  have hGuards : ∀ v ∈ guards op left right, WellFormed v := by
    intro v hv
    unfold guards at hv
    split at hv
    · obtain ⟨o, ho, rfl⟩ := List.mem_map.mp hv
      obtain rfl | rfl := List.mem_pair.mp (List.mem_filter.mp ho).1
      · exact hl.render.present.wellFormed
      · exact hr.render.present.wellFormed
    · cases hv
  unfold comparison
  dsimp only
  split
  · exact hPlain
  · exact GroupOp.and.standsAlone_apply (List.forall_mem_cons.mpr ⟨hPlain.wellFormed, hGuards⟩)

theorem standsAlone_rangeComparison {test low high : Operand} (ht : test.StandsAlone)
    (hl : low.StandsAlone) (hh : high.StandsAlone) :
    (rangeComparison test low high).StandsAlone := by
  have hAbove := standsAlone_comparison .greaterOrEqual (by decide) ht hl
  have hBelow := standsAlone_comparison .lessOrEqual (by decide) ht hh
  exact GroupOp.and.standsAlone_apply (by simp [hAbove.wellFormed, hBelow.wellFormed])

theorem standsAlone_membership {left : Value} {candidates : List Value} (hl : left.StandsAlone)
    (hc : ∀ v ∈ candidates, v.StandsAlone) :
    (Value.apply "$in" [left, .array candidates]).StandsAlone := by
  have hArray : WellFormed (.array candidates) := .array fun v hv => (hc v hv).wellFormed
  refine .operator rfl rfl fun v hv => ?_
  obtain rfl | rfl := List.mem_pair.mp hv
  · exact hl.wellFormed
  · exact hArray

theorem standsAlone_not {v : Value} (h : WellFormed v) :
    (Value.apply "$not" [v]).StandsAlone :=
  .operator rfl rfl (List.forall_mem_singleton.mpr h)

/-! Calls -/

namespace Call

section

variable {v source start length text : Value}

theorem standsAlone_charCount (h : v.StandsAlone) : (charCount v).StandsAlone :=
  h.single rfl rfl

theorem standsAlone_slice (hSource : source.StandsAlone) (hStart : start.StandsAlone)
    (hLength : length.StandsAlone) : (slice source start length).StandsAlone :=
  .apply rfl rfl (by simp [hSource, hStart, hLength])

theorem standsAlone_rounded (h : v.StandsAlone) : (rounded v).StandsAlone := by
  have hHalf : half.StandsAlone := .atom rfl
  have hTest : (Value.apply "$gt" [v, .int32 0]).StandsAlone := .apply rfl rfl (by simp [h])
  have hUp : (Value.single "$floor" (.apply "$add" [v, half])).StandsAlone :=
    (BinaryOp.add.standsAlone_apply (by decide) h hHalf).single rfl rfl
  have hDown : (Value.single "$ceil" (.apply "$subtract" [v, half])).StandsAlone :=
    (BinaryOp.subtract.standsAlone_apply (by decide) h hHalf).single rfl rfl
  exact .operator rfl rfl
    (by simp [Operator.parts, hTest.wellFormed, hUp.wellFormed, hDown.wellFormed])

theorem standsAlone_trimmedLength (h : v.StandsAlone) : (trimmedLength v).StandsAlone := by
  have hTrim : ∀ name side, Operator.ofName? name = some (.trim side) →
      (Value.single name (.document [("input", v), ("chars", .string " ")])).StandsAlone := by
    intro name side hName
    exact .operator hName rfl (by simp [Operator.parts, h.wellFormed])
  have hBoth := standsAlone_charCount (hTrim "$trim" .both rfl)
  have hLeft := standsAlone_charCount (hTrim "$ltrim" .left rfl)
  have hLeading := BinaryOp.subtract.standsAlone_apply (by decide) (standsAlone_charCount h) hLeft
  exact BinaryOp.add.standsAlone_apply (by decide) hBoth hLeading

theorem standsAlone_inserted (hSource : source.StandsAlone) (hStart : start.StandsAlone)
    (hText : text.StandsAlone) : (inserted source start text).StandsAlone := by
  have hBefore := standsAlone_slice hSource (.int32 0) hStart
  have hAfter := standsAlone_slice hSource hStart (standsAlone_charCount hSource)
  exact .apply rfl rfl (by simp [hBefore, hText, hAfter])

theorem standsAlone_removed (hSource : source.StandsAlone) (hStart : start.StandsAlone)
    (hLength : length.StandsAlone) : (removed source start length).StandsAlone := by
  have hRest := BinaryOp.add.standsAlone_apply (by decide) hStart hLength
  have hCount := standsAlone_charCount hSource
  have hBefore := standsAlone_slice hSource (.int32 0) hStart
  have hAfter := standsAlone_slice hSource hRest
    (BinaryOp.subtract.standsAlone_apply (by decide) hCount hRest)
  exact .apply rfl rfl (List.forall_mem_cons.mpr ⟨hBefore, List.forall_mem_singleton.mpr hAfter⟩)

theorem standsAlone_wrapped {otherwise : Value} {rest : List Value} (h : otherwise.StandsAlone)
    (hRest : ∀ v ∈ rest, v.StandsAlone) : (wrapped otherwise rest).StandsAlone := by
  fun_induction wrapped otherwise rest with
  | case1 otherwise value condition rest ih =>
    simp only [List.forall_mem_cons] at hRest
    obtain ⟨hValue, hCondition, hRest⟩ := hRest
    refine ih (.operator rfl rfl ?_) hRest
    simp [Operator.parts, hCondition.wellFormed, hValue.wellFormed, h.wellFormed]
  | case2 => exact h

theorem standsAlone_cases {vs : List Value} (h : ∀ v ∈ vs, v.StandsAlone) :
    (cases vs).StandsAlone := by
  unfold cases
  split
  · rename_i otherwise rest hReversed
    have hAll : ∀ v ∈ otherwise :: rest, v.StandsAlone := fun v hv =>
      h v (List.mem_reverse.mp (hReversed ▸ hv))
    obtain ⟨hOtherwise, hRest⟩ := List.forall_mem_cons.mp hAll
    exact standsAlone_wrapped hOtherwise hRest
  · exact .null

end

theorem standsAlone_matching (caseSensitive : Bool) {input : Value} (h : input.StandsAlone)
    (regex : List Char) : (Value.matching caseSensitive input regex).StandsAlone := by
  cases caseSensitive <;> exact .operator rfl rfl (by simp [Operator.parts, h.wellFormed])

variable {args : List Argument}

theorem standsAlone_value (h : ∀ a ∈ args, Yields a.operand Operand.StandsAlone) (index : Nat) :
    Yields (value args index) Value.StandsAlone := by
  unfold value
  split
  · rename_i a ha
    exact (h a (List.mem_of_getElem? ha)).map fun _ ho => ho.render
  · exact .ok .null

theorem standsAlone_optional (h : ∀ a ∈ args, Yields a.operand Operand.StandsAlone)
    (index : Nat) :
    Yields (optional args index) fun v? => ∀ v, v? = some v → v.StandsAlone := by
  unfold optional
  split
  · rename_i a ha
    refine Yields.map ((h a (List.mem_of_getElem? ha)).map fun _ ho => ho.render) ?_
    rintro v hv w ⟨⟩
    exact hv
  · exact .ok fun v hv => by cases hv

theorem standsAlone_values (h : ∀ a ∈ args, Yields a.operand Operand.StandsAlone) :
    Yields (values args) fun vs => ∀ v ∈ vs, v.StandsAlone := by
  induction args with
  | nil => exact .ok (List.forall_mem_nil _)
  | cons a rest ih =>
    obtain ⟨hFirst, hRest⟩ := List.forall_mem_cons.mp h
    refine Yields.bind (hFirst.map fun _ ho => ho.render) fun v hv => ?_
    exact (ih hRest).bind fun vs hvs => .ok (List.forall_mem_cons.mpr ⟨hv, hvs⟩)

theorem standsAlone_getD {v? : Option Value} (h : ∀ v, v? = some v → v.StandsAlone) {w : Value}
    (hw : w.StandsAlone) : (v?.getD w).StandsAlone := by
  cases v? with
  | none => exact hw
  | some v => exact h v rfl

theorem standsAlone_template (caseSensitive : Bool) (f : StandardFunction)
    (h : ∀ a ∈ args, Yields a.operand Operand.StandsAlone) :
    Yields (template caseSensitive f args) Value.StandsAlone := by
  have hValue := standsAlone_value h
  have hOptional := standsAlone_optional h
  have hValues := standsAlone_values h
  cases f with
  | concat => exact hValues.bind fun vs hvs => .ok (.apply rfl rfl hvs)
  | iif => exact hValues.bind fun vs hvs => .ok (standsAlone_cases hvs)
  | trim =>
    refine (hValue 0).bind fun v hv => .ok (.operator rfl rfl ?_)
    exact List.forall_mem_singleton.mpr hv.wellFormed
  | isNullOrEmpty =>
    refine (hValue 0).bind fun v hv => .ok ?_
    have hText : (Value.apply "$ifNull" [v, .string ""]).StandsAlone :=
      .apply rfl rfl (by simp [hv])
    exact .apply rfl rfl (by simp [hText])
  | len => exact (hValue 0).bind fun v hv => .ok (standsAlone_trimmedLength hv)
  | sign => exact (hValue 0).bind fun v hv => .ok (.apply rfl rfl (by simp [hv]))
  | toInt | toLong =>
    exact (hValue 0).bind fun v hv => .ok ((standsAlone_rounded hv).single rfl rfl)
  | reverse => exact (hValue 0).bind fun v hv => .ok (.unknown _ rfl rfl)
  | substring =>
    refine (hValue 0).bind fun source hSource => (hOptional 2).bind fun length? hLength => ?_
    refine (hValue 1).bind fun start hStart => .ok (standsAlone_slice hSource hStart ?_)
    exact standsAlone_getD hLength (standsAlone_charCount hSource)
  | replace =>
    exact (hValue 0).bind fun _ _ => (hValue 1).bind fun _ _ => (hOptional 2).bind fun _ _ =>
      .ok (.unknown _ rfl rfl)
  | insert =>
    exact (hValue 0).bind fun source hSource => (hValue 1).bind fun position hPosition =>
      (hValue 2).bind fun text hText => .ok (standsAlone_inserted hSource hPosition hText)
  | remove =>
    refine (hValue 0).bind fun source hSource => (hValue 1).bind fun start hStart => ?_
    refine (hOptional 2).bind fun length? hLength => .ok (standsAlone_removed hSource hStart ?_)
    exact standsAlone_getD hLength (standsAlone_charCount hSource)
  | charIndex =>
    exact (hValue 1).bind fun _ _ => (hValue 0).bind fun _ _ => (hOptional 2).bind fun _ _ =>
      .ok (.unknown _ rfl rfl)
  | round | atn2 =>
    exact (hValue 0).bind fun _ _ => (hOptional 1).bind fun _ _ => .ok (.unknown _ rfl rfl)
  | isNull =>
    refine (hValue 0).bind fun input hInput => (hOptional 1).bind fun other? hOther => .ok ?_
    exact .apply rfl rfl (by simp [hInput, standsAlone_getD hOther .null])
  | log =>
    refine (hOptional 1).bind fun base? hBase => ?_
    cases base? with
    | none => exact (hValue 0).bind fun _ _ => .ok (.unknown _ rfl rfl)
    | some base =>
      refine (hValue 0).bind fun number _ => .ok ?_
      exact BinaryOp.divide.standsAlone_apply (by decide) (.unknown _ rfl rfl)
        (.unknown _ rfl rfl)
  | power =>
    exact (hValue 0).bind fun _ _ => (hValue 1).bind fun _ _ => .ok (.unknown _ rfl rfl)
  | bigMul =>
    exact (hValue 0).bind fun v hv => (hValue 1).bind fun w hw =>
      .ok (BinaryOp.multiply.standsAlone_apply (by decide) hv hw)
  | contains | startsWith | endsWith =>
    exact Yields.from_bind fun text _ => (hValue 0).bind fun input hInput =>
      .ok (standsAlone_matching caseSensitive hInput _)
  | rnd => exact .ok (.unknown _ rfl rfl)
  | _ => exact (hValue 0).map fun v hv => hv.single rfl rfl

theorem standsAlone_likeCall (caseSensitive : Bool) {a b : Argument}
    (ha : Yields a.operand Operand.StandsAlone) :
    Yields (likeCall caseSensitive a b) Value.StandsAlone := by
  refine Yields.bind (ha.map fun _ ho => ho.render) fun input hInput => ?_
  exact Yields.from_bind fun text _ => .ok (standsAlone_matching caseSensitive hInput _)

end Call

theorem Function.standsAlone_compile (caseSensitive : Bool) (f : Function) {args : List Argument}
    (h : f.standard? ≠ some .rnd → ∀ a ∈ args, Yields a.operand Operand.StandsAlone) :
    Yields (f.compile caseSensitive args) Value.StandsAlone := by
  have hStandard : ∀ g : StandardFunction, f.standard? = some g →
      Yields (Call.standard caseSensitive g args) Value.StandsAlone := by
    intro g hg
    unfold Call.standard
    split
    · -- The arguments of a random number are not compiled, so that nothing is known of them.
      by_cases hRandom : g = .rnd
      · subst hRandom
        exact .ok (.unknown _ rfl rfl)
      · exact Call.standsAlone_template caseSensitive g (h (by simpa [hg] using hRandom))
    · exact .error
  cases f with
  | standard g => exact hStandard g rfl
  | custom tag =>
    have hLike : ∀ {name}, Text.lower tag = name → StandardFunction.ofName? name = none →
        Yields (Call.like caseSensitive tag args) Value.StandsAlone := by
      intro name hName hNone
      have hArguments := h (by rw [standard?, hName, hNone]; simp)
      unfold Call.like
      split
      · exact Call.standsAlone_likeCall caseSensitive (hArguments _ (by simp))
      · exact .error
    change Yields (Call.custom caseSensitive tag args) _
    unfold Call.custom
    dsimp only
    split
    · rename_i hName
      exact hLike hName StandardFunction.ofName?_like
    · split
      · rename_i hName
        exact (hLike hName StandardFunction.ofName?_notLike).map fun v hv =>
          standsAlone_not hv.wellFormed
      · split
        · rename_i g hg
          exact hStandard g hg
        · exact .error

/-! Filters -/

namespace Filter

theorem wellFormed_fieldExpression (field : String) (op : BinaryOp) (hop : op.isComparison = true)
    {v : Value} (hv : v.isAtom = true) : WellFormed (fieldExpression field op v) := by
  have hLike : op ≠ .like := by
    rintro rfl
    cases hop
  have hPath : (Value.string ("$" ++ field)).StandsAlone := .string _
  have hPlain := op.standsAlone_apply hLike hPath (.quoted hv)
  unfold fieldExpression
  dsimp only
  split
  · exact (GroupOp.and.standsAlone_apply
      (by simp [hPlain.wellFormed, hPath.present.wellFormed])).wellFormed
  · exact hPlain.wellFormed

theorem Formed.wellFormed_toExpression {f : Filter} (h : f.Formed) :
    WellFormed f.toExpression := by
  induction h with
  | computed h => exact h
  | comparison _ hop hv => exact wellFormed_fieldExpression _ _ hop hv
  | @range field _ _ _ hLow hHigh =>
    have hAbove := wellFormed_fieldExpression field .greaterOrEqual rfl hLow
    have hBelow := wellFormed_fieldExpression field .lessOrEqual rfl hHigh
    exact (GroupOp.and.standsAlone_apply (by simp [hAbove, hBelow])).wellFormed
  | among _ hValues =>
    refine (standsAlone_membership (.string _) fun v hv => ?_).wellFormed
    obtain ⟨w, hw, rfl⟩ := List.mem_map.mp hv
    exact .quoted (hValues w hw)
  | group _ ih =>
    refine (GroupOp.standsAlone_apply _ fun v hv => ?_).wellFormed
    rw [toExpressions_eq_map] at hv
    obtain ⟨f, hf, rfl⟩ := List.mem_map.mp hv
    exact ih f hf
  | negation _ ih =>
    have hAny := GroupOp.or.standsAlone_apply (List.forall_mem_singleton.mpr ih)
    exact (standsAlone_not hAny.wellFormed).wellFormed

theorem formed_ofComparison {op : BinaryOp} (hop : op.isComparison = true) {left right : Operand}
    (hl : left.StandsAlone) (hr : right.StandsAlone) : (ofComparison op left right).Formed := by
  have hLike : op ≠ .like := by
    rintro rfl
    cases hop
  have hMirrored : op.mirrored.isComparison = true := by cases op <;> first | rfl | cases hop
  unfold ofComparison ofComparison?
  split
  · rename_i hField hValue
    exact .comparison (Operand.eq_field_of_fieldName? hField).2 hop (hr.constant? hValue)
  · split
    · rename_i hField hValue
      exact .comparison (Operand.eq_field_of_fieldName? hField).2 hMirrored (hl.constant? hValue)
    · exact .computed (standsAlone_comparison op hLike hl hr).wellFormed

theorem formed_ofRange {test low high : Operand} (ht : test.StandsAlone) (hl : low.StandsAlone)
    (hh : high.StandsAlone) : (ofRange test low high).Formed := by
  unfold ofRange
  split
  · rename_i hField hLow hHigh
    exact .range (Operand.eq_field_of_fieldName? hField).2 (hl.constant? hLow) (hh.constant? hHigh)
  · exact .computed (standsAlone_rangeComparison ht hl hh).wellFormed

theorem formed_ofMembership {left : Operand} {candidates : List Operand} (hl : left.StandsAlone)
    (hc : ∀ o ∈ candidates, o.StandsAlone) : (ofMembership left candidates).Formed := by
  have hComputed : (Filter.computed
      (.apply "$in" [left.render, .array (candidates.map Operand.render)])).Formed := by
    refine .computed (standsAlone_membership hl.render fun v hv => ?_).wellFormed
    obtain ⟨o, ho, rfl⟩ := List.mem_map.mp hv
    exact (hc o ho).render
  unfold ofMembership
  split
  · rename_i hField
    split
    · refine .among (Operand.eq_field_of_fieldName? hField).2 fun v hv => ?_
      obtain ⟨o, ho, hValue⟩ := List.mem_filterMap.mp hv
      exact (hc o ho).constant? hValue
    · exact hComputed
  · exact hComputed

theorem formed_ofGroup? {op : GroupOp} {clauses : List Filter} (h : ∀ f ∈ clauses, f.Formed)
    {f : Filter} (hf : ofGroup? op clauses = some f) : f.Formed := by
  unfold ofGroup? at hf
  split at hf
  · cases hf
  · split at hf
    · cases hf
      refine .computed (op.standsAlone_apply fun v hv => ?_).wellFormed
      rw [toExpressions_eq_map] at hv
      obtain ⟨f, hf, rfl⟩ := List.mem_map.mp hv
      exact (h f hf).wellFormed_toExpression
    · cases hf
      exact .group h

end Filter

/-! Expressions -/

/-- The compiled forms of an expression are written as they should be. -/
structure Site.Forms (site : Site) (e : Expression) : Prop where
  operand : Yields (site.compile e) Operand.StandsAlone
  clause : Yields (site.clauseOf e) Filter.Formed

namespace Site

variable {site : Site} {e : Expression}

theorem Forms.value (h : site.Forms e) : Yields (site.value e) Value.StandsAlone :=
  h.operand.map fun _ ho => ho.render

theorem Forms.of_filter?_none (hFilter : site.filter? e = .ok none)
    (h : Yields (site.compile e) Operand.StandsAlone) : site.Forms e := by
  refine ⟨h, ?_⟩
  rw [clauseOf_of_filter?_none hFilter]
  exact Yields.map (h.map fun _ ho => ho.render) fun v hv => .computed hv.wellFormed

theorem forms_of_operand? {o : Operand} (h : site.grouping.operand? e = some o) :
    site.Forms e := by
  refine .of_filter?_none ?_ ?_
  · rw [filter?.eq_def, h]
  · rw [compile_of_operand? h]
    refine .ok ?_
    unfold Grouping.operand? at h
    split at h
    · cases h
    · split at h
      · cases h
      · split at h
        · cases h
          trivial
        · obtain ⟨a, _, rfl⟩ := Option.map_eq_some_iff.mp h
          dsimp only
          split
          · exact .apply rfl rfl (by simp)
          · trivial

theorem Forms.complement {c : Expression} (hc : e.complement? = some c)
    (hNone : site.grouping.operand? (.unary .not e) = none) (h : site.Forms c) :
    site.Forms (.unary .not e) := by
  refine ⟨?_, ?_⟩
  · rw [compile_not_of_complement? hc hNone]
    exact h.operand
  · rw [clauseOf_not_of_complement? hc hNone]
    exact h.clause

theorem Forms.not (hc : e.complement? = none)
    (hNone : site.grouping.operand? (.unary .not e) = none) (h : site.Forms e) :
    site.Forms (.unary .not e) := by
  refine ⟨?_, ?_⟩
  · rw [compile_not hc hNone]
    exact h.operand.map fun o ho => standsAlone_not ho.render.wellFormed
  · rw [clauseOf, filter?_not hc hNone]
    refine Yields.from_bind fun g? hOutcome => ?_
    obtain ⟨f?, hf?, hOutcome⟩ := exists_of_bind_eq_ok hOutcome
    obtain ⟨g, hNegated, rfl⟩ := exists_of_map_eq_ok hOutcome
    refine .ok ?_
    cases f? with
    | none =>
      obtain ⟨v, hv, rfl⟩ := exists_of_map_eq_ok hNegated
      exact .computed (standsAlone_not (h.value v hv).wellFormed).wellFormed
    | some f =>
      cases hNegated
      exact .negation (h.clause f (clauseOf_of_filter?_some hf?))

theorem Forms.unary {op : UnaryOp} (hop : op ≠ .not)
    (hNone : site.grouping.operand? (.unary op e) = none) (h : site.Forms e) :
    site.Forms (.unary op e) := by
  refine .of_filter?_none (filter?_unary hop hNone) ?_
  rw [compile_unary hop hNone]
  refine h.operand.map fun o ho => ?_
  cases op with
  | not => exact absurd rfl hop
  | plus => exact ho
  | minus => exact BinaryOp.multiply.standsAlone_apply (by decide) (.int32 (-1)) ho.render
  | bitwiseNot => exact .unknown _ rfl rfl
  | isNull => exact ho.render.absent

theorem Forms.binary {op : BinaryOp} {l r : Expression}
    (hNone : site.grouping.operand? (.binary op l r) = none) (hl : site.Forms l)
    (hr : site.Forms r) : site.Forms (.binary op l r) := by
  have hCompile : Yields (site.compile (.binary op l r)) Operand.StandsAlone := by
    rw [compile_binary, resolve, hNone]
    by_cases hLike : op = .like
    · subst hLike
      exact (Call.standsAlone_likeCall site.caseSensitive hl.operand).map fun _ hv => hv
    · dsimp only
      rw [binary_of_ne_like hLike]
      refine hl.operand.bind fun left hLeft => hr.operand.map fun right hRight => ?_
      unfold BinaryOp.apply
      split
      · exact standsAlone_comparison op hLike hLeft hRight
      · exact op.standsAlone_apply hLike hLeft.render hRight.render
  cases hop : op.isComparison with
  | true =>
    refine ⟨hCompile, ?_⟩
    rw [clauseOf_comparison hop hNone]
    exact hl.operand.bind fun left hLeft => hr.operand.map fun right hRight =>
      Filter.formed_ofComparison hop hLeft hRight
  | false =>
    refine .of_filter?_none ?_ hCompile
    rw [filter?, hNone]
    simp [hop]

theorem Forms.between {t l h : Expression}
    (hNone : site.grouping.operand? (.between t l h) = none) (ht : site.Forms t)
    (hl : site.Forms l) (hh : site.Forms h) : site.Forms (.between t l h) := by
  refine ⟨?_, ?_⟩
  · rw [compile_between hNone]
    exact ht.operand.bind fun test hTest => hl.operand.bind fun low hLow =>
      hh.operand.map fun high hHigh => standsAlone_rangeComparison hTest hLow hHigh
  · rw [clauseOf_between hNone]
    exact ht.operand.bind fun test hTest => hl.operand.bind fun low hLow =>
      hh.operand.map fun high hHigh => Filter.formed_ofRange hTest hLow hHigh

theorem forms_operands {es : List Expression} (h : ∀ e ∈ es, site.Forms e) :
    Yields (site.operands es) fun os => ∀ o ∈ os, o.StandsAlone := by
  induction es with
  | nil => exact .ok (List.forall_mem_nil _)
  | cons e es ih =>
    obtain ⟨hFirst, hRest⟩ := List.forall_mem_cons.mp h
    exact hFirst.operand.bind fun o ho => (ih hRest).bind fun os hos =>
      .ok (List.forall_mem_cons.mpr ⟨ho, hos⟩)

theorem Forms.member {l : Expression} {cs : List Expression}
    (hNone : site.grouping.operand? (.member l cs) = none) (hl : site.Forms l)
    (hcs : ∀ c ∈ cs, site.Forms c) : site.Forms (.member l cs) := by
  refine ⟨?_, ?_⟩
  · rw [compile_member hNone]
    refine hl.operand.bind fun left hLeft => (forms_operands hcs).map fun os hos => ?_
    refine standsAlone_membership hLeft.render fun v hv => ?_
    obtain ⟨o, ho, rfl⟩ := List.mem_map.mp hv
    exact (hos o ho).render
  · rw [clauseOf_member hNone]
    exact hl.operand.bind fun left hLeft => (forms_operands hcs).map fun os hos =>
      Filter.formed_ofMembership hLeft hos

theorem forms_filters {es : List Expression} (h : ∀ e ∈ es, site.Forms e) :
    Yields (site.filters es) fun fs => ∀ f ∈ fs, f.Formed := by
  induction es with
  | nil => exact .ok (List.forall_mem_nil _)
  | cons e es ih =>
    obtain ⟨hFirst, hRest⟩ := List.forall_mem_cons.mp h
    rw [filters_cons]
    exact hFirst.clause.bind fun f hf => (ih hRest).map fun fs hfs =>
      List.forall_mem_cons.mpr ⟨hf, hfs⟩

theorem Forms.group {op : GroupOp} {es : List Expression}
    (hNone : site.grouping.operand? (.group op es) = none) (h : ∀ e ∈ es, site.Forms e) :
    site.Forms (.group op es) := by
  have hCompile : Yields (site.compile (.group op es)) Operand.StandsAlone := by
    rw [compile_group hNone, values_compileEach]
    have hValues : Yields ((site.operands es).map (List.map Operand.render))
        fun vs => ∀ v ∈ vs, WellFormed v := by
      refine (forms_operands h).map fun os hos v hv => ?_
      obtain ⟨o, ho, rfl⟩ := List.mem_map.mp hv
      exact (hos o ho).render.wellFormed
    exact hValues.map fun vs hvs => op.standsAlone_apply hvs
  have hFilter : Yields ((site.filters es).map (Filter.ofGroup? op))
      fun f? => ∀ f, f? = some f → f.Formed :=
    (forms_filters h).map fun fs hfs f hf => Filter.formed_ofGroup? hfs hf
  refine ⟨hCompile, ?_⟩
  rw [clauseOf, filter?_group hNone]
  refine hFilter.bind fun f? hf? => ?_
  cases f? with
  | none =>
    exact Yields.map (hCompile.map fun _ ho => ho.render) fun v hv => .computed hv.wellFormed
  | some f => exact .ok (hf? f rfl)

theorem Forms.call {f : Function} {es : List Expression}
    (hNone : site.grouping.operand? (.call f es) = none)
    (h : f.standard? ≠ some .rnd → ∀ e ∈ es, site.Forms e) : site.Forms (.call f es) := by
  refine .of_filter?_none ?_ ?_
  · rw [filter?.eq_def, hNone]
  · rw [compile, hNone]
    refine (Function.standsAlone_compile _ f fun hRandom a ha => ?_).map fun _ hv => hv
    obtain ⟨e, he, rfl⟩ := mem_compileEach.mp ha
    exact (h hRandom e he).operand

theorem forms (site : Site) (e : Expression) : site.Forms e := by
  induction e using Expression.input_induction with
  | step e ih =>
    cases hNone : site.grouping.operand? e with
    | some o => exact forms_of_operand? hNone
    | none =>
      cases e with
      | column _ | property _ =>
        refine .of_filter?_none ?_ ?_
        · rw [filter?.eq_def, hNone]
        · rw [compile, hNone]
          exact .ok trivial
      | constant c =>
        refine .of_filter?_none ?_ ?_
        · rw [filter?.eq_def, hNone]
        · rw [compile, hNone]
          exact Yields.from_map fun v hv => Constant.isAtom_value hv
      | aggregate a =>
        refine .of_filter?_none ?_ ?_
        · rw [filter?.eq_def, hNone]
        · rw [compile, hNone]
          dsimp only
          unfold Site.aggregate
          split
          · exact .error
          · split
            · exact .ok trivial
            · exact .error
      | unary op e =>
        by_cases hNot : op = .not
        · subst hNot
          cases hc : e.complement? with
          | none =>
            rw [Expression.inputs_not hc] at ih
            exact (ih e (.head _)).not hc hNone
          | some c =>
            rw [Expression.inputs_not_of_complement? hc] at ih
            exact (ih c (.head _)).complement hc hNone
        · rw [Expression.inputs_unary hNot] at ih
          exact (ih e (.head _)).unary hNot hNone
      | binary op l r => exact .binary hNone (ih l (.head _)) (ih r (.tail _ (.head _)))
      | between t l u =>
        exact .between hNone (ih t (.head _)) (ih l (.tail _ (.head _)))
          (ih u (.tail _ (.tail _ (.head _))))
      | member l cs => exact .member hNone (ih l (.head _)) fun c hc => ih c (.tail _ hc)
      | group op es => exact .group hNone ih
      | call f es =>
        refine .call hNone fun hRandom e he => ih e ?_
        rw [Expression.inputs, if_neg hRandom]
        exact he

end Site

end RelPipe
