import RelPipe.Pipeline.Stage
import RelPipe.Proofs.Compile.Reads

/-!
The shape of compiled operands. What is computed is an operator applied to something and so a
document; a projection never takes it for a mark that a field is kept or dropped.
-/

namespace RelPipe

set_option autoImplicit false

def Value.IsDocument (v : Value) : Prop := ∃ fields, v = .document fields

theorem Call.isDocument_cases {vs : List Value} (h : 3 ≤ vs.length) (hOdd : vs.length % 2 = 1) :
    (cases vs).IsDocument := by
  match vs with
  | condition :: value :: rest =>
    rw [cases_cons_cons condition value (by simp only [List.length_cons] at hOdd; omega)]
    exact ⟨_, rfl⟩

theorem Call.isDocument_template (caseSensitive : Bool) {f : StandardFunction}
    {args : List Argument} (hArity : f.arity.accepts args.length = true) :
    Yields (template caseSensitive f args) Value.IsDocument := by
  cases f with
  | iif =>
    have hOdd : 3 ≤ args.length ∧ args.length % 2 = 1 := by
      simpa [StandardFunction.arity, Arity.accepts] using hArity
    exact length_values.bind fun vs hvs => .ok (isDocument_cases (by omega) (by omega))
  | concat => exact Yields.from_bind fun vs _ => .ok ⟨_, rfl⟩
  | trim | isNullOrEmpty | len | reverse | sign | toInt | toLong =>
    exact Yields.from_bind fun v _ => .ok ⟨_, rfl⟩
  | round | atn2 | power | bigMul | isNull | contains | startsWith | endsWith =>
    exact Yields.from_bind fun v _ => Yields.from_bind fun w _ => .ok ⟨_, rfl⟩
  | substring | replace | insert | remove | charIndex =>
    exact Yields.from_bind fun v _ => Yields.from_bind fun w _ =>
      Yields.from_bind fun x _ => .ok ⟨_, rfl⟩
  | log =>
    refine Yields.from_bind fun base _ => ?_
    cases base <;> exact Yields.from_bind fun v _ => .ok ⟨_, rfl⟩
  | rnd => exact .ok ⟨_, rfl⟩
  | _ => exact Yields.from_map fun v _ => ⟨_, rfl⟩

theorem Call.isDocument_like (caseSensitive : Bool) (tag : String) (args : List Argument) :
    Yields (like caseSensitive tag args) Value.IsDocument := by
  unfold like
  split
  · exact Yields.from_bind fun v _ => Yields.from_bind fun text _ => .ok ⟨_, rfl⟩
  · exact .error

theorem Function.isDocument_compile (caseSensitive : Bool) (f : Function) (args : List Argument) :
    Yields (f.compile caseSensitive args) Value.IsDocument := by
  have hStandard : ∀ g, Yields (Call.standard caseSensitive g args) Value.IsDocument := by
    intro g
    unfold Call.standard
    split
    · rename_i hArity
      exact Call.isDocument_template caseSensitive hArity
    · exact .error
  cases f with
  | standard g => exact hStandard g
  | custom tag =>
    change Yields (Call.custom caseSensitive tag args) _
    unfold Call.custom
    dsimp only
    split
    · exact Call.isDocument_like caseSensitive tag args
    · split
      · exact Yields.from_map fun v _ => ⟨_, rfl⟩
      · split
        · exact hStandard _
        · exact .error

def Operand.Structured : Operand → Prop
  | .computed v => v.IsDocument
  | _ => True

theorem Operand.flag?_projected {o : Operand} (h : o.Structured) :
    Pipeline.flag? o.projected = none := by
  cases o with
  | field path => rfl
  | constant v =>
    cases v with
    | string s =>
      change Pipeline.flag? (Value.string s).quoted = none
      rw [Value.quoted]
      split <;> rfl
    | _ => rfl
  | computed v =>
    obtain ⟨fields, rfl⟩ := h
    rfl

theorem isDocument_comparison (op : BinaryOp) (left right : Operand) :
    (comparison op left right).IsDocument := by
  unfold comparison
  dsimp only
  split <;> exact ⟨_, rfl⟩

theorem BinaryOp.structured_apply (op : BinaryOp) (left right : Operand) :
    (op.apply left right).Structured := by
  unfold apply
  split
  · exact isDocument_comparison op left right
  · exact ⟨_, rfl⟩

theorem Grouping.structured_operand? {g : Grouping} {e : Expression} {o : Operand}
    (h : g.operand? e = some o) : o.Structured := by
  unfold operand? at h
  split at h
  · cases h
  · split at h
    · cases h
    · split at h
      · cases h
        trivial
      · obtain ⟨a, _, rfl⟩ := Option.map_eq_some_iff.mp h
        dsimp only
        split
        · exact ⟨_, rfl⟩
        · trivial

theorem Site.structured_compile (site : Site) (e : Expression) :
    Yields (site.compile e) Operand.Structured := by
  induction e using Expression.input_induction with
  | step e ih =>
    cases hNone : site.grouping.operand? e with
    | some o =>
      rw [compile_of_operand? hNone]
      exact .ok (Grouping.structured_operand? hNone)
    | none =>
      cases e with
      | column | property =>
        rw [compile, hNone]
        exact .ok trivial
      | constant c =>
        rw [compile, hNone]
        exact Yields.from_map fun v _ => trivial
      | aggregate a =>
        rw [compile, hNone]
        dsimp only
        unfold Site.aggregate
        split
        · exact .error
        · split
          · exact .ok trivial
          · exact .error
      | unary op e =>
        by_cases hNot : op = .not
        · subst hNot
          cases hc : e.complement? with
          | none =>
            rw [compile_not hc hNone]
            exact Yields.from_map fun o _ => ⟨_, rfl⟩
          | some c =>
            rw [Expression.inputs_not_of_complement? hc] at ih
            rw [compile_not_of_complement? hc hNone]
            exact ih c (.head _)
        · rw [Expression.inputs_unary hNot] at ih
          rw [compile_unary hNot hNone]
          cases op with
          | plus => exact (ih e (.head _)).map fun _ ho => ho
          | _ => exact Yields.from_map fun o _ => ⟨_, rfl⟩
      | binary op l r =>
        rw [compile_binary, resolve, hNone]
        by_cases hLike : op = .like
        · subst hLike
          refine Yields.map ?_ fun _ hv => hv
          exact Yields.from_bind fun v _ => Yields.from_bind fun text _ => .ok ⟨_, rfl⟩
        · dsimp only
          rw [binary_of_ne_like hLike]
          exact Yields.from_bind fun left _ => Yields.from_map fun right _ =>
            op.structured_apply left right
      | between t l u =>
        rw [compile_between hNone]
        exact Yields.from_bind fun test _ => Yields.from_bind fun low _ =>
          Yields.from_map fun high _ => ⟨_, rfl⟩
      | member l cs =>
        rw [compile_member hNone]
        exact Yields.from_bind fun left _ => Yields.from_map fun os _ => ⟨_, rfl⟩
      | group op es =>
        rw [compile_group hNone]
        exact Yields.from_map fun vs _ => ⟨_, rfl⟩
      | call f es =>
        rw [compile, hNone]
        exact (f.isDocument_compile _ _).map fun _ hv => hv

end RelPipe
