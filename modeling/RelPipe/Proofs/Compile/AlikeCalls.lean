import RelPipe.Proofs.Compile.Spelling
import RelPipe.Proofs.Compile.Templates

/-!
Calls of one function whose arguments compile alike compile alike. They fail for causes of one kind,
or else each template fills in values that are alike.
-/

namespace RelPipe

set_option autoImplicit false

/-- Causes of failure that differ in spelling only. -/
inductive CompileError.Alike : CompileError → CompileError → Prop where
  | argumentCount {function function' : String} (h : Text.lower function = Text.lower function')
    (expected : String) (found : Nat) :
    Alike (.argumentCount function expected found) (.argumentCount function' expected found)
  | unsupportedFunction {tag tag' : String} (h : Text.lower tag = Text.lower tag') :
    Alike (.unsupportedFunction tag) (.unsupportedFunction tag')
  | nonConstantPattern {e e' : Expression} (h : e.signature = e'.signature) :
    Alike (.nonConstantPattern e) (.nonConstantPattern e')
  | invalidDecimal (text : String) : Alike (.invalidDecimal text) (.invalidDecimal text)
  | aggregateOutsideGrouping {a a' : Aggregate} (h : a.signature = a'.signature) :
    Alike (.aggregateOutsideGrouping a) (.aggregateOutsideGrouping a')
  | unplannedSubquery {a a' : Aggregate} (h : a.signature = a'.signature) :
    Alike (.unplannedSubquery a) (.unplannedSubquery a')

/-- Outcomes that differ in spelling only: both succeed with results that are related, or both fail
for causes that are alike. -/
inductive OutcomesAlike {α β : Type} (R : α → β → Prop) :
    Except CompileError α → Except CompileError β → Prop where
  | ok {a : α} {b : β} (h : R a b) : OutcomesAlike R (.ok a) (.ok b)
  | error {e e' : CompileError} (h : e.Alike e') : OutcomesAlike R (.error e) (.error e')

namespace OutcomesAlike

variable {α α' β β' : Type} {R : α → α' → Prop} {S : β → β' → Prop}
  {x : Except CompileError α} {x' : Except CompileError α'}

theorem bind {f : α → Except CompileError β} {f' : α' → Except CompileError β'}
    (hx : OutcomesAlike R x x') (hf : ∀ a a', R a a' → OutcomesAlike S (f a) (f' a')) :
    OutcomesAlike S (x.bind f) (x'.bind f') := by
  cases hx with
  | ok h => exact hf _ _ h
  | error h => exact .error h

theorem map {f : α → β} {f' : α' → β'} (hx : OutcomesAlike R x x')
    (hf : ∀ a a', R a a' → S (f a) (f' a')) : OutcomesAlike S (x.map f) (x'.map f') := by
  cases hx with
  | ok h => exact .ok (hf _ _ h)
  | error h => exact .error h

theorem iff_correspond : OutcomesAlike R x x' ↔ Correspond CompileError.Alike R x x' := by
  constructor
  · rintro (h | h)
    · exact .ok h
    · exact .error h
  · rintro (h | h)
    · exact .ok h
    · exact .error h

end OutcomesAlike

/-- Arguments of one signature that compile alike. -/
structure Argument.Alike (a a' : Argument) : Prop where
  signature : a.expression.signature = a'.expression.signature
  operand : OutcomesAlike Operand.Alike a.operand a'.operand

theorem Argument.Alike.value {a a' : Argument} (h : a.Alike a') :
    OutcomesAlike Value.Alike a.value a'.value :=
  h.operand.map fun _ _ ho => ho.render

theorem Argument.Alike.pattern {a a' : Argument} (h : a.Alike a') :
    OutcomesAlike Eq a.pattern a'.pattern := by
  refine h.operand.bind fun o o' ho => ?_
  rw [ho.constant?]
  split
  · exact .ok rfl
  · exact .error (.nonConstantPattern h.signature)

theorem Argument.Alike.corresponds {a a' : Argument} (h : a.Alike a') :
    a.Corresponds CompileError.Alike Value.Alike a' :=
  ⟨OutcomesAlike.iff_correspond.mp h.value, OutcomesAlike.iff_correspond.mp h.pattern⟩

theorem Value.Alike.congruence (caseSensitive : Bool) :
    Value.Congruence caseSensitive caseSensitive Value.Alike where
  atom _ := .same _
  array h := .items h
  document {fields fields'} h hNames := by
    have hBoth := (List.forall₂_and_left _ _).mpr ⟨hNames, h⟩
    refine .fields (hBoth.imp ?_)
    rintro ⟨name, v⟩ ⟨_, v'⟩ ⟨hName, rfl, hv⟩
    exact .intro hName.1 hv
  matching {input input'} regex h := by
    refine .single (by decide) (.fields ?_)
    cases caseSensitive <;> simp [h]

namespace Call

variable {args args' : List Argument}

theorem alike_values (h : List.Forall₂ Argument.Alike args args') :
    OutcomesAlike (List.Forall₂ Value.Alike) (values args) (values args') :=
  OutcomesAlike.iff_correspond.mpr (rel_values (h.imp fun _ _ ha => ha.corresponds))

theorem alike_likeCall (caseSensitive : Bool) {a a' b b' : Argument} (ha : a.Alike a')
    (hb : b.Alike b') :
    OutcomesAlike Value.Alike (likeCall caseSensitive a b) (likeCall caseSensitive a' b') :=
  OutcomesAlike.iff_correspond.mpr
    (rel_likeCall (Value.Alike.congruence caseSensitive) ha.corresponds hb.corresponds)

end Call

/-- Calls by the same name compile alike if their arguments do. A random number is the same whatever
it is called with. -/
theorem Function.alike_compile (caseSensitive : Bool) {f f' : Function} {args args' : List Argument}
    (hf : f.folded = f'.folded) (hLength : args.length = args'.length)
    (h : f.standard? ≠ some .rnd → List.Forall₂ Argument.Alike args args') :
    OutcomesAlike Value.Alike (f.compile caseSensitive args) (f'.compile caseSensitive args') := by
  rw [OutcomesAlike.iff_correspond]
  refine rel_compile (Value.Alike.congruence caseSensitive) hf (fun _ => .argumentCount rfl) ?_
    hLength
    fun hRandom => (h hRandom).imp fun _ _ ha => ha.corresponds
  rintro tag tag' rfl rfl
  have hTag : Text.lower tag = Text.lower tag' := Function.custom.inj hf
  exact ⟨.unsupportedFunction hTag, .argumentCount hTag⟩

end RelPipe
