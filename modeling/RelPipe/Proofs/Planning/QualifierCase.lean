import RelPipe.Proofs.Projection.Varied

/-!
The letter case of qualifiers. Two statements that differ in nothing else, and whose operands are
named by aliases, come to one plan or fail for the same cause: both are compiled as the statement
in which every qualifier is replaced by one representative of its letter cases.
-/

namespace RelPipe

set_option autoImplicit false

/-- Two statements are the same but for the letter case of the qualifiers of columns, at any
depth. -/
def Statement.SameButQualifierCase (s s' : Statement) : Prop :=
  s.requalify Text.lower = s'.requalify Text.lower

instance : DecidableRel Statement.SameButQualifierCase :=
  fun s s' => decEq (s.requalify Text.lower) (s'.requalify Text.lower)

/-! Operands that are named by aliases -/

theorem OutputColumn.fieldNamesFrom_requalify (f : String → String) {os : List OutputColumn}
    (h : ∀ o ∈ os, o.explicitAlias? ≠ none) (index : Nat) (used : CaselessMap Unit) :
    fieldNamesFrom index used (os.map (requalify f)) = fieldNamesFrom index used os := by
  induction os generalizing index used with
  | nil => rfl
  | cons o os ih =>
    obtain ⟨hHead, hTail⟩ := List.forall_mem_cons.mp h
    obtain ⟨name, hName⟩ := Option.ne_none_iff_exists'.mp hHead
    have hName' : (o.requalify f).explicitAlias? = some name := by
      rw [explicitAlias?, aliasName_requalify]
      exact hName
    have hField : (o.requalify f).fieldName index used = o.fieldName index used := by
      simp only [fieldName, hName, hName']
    rw [List.map_cons, fieldNamesFrom, fieldNamesFrom, hField, ih hTail]

/-! One representative for all letter cases -/

def Variation.respelling (caseSensitive : Bool) {f : String → String} (hf : KeepsCaseless f) :
    Variation caseSensitive caseSensitive where
  qualifier := f
  keepsCaseless := hf
  value := id
  value_atom _ := rfl
  value_array items := by rw [List.map_id, id]
  value_document _ := congrArg Value.document (List.map_id _).symm
  value_matching _ _ := rfl
  mentionsVariable_value _ := rfl

theorem Plan.vary_respelling (caseSensitive : Bool) {f : String → String} (hf : KeepsCaseless f)
    (p : Plan) : p.vary (.respelling caseSensitive hf) = p := by
  obtain ⟨collection, stages⟩ := p
  exact congrArg (Plan.mk collection) (List.map_id stages)

/-- Some name of the same lower-case spelling, the same for all of them. -/
noncomputable def Text.representative (name : String) : String :=
  Function.invFun Text.lower (Text.lower name)

theorem Text.keepsCaseless_representative : KeepsCaseless Text.representative :=
  fun name => Function.invFun_eq ⟨name, rfl⟩

namespace Statement

theorem SameButQualifierCase.requalify_eq {s s' : Statement} (h : s.SameButQualifierCase s') :
    s.requalify Text.representative = s'.requalify Text.representative := by
  have hSplit : Text.representative = Function.invFun Text.lower ∘ Text.lower := rfl
  rw [hSplit, ← requalify_requalify, ← requalify_requalify, h]

theorem explicitAlias_requalify {s : Statement} (f : String → String)
    (h : ∀ o ∈ s.operands, o.explicitAlias? ≠ none) :
    OutputColumn.fieldNames (s.requalify f).operands = OutputColumn.fieldNames s.operands := by
  rw [requalify_eq]
  exact OutputColumn.fieldNamesFrom_requalify f h 0 .empty

theorem follows_representative {s : Statement} (h : ∀ o ∈ s.operands, o.explicitAlias? ≠ none)
    (caseSensitive : Bool) :
    Correspond (fun e e' => e' = e.requalify Text.representative) (fun r r' => r'.1 = r.1)
      (s.compile caseSensitive) ((s.requalify Text.representative).compile caseSensitive) := by
  have hFollows := follows_compile
    (.respelling caseSensitive Text.keepsCaseless_representative) (explicitAlias_requalify _ h)
  exact hFollows.imp (fun _ _ he => he) fun _ _ hr => hr.1.trans (Plan.vary_respelling _ _ _)

/-- Two statements that differ only in the letter case of qualifiers, and whose operands have
aliases of their own, either come to the same plan or both fail, for causes of one kind that differ
only in the letter case of the qualifiers that they name. -/
theorem compile_of_sameButQualifierCase {s s' : Statement} (h : s.SameButQualifierCase s')
    (hAliases : ∀ o ∈ s.operands, o.explicitAlias? ≠ none) (caseSensitive : Bool) :
    Correspond
      (fun e e' => e.ctorIdx = e'.ctorIdx ∧ e.requalify Text.lower = e'.requalify Text.lower)
      (fun r r' => r.1 = r'.1) (s.compile caseSensitive) (s'.compile caseSensitive) := by
  have hAliases' : ∀ o ∈ s'.operands, o.explicitAlias? ≠ none := by
    have hOperands : s.operands.map (OutputColumn.requalify Text.lower) =
        s'.operands.map (OutputColumn.requalify Text.lower) := by
      have hSame := congrArg Statement.operands h
      rwa [Statement.requalify_eq, Statement.requalify_eq] at hSame
    intro o ho
    obtain ⟨other, hOther, hSame⟩ :=
      List.mem_map.mp (hOperands ▸ List.mem_map_of_mem (f := OutputColumn.requalify Text.lower) ho)
    have hName := congrArg OutputColumn.aliasName hSame
    rw [OutputColumn.aliasName_requalify, OutputColumn.aliasName_requalify] at hName
    rw [OutputColumn.explicitAlias?, ← hName]
    exact hAliases other hOther
  have hFollows := follows_representative hAliases caseSensitive
  have hFollows' := follows_representative hAliases' caseSensitive
  rw [← h.requalify_eq] at hFollows'
  revert hFollows hFollows'
  generalize s.compile caseSensitive = x, s'.compile caseSensitive = x',
    (s.requalify Text.representative).compile caseSensitive = y
  intro hFollows hFollows'
  have hLower : Text.lower ∘ Text.representative = Text.lower :=
    funext Text.keepsCaseless_representative
  cases hFollows with
  | ok h =>
    cases hFollows' with
    | ok h' => exact .ok (h.symm.trans h')
  | error h =>
    cases hFollows' with
    | error h' =>
      have hSame := h.symm.trans h'
      refine .error ⟨?_, ?_⟩
      · have hKind := congrArg CompileError.ctorIdx hSame
        rwa [CompileError.ctorIdx_requalify, CompileError.ctorIdx_requalify] at hKind
      · have hSpelling := congrArg (CompileError.requalify Text.lower) hSame
        rwa [CompileError.requalify_requalify, CompileError.requalify_requalify, hLower]
          at hSpelling

/-- The names of the people with a large order, joined with their towns. The qualifiers are given
for the statement and for its join. -/
def buyers (person town : String) : Statement :=
  { Statement.empty with
    table := "People"
    aliasName := some "p"
    operands := [⟨.column ⟨some person, "Name", .string⟩, some "name"⟩,
      ⟨.column ⟨some town, "Name", .string⟩, some "town"⟩]
    joins := [⟨"Towns", some "t", .left, some (.binary .equal (.column ⟨some town, "Id", .int32⟩)
      (.column ⟨some person, "TownId", .int32⟩)), []⟩]
    condition := some (.aggregate ⟨.exists, none, some
      { Statement.empty with
        table := "Orders"
        aliasName := some "o"
        condition := some (.group .and
          [.binary .equal (.column ⟨some "o", "Buyer", .int32⟩)
            (.column ⟨some person, "Id", .int32⟩),
           .binary .greater (.column ⟨some "o", "Total", .double⟩) (.constant (.int32 100))]) }⟩) }

theorem compile_of_sameButQualifierCase_buyers :
    (buyers "P" "T").SameButQualifierCase (buyers "p" "t") ∧ buyers "P" "T" ≠ buyers "p" "t" ∧
      (∀ o ∈ (buyers "P" "T").operands, o.explicitAlias? ≠ none) ∧
      ((buyers "P" "T").compile false).isOk = true ∧
      Correspond
        (fun e e' => e.ctorIdx = e'.ctorIdx ∧ e.requalify Text.lower = e'.requalify Text.lower)
        (fun r r' => r.1 = r'.1) ((buyers "P" "T").compile false)
        ((buyers "p" "t").compile false) := by
  have hSame : (buyers "P" "T").SameButQualifierCase (buyers "p" "t") := by decide +kernel
  have hAliases : ∀ o ∈ (buyers "P" "T").operands, o.explicitAlias? ≠ none := by
    decide +kernel
  exact ⟨hSame, by decide +kernel, hAliases, rfl,
    compile_of_sameButQualifierCase hSame hAliases false⟩

end Statement

end RelPipe
