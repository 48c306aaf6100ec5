import RelPipe.Proofs.Compile.Reads
import RelPipe.Proofs.Scoping.JoinConditions

/-!
The names that the paths of a statement are made of: those of its columns and properties in normal
form and the aliases of its joins, those of its subqueries among them. The names of a part are among
the names of the whole.
-/

namespace RelPipe

set_option autoImplicit false

mutual

def Expression.pathNames : Expression → List String
  | .column ref => [ColumnName.normalize ref.name]
  | .property name => [ColumnName.normalize name]
  | .constant _ => []
  | .unary _ e => e.pathNames
  | .binary _ l r => l.pathNames ++ r.pathNames
  | .between t l h => t.pathNames ++ l.pathNames ++ h.pathNames
  | .member l cs => l.pathNames ++ Expression.pathNamesAll cs
  | .group _ es => Expression.pathNamesAll es
  | .call _ es => Expression.pathNamesAll es
  | .aggregate a => a.pathNames
termination_by structural e => e

def Expression.pathNamesAll : List Expression → List String
  | [] => []
  | e :: rest => e.pathNames ++ Expression.pathNamesAll rest
termination_by structural es => es

def Expression.pathNamesOption : Option Expression → List String
  | none => []
  | some e => e.pathNames
termination_by structural e => e

def Aggregate.pathNames : Aggregate → List String
  | ⟨_, target, s⟩ => Expression.pathNamesOption target ++ Statement.pathNamesOption s
termination_by structural a => a

def OutputColumn.pathNamesAll : List OutputColumn → List String
  | [] => []
  | ⟨e, _⟩ :: rest => e.pathNames ++ OutputColumn.pathNamesAll rest
termination_by structural os => os

def SortKey.pathNamesAll : List SortKey → List String
  | [] => []
  | ⟨e, _⟩ :: rest => e.pathNames ++ SortKey.pathNamesAll rest
termination_by structural ks => ks

def JoinNode.pathNamesAll : List JoinNode → List String
  | [] => []
  | ⟨table, aliasName, kind, condition, joins⟩ :: rest =>
    JoinNode.declaredAlias ⟨table, aliasName, kind, condition, joins⟩
      :: Expression.pathNamesOption condition
      ++ JoinNode.pathNamesAll joins ++ JoinNode.pathNamesAll rest
termination_by structural ns => ns

def Statement.pathNames : Statement → List String
  | ⟨_, _, operands, condition, joins, groupBy, having, sorts, _, _⟩ =>
    OutputColumn.pathNamesAll operands ++ Expression.pathNamesOption condition
      ++ Expression.pathNamesAll groupBy ++ Expression.pathNamesOption having
      ++ SortKey.pathNamesAll sorts ++ JoinNode.pathNamesAll joins
termination_by structural s => s

def Statement.pathNamesOption : Option Statement → List String
  | none => []
  | some s => s.pathNames
termination_by structural s => s

end

theorem Expression.pathNamesAll_eq (es : List Expression) :
    pathNamesAll es = es.flatMap pathNames := by
  induction es with
  | nil => rfl
  | cons e es ih => rw [pathNamesAll, ih, List.flatMap_cons]

theorem Expression.pathNamesOption_eq (e : Option Expression) :
    pathNamesOption e = e.toList.flatMap pathNames := by
  cases e <;> simp [pathNamesOption]

theorem OutputColumn.pathNamesAll_eq (os : List OutputColumn) :
    pathNamesAll os = (os.map (·.expression)).flatMap Expression.pathNames := by
  induction os with
  | nil => rfl
  | cons o os ih =>
    obtain ⟨e, name⟩ := o
    rw [pathNamesAll, ih, List.map_cons, List.flatMap_cons]

theorem SortKey.pathNamesAll_eq (ks : List SortKey) :
    pathNamesAll ks = (ks.map (·.expression)).flatMap Expression.pathNames := by
  induction ks with
  | nil => rfl
  | cons k ks ih =>
    obtain ⟨e, direction⟩ := k
    rw [pathNamesAll, ih, List.map_cons, List.flatMap_cons]

theorem Statement.pathNames_eq (s : Statement) :
    s.pathNames = s.expressions.flatMap Expression.pathNames ++ JoinNode.pathNamesAll s.joins := by
  obtain ⟨table, aliasName, operands, condition, joins, groupBy, having, sorts, skip, limit⟩ := s
  simp only [pathNames, expressions, OutputColumn.pathNamesAll_eq, SortKey.pathNamesAll_eq,
    Expression.pathNamesAll_eq, Expression.pathNamesOption_eq, List.flatMap_append]

/-! The names of parts -/

theorem Expression.subset_pathNamesAll {es : List Expression} {e : Expression} (h : e ∈ es) :
    e.pathNames ⊆ pathNamesAll es := by
  rw [pathNamesAll_eq]
  exact fun name hName => List.mem_flatMap.mpr ⟨e, h, hName⟩

theorem Aggregate.target_subset {a : Aggregate} {t : Expression} (h : a.target = some t) :
    t.pathNames ⊆ a.pathNames := by
  obtain ⟨kind, target, statement⟩ := a
  cases h
  exact List.subset_append_left _ _

theorem Aggregate.statement_subset {a : Aggregate} {s : Statement} (h : a.statement = some s) :
    s.pathNames ⊆ a.pathNames := by
  obtain ⟨kind, target, statement⟩ := a
  cases h
  exact List.subset_append_right _ _

theorem Expression.pathNames_child_subset {e c : Expression} (h : c ∈ e.children) :
    c.pathNames ⊆ e.pathNames := by
  cases e with
  | column _ | property _ | constant _ => cases h
  | unary op e =>
    obtain rfl := List.mem_singleton.mp h
    exact List.Subset.refl _
  | binary op l r =>
    obtain rfl | rfl := List.mem_pair.mp h
    · exact List.subset_append_left _ _
    · exact List.subset_append_right _ _
  | between t l u =>
    obtain rfl | h := List.mem_cons.mp h
    · exact List.subset_append_of_subset_left _ (List.subset_append_left _ _)
    · obtain rfl | rfl := List.mem_pair.mp h
      · exact List.subset_append_of_subset_left _ (List.subset_append_right _ _)
      · exact List.subset_append_right _ _
  | member l cs =>
    obtain rfl | h := List.mem_cons.mp h
    · exact List.subset_append_left _ _
    · exact List.subset_append_of_subset_right _ (subset_pathNamesAll h)
  | group op es => exact subset_pathNamesAll h
  | call f es => exact subset_pathNamesAll h
  | aggregate a => exact Aggregate.target_subset (Option.mem_toList.mp h)

theorem Expression.LocalPart.pathNames_subset {q e : Expression} (h : q.LocalPart e) :
    q.pathNames ⊆ e.pathNames := by
  induction h with
  | self => exact List.Subset.refl _
  | child hc _ ih =>
    exact List.Subset.trans ih (pathNames_child_subset (mem_children_of_mem_localChildren hc))

/-- What an expression is compiled from has no other names than the expression. -/
theorem Expression.pathNames_input_subset {e c : Expression} (h : c ∈ e.inputs) :
    c.pathNames ⊆ e.pathNames := by
  cases e with
  | unary op e =>
    by_cases hNot : op = .not
    · subst hNot
      cases hComplement : e.complement? with
      | none =>
        rw [inputs_not hComplement] at h
        exact pathNames_child_subset h
      | some d =>
        rw [inputs_not_of_complement? hComplement] at h
        obtain rfl := List.mem_singleton.mp h
        refine complement_of_children (P := fun d => d.pathNames ⊆ e.pathNames) ?_ ?_ hComplement
          fun d => pathNames_child_subset
        · exact fun op l r hl hr => List.append_subset.mpr ⟨hl, hr⟩
        · intro op es hes name hName
          rw [pathNames, pathNamesAll_eq] at hName
          obtain ⟨d, hd, hName⟩ := List.mem_flatMap.mp hName
          exact hes d hd hName
    · rw [inputs_unary hNot] at h
      exact pathNames_child_subset h
  | call f es =>
    rw [inputs] at h
    split at h
    · cases h
    · exact pathNames_child_subset h
  | aggregate a => cases h
  | _ => exact pathNames_child_subset h

theorem JoinNode.mem_pathNamesAll {n : JoinNode} {name : String}
    (hName : name = n.declaredAlias ∨ ∃ e, n.condition = some e ∧ name ∈ e.pathNames) :
    ∀ {ns : List JoinNode}, n ∈ preorder ns → name ∈ pathNamesAll ns
  | [], hn => by cases hn
  | ⟨table, aliasName, kind, condition, joins⟩ :: rest, hn => by
    simp only [pathNamesAll, List.mem_cons, List.mem_append]
    obtain rfl | hn | hn := mem_preorder_cons.mp hn
    · obtain rfl | ⟨e, he, hName⟩ := hName
      · exact .inl (.inl (.inl rfl))
      · cases he
        exact .inl (.inl (.inr hName))
    · exact .inl (.inr (mem_pathNamesAll hName hn))
    · exact .inr (mem_pathNamesAll hName hn)

theorem Statement.expression_subset {s : Statement} {e : Expression} (h : e ∈ s.expressions) :
    e.pathNames ⊆ s.pathNames := by
  rw [pathNames_eq]
  exact List.subset_append_of_subset_left _ fun name hName => List.mem_flatMap.mpr ⟨e, h, hName⟩

theorem Statement.declaredAlias_mem_pathNames {s : Statement} {n : JoinNode} (h : n ∈ s.joinNodes) :
    n.declaredAlias ∈ s.pathNames := by
  rw [pathNames_eq]
  exact List.mem_append_right _ (JoinNode.mem_pathNamesAll (.inl rfl) h)

theorem Statement.joinCondition_subset {s : Statement} {n : JoinNode} (h : n ∈ s.joinNodes)
    {e : Expression} (he : n.condition = some e) : e.pathNames ⊆ s.pathNames := by
  rw [pathNames_eq]
  exact List.subset_append_of_subset_right _ fun name hName =>
    JoinNode.mem_pathNamesAll (.inr ⟨e, he, hName⟩) h

/-! The names of outer columns -/

section

variable {ref : ColumnRef}

mutual

theorem Expression.mem_pathNames_of_outer (declared : List (CaselessMap Unit)) (e : Expression)
    (h : ref ∈ e.outerColumns declared) : ColumnName.normalize ref.name ∈ e.pathNames := by
  cases e with
  | column r =>
    obtain rfl := ColumnRef.eq_of_mem_outer h
    exact .head _
  | property _ | constant _ => cases h
  | unary op e => exact Expression.mem_pathNames_of_outer declared e h
  | binary op l r =>
    obtain h | h := List.mem_append.mp h
    · exact List.mem_append_left _ (Expression.mem_pathNames_of_outer declared l h)
    · exact List.mem_append_right _ (Expression.mem_pathNames_of_outer declared r h)
  | between t l u =>
    obtain h | h := List.mem_append.mp h
    · refine List.mem_append_left _ ?_
      obtain h | h := List.mem_append.mp h
      · exact List.mem_append_left _ (Expression.mem_pathNames_of_outer declared t h)
      · exact List.mem_append_right _ (Expression.mem_pathNames_of_outer declared l h)
    · exact List.mem_append_right _ (Expression.mem_pathNames_of_outer declared u h)
  | member l cs =>
    obtain h | h := List.mem_append.mp h
    · exact List.mem_append_left _ (Expression.mem_pathNames_of_outer declared l h)
    · exact List.mem_append_right _ (Expression.mem_pathNamesAll_of_outer declared cs h)
  | group op es => exact Expression.mem_pathNamesAll_of_outer declared es h
  | call f es => exact Expression.mem_pathNamesAll_of_outer declared es h
  | aggregate a => exact Aggregate.mem_pathNames_of_outer declared a h
termination_by structural e

theorem Expression.mem_pathNamesAll_of_outer (declared : List (CaselessMap Unit))
    (es : List Expression) (h : ref ∈ Expression.outerColumnsAll declared es) :
    ColumnName.normalize ref.name ∈ Expression.pathNamesAll es := by
  cases es with
  | nil => cases h
  | cons e es =>
    obtain h | h := List.mem_append.mp h
    · exact List.mem_append_left _ (Expression.mem_pathNames_of_outer declared e h)
    · exact List.mem_append_right _ (Expression.mem_pathNamesAll_of_outer declared es h)
termination_by structural es

theorem Expression.mem_pathNamesOption_of_outer (declared : List (CaselessMap Unit))
    (e : Option Expression) (h : ref ∈ Expression.outerColumnsOption declared e) :
    ColumnName.normalize ref.name ∈ Expression.pathNamesOption e := by
  cases e with
  | none => cases h
  | some e => exact Expression.mem_pathNames_of_outer declared e h
termination_by structural e

theorem Aggregate.mem_pathNames_of_outer (declared : List (CaselessMap Unit)) (a : Aggregate)
    (h : ref ∈ a.outerColumns declared) : ColumnName.normalize ref.name ∈ a.pathNames := by
  match a with
  | ⟨_, target, none⟩ =>
    exact List.mem_append_left _ (Expression.mem_pathNamesOption_of_outer declared target h)
  | ⟨_, target, some ⟨_, root, operands, condition, joins, groupBy, having, sorts, _, _⟩⟩ =>
    simp only [Aggregate.outerColumns, List.mem_append] at h
    simp only [Aggregate.pathNames, Statement.pathNamesOption, Statement.pathNames, List.mem_append]
    obtain (h | (((h | h) | h) | h) | h) | h := h
    · exact .inl (Expression.mem_pathNamesOption_of_outer _ target h)
    · exact .inr (.inl (.inl (.inl (.inl (.inl
        (OutputColumn.mem_pathNamesAll_of_outer _ operands h))))))
    · exact .inr (.inl (.inl (.inl (.inl (.inr
        (Expression.mem_pathNamesOption_of_outer _ condition h))))))
    · exact .inr (.inl (.inl (.inl (.inr (Expression.mem_pathNamesAll_of_outer _ groupBy h)))))
    · exact .inr (.inl (.inl (.inr (Expression.mem_pathNamesOption_of_outer _ having h))))
    · exact .inr (.inl (.inr (SortKey.mem_pathNamesAll_of_outer _ sorts h)))
    · exact .inr (.inr (JoinNode.mem_pathNamesAll_of_outer _ joins h))
termination_by structural a

theorem OutputColumn.mem_pathNamesAll_of_outer (declared : List (CaselessMap Unit))
    (os : List OutputColumn) (h : ref ∈ OutputColumn.outerColumnsAll declared os) :
    ColumnName.normalize ref.name ∈ OutputColumn.pathNamesAll os := by
  match os with
  | [] => cases h
  | ⟨e, _⟩ :: os =>
    obtain h | h := List.mem_append.mp h
    · exact List.mem_append_left _ (Expression.mem_pathNames_of_outer declared e h)
    · exact List.mem_append_right _ (OutputColumn.mem_pathNamesAll_of_outer declared os h)
termination_by structural os

theorem SortKey.mem_pathNamesAll_of_outer (declared : List (CaselessMap Unit))
    (ks : List SortKey) (h : ref ∈ SortKey.outerColumnsAll declared ks) :
    ColumnName.normalize ref.name ∈ SortKey.pathNamesAll ks := by
  match ks with
  | [] => cases h
  | ⟨e, _⟩ :: ks =>
    obtain h | h := List.mem_append.mp h
    · exact List.mem_append_left _ (Expression.mem_pathNames_of_outer declared e h)
    · exact List.mem_append_right _ (SortKey.mem_pathNamesAll_of_outer declared ks h)
termination_by structural ks

theorem JoinNode.mem_pathNamesAll_of_outer (declared : List (CaselessMap Unit))
    (ns : List JoinNode) (h : ref ∈ JoinNode.outerColumnsAll declared ns) :
    ColumnName.normalize ref.name ∈ JoinNode.pathNamesAll ns := by
  match ns with
  | [] => cases h
  | ⟨table, aliasName, kind, condition, joins⟩ :: ns =>
    simp only [JoinNode.outerColumnsAll, List.mem_append] at h
    simp only [JoinNode.pathNamesAll, List.mem_cons, List.mem_append]
    obtain (h | h) | h := h
    · exact .inl (.inl (.inr (Expression.mem_pathNamesOption_of_outer declared condition h)))
    · exact .inl (.inr (JoinNode.mem_pathNamesAll_of_outer declared joins h))
    · exact .inr (JoinNode.mem_pathNamesAll_of_outer declared ns h)
termination_by structural ns

end

end

end RelPipe
