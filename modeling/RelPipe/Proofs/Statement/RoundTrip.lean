import RelPipe.Report
import RelPipe.Proofs.Json.RoundTrip
import RelPipe.Proofs.Statement.Encoding

/-!
Every statement whose constants can be written exactly is read back from its JSON value, and from
the text of that value unless it nests deeper than the reader looks.
-/

namespace RelPipe

set_option autoImplicit false

open Json

/-! The constants of a statement, those of its joins and subqueries included -/

mutual

def Expression.constants : Expression → List Constant
  | .column _ | .property _ => []
  | .constant c => [c]
  | .unary _ operand => operand.constants
  | .binary _ left right => left.constants ++ right.constants
  | .between test low high => test.constants ++ (low.constants ++ high.constants)
  | .member left candidates => left.constants ++ Expression.allConstants candidates
  | .group _ operands => Expression.allConstants operands
  | .call _ arguments => Expression.allConstants arguments
  | .aggregate ref => ref.constants
termination_by structural e => e

def Expression.allConstants : List Expression → List Constant
  | [] => []
  | e :: rest => e.constants ++ Expression.allConstants rest
termination_by structural es => es

def Expression.optionConstants : Option Expression → List Constant
  | none => []
  | some e => e.constants
termination_by structural e => e

def Aggregate.constants : Aggregate → List Constant
  | ⟨_, target, statement⟩ =>
    Expression.optionConstants target ++ Statement.optionConstants statement
termination_by structural a => a

def OutputColumn.constants : OutputColumn → List Constant
  | ⟨e, _⟩ => e.constants
termination_by structural o => o

def OutputColumn.allConstants : List OutputColumn → List Constant
  | [] => []
  | o :: rest => o.constants ++ OutputColumn.allConstants rest
termination_by structural os => os

def SortKey.constants : SortKey → List Constant
  | ⟨e, _⟩ => e.constants
termination_by structural k => k

def SortKey.allConstants : List SortKey → List Constant
  | [] => []
  | k :: rest => k.constants ++ SortKey.allConstants rest
termination_by structural ks => ks

def JoinNode.constants : JoinNode → List Constant
  | ⟨_, _, _, condition, joins⟩ =>
    Expression.optionConstants condition ++ JoinNode.allConstants joins
termination_by structural n => n

def JoinNode.allConstants : List JoinNode → List Constant
  | [] => []
  | n :: rest => n.constants ++ JoinNode.allConstants rest
termination_by structural ns => ns

def Statement.constants : Statement → List Constant
  | ⟨_, _, operands, condition, joins, groupBy, having, sorts, _, _⟩ =>
    OutputColumn.allConstants operands ++ (Expression.optionConstants condition ++
      (JoinNode.allConstants joins ++ (Expression.allConstants groupBy ++
        (Expression.optionConstants having ++ SortKey.allConstants sorts))))
termination_by structural s => s

def Statement.optionConstants : Option Statement → List Constant
  | none => []
  | some s => s.constants
termination_by structural s => s

end

mutual

theorem Expression.roundTrips : (e : Expression) → (∀ c ∈ e.constants, c.IsExact) →
    RoundTrips e.toJson? Expression.decode? e
  | .column c, _ => Expression.roundTrips_column c
  | .property name, _ => Expression.roundTrips_property name
  | .constant c, h => Expression.roundTrips_constant (h c (.head _))
  | .unary op operand, h => Expression.roundTrips_unary op (operand.roundTrips h)
  | .binary op left right, h => by
    obtain ⟨hLeft, hRight⟩ := List.forall_mem_append.mp h
    exact Expression.roundTrips_binary op (left.roundTrips hLeft) (right.roundTrips hRight)
  | .between test low high, h => by
    obtain ⟨hTest, hRange⟩ := List.forall_mem_append.mp h
    obtain ⟨hLow, hHigh⟩ := List.forall_mem_append.mp hRange
    exact Expression.roundTrips_between (test.roundTrips hTest) (low.roundTrips hLow)
      (high.roundTrips hHigh)
  | .member left candidates, h => by
    obtain ⟨hLeft, hCandidates⟩ := List.forall_mem_append.mp h
    exact Expression.roundTrips_member (left.roundTrips hLeft)
      (Expression.roundTripAll candidates hCandidates)
  | .group op operands, h =>
    Expression.roundTrips_group op (Expression.roundTripAll operands h)
  | .call f arguments, h =>
    Expression.roundTrips_call f (Expression.roundTripAll arguments h)
  | .aggregate ref, h => ref.roundTrips h
termination_by structural e => e

theorem Expression.roundTripAll : (es : List Expression) →
    (∀ c ∈ Expression.allConstants es, c.IsExact) →
      RoundTripAll (Expression.allToJson? es) Expression.decode? es
  | [], _ => .nil
  | e :: rest, h => by
    obtain ⟨hHead, hRest⟩ := List.forall_mem_append.mp h
    exact .cons (e.roundTrips hHead) (Expression.roundTripAll rest hRest)
termination_by structural es => es

theorem Expression.optionRoundTrips : (e : Option Expression) →
    (∀ c ∈ Expression.optionConstants e, c.IsExact) →
      OptionRoundTrips (Expression.optionToJson? e) Expression.decode? e
  | none, _ => .none
  | some e, h => (e.roundTrips h).some
termination_by structural e => e

theorem Aggregate.roundTrips : (a : Aggregate) → (∀ c ∈ a.constants, c.IsExact) →
    RoundTrips (Expression.aggregate a).toJson? Expression.decode? (.aggregate a)
  | ⟨_, target, statement⟩, h => by
    obtain ⟨hTarget, hStatement⟩ := List.forall_mem_append.mp h
    exact Expression.roundTrips_aggregate (Expression.optionRoundTrips target hTarget)
      (Statement.optionRoundTrips statement hStatement)
termination_by structural a => a

theorem OutputColumn.roundTrips : (o : OutputColumn) → (∀ c ∈ o.constants, c.IsExact) →
    RoundTrips o.toJson? OutputColumn.decode? o
  | ⟨e, aliasName⟩, h => OutputColumn.roundTrips_of_expression aliasName (e.roundTrips h)
termination_by structural o => o

theorem OutputColumn.roundTripAll : (os : List OutputColumn) →
    (∀ c ∈ OutputColumn.allConstants os, c.IsExact) →
      RoundTripAll (OutputColumn.allToJson? os) OutputColumn.decode? os
  | [], _ => .nil
  | o :: rest, h => by
    obtain ⟨hHead, hRest⟩ := List.forall_mem_append.mp h
    exact .cons (o.roundTrips hHead) (OutputColumn.roundTripAll rest hRest)
termination_by structural os => os

theorem SortKey.roundTrips : (k : SortKey) → (∀ c ∈ k.constants, c.IsExact) →
    RoundTrips k.toJson? SortKey.decode? k
  | ⟨e, direction⟩, h => SortKey.roundTrips_of_expression direction (e.roundTrips h)
termination_by structural k => k

theorem SortKey.roundTripAll : (ks : List SortKey) →
    (∀ c ∈ SortKey.allConstants ks, c.IsExact) →
      RoundTripAll (SortKey.allToJson? ks) SortKey.decode? ks
  | [], _ => .nil
  | k :: rest, h => by
    obtain ⟨hHead, hRest⟩ := List.forall_mem_append.mp h
    exact .cons (k.roundTrips hHead) (SortKey.roundTripAll rest hRest)
termination_by structural ks => ks

theorem JoinNode.roundTrips : (n : JoinNode) → (∀ c ∈ n.constants, c.IsExact) →
    RoundTrips n.toJson? JoinNode.decode? n
  | ⟨_, _, _, condition, joins⟩, h => by
    obtain ⟨hCondition, hJoins⟩ := List.forall_mem_append.mp h
    exact JoinNode.roundTrips_of_parts (Expression.optionRoundTrips condition hCondition)
      (JoinNode.roundTripAll joins hJoins)
termination_by structural n => n

theorem JoinNode.roundTripAll : (ns : List JoinNode) →
    (∀ c ∈ JoinNode.allConstants ns, c.IsExact) →
      RoundTripAll (JoinNode.allToJson? ns) JoinNode.decode? ns
  | [], _ => .nil
  | n :: rest, h => by
    obtain ⟨hHead, hRest⟩ := List.forall_mem_append.mp h
    exact .cons (n.roundTrips hHead) (JoinNode.roundTripAll rest hRest)
termination_by structural ns => ns

theorem Statement.roundTrips : (s : Statement) → (∀ c ∈ s.constants, c.IsExact) →
    RoundTrips s.toJson? Statement.decode? s
  | ⟨_, _, operands, condition, joins, groupBy, having, sorts, _, _⟩, h => by
    simp only [Statement.constants, List.forall_mem_append] at h
    obtain ⟨hOperands, hCondition, hJoins, hGroupBy, hHaving, hSorts⟩ := h
    exact Statement.roundTrips_of_parts (OutputColumn.roundTripAll operands hOperands)
      (Expression.optionRoundTrips condition hCondition) (JoinNode.roundTripAll joins hJoins)
      (Expression.roundTripAll groupBy hGroupBy) (Expression.optionRoundTrips having hHaving)
      (SortKey.roundTripAll sorts hSorts)
termination_by structural s => s

theorem Statement.optionRoundTrips : (s : Option Statement) →
    (∀ c ∈ Statement.optionConstants s, c.IsExact) →
      OptionRoundTrips (Statement.optionToJson? s) Statement.decode? s
  | none, _ => .none
  | some s, h => (s.roundTrips h).some
termination_by structural s => s

end

namespace Statement

/-- The text that a statement is written as is read as the statement, or refused if it nests too
deeply. -/
theorem statement?_text {s : Statement} (h : RoundTrips s.toJson? Statement.decode? s) {j : Json}
    (hWritten : s.toJson? = some j) :
    Report.statement? j.text = if j.depth ≤ 127 then some s else none := by
  obtain ⟨members, hMembers, hMembersExact, hReads⟩ := h
  obtain rfl : Json.object members = j := Option.some.inj (hMembers.symm.trans hWritten)
  have hExact : (Json.object members).isExact = true := hMembersExact
  rw [Report.statement?, Report.maxNesting, ofTextWithin?_text hExact, Option.bind_some]
  split
  · rename_i hDepth
    rw [within_of_depth_le _ hDepth]
    exact hReads.value _ (Nat.lt_succ_self _)
  · rename_i hDepth
    exact hReads.refused _ _ (Nat.lt_of_not_le hDepth)

/-- A statement whose constants can be written exactly is read back from its JSON value, however
deeply it is nested. From the text of that value it is read back just if arrays and objects nest at
most 127 levels. -/
theorem exists_json_roundTrip (s : Statement) (h : ∀ c ∈ s.constants, c.IsExact) :
    ∃ j, s.toJson? = some j ∧ Statement.ofJson? j = some s ∧
      Report.statement? j.text = if j.depth ≤ 127 then some s else none := by
  obtain ⟨members, hWritten, -, hReads⟩ := s.roundTrips h
  exact ⟨.object members, hWritten, hReads.value _ (Nat.lt_succ_self _),
    statement?_text (s.roundTrips h) hWritten⟩

def earlyVisits : Statement :=
  let orders : Statement :=
    ⟨"orders", none, [],
      some (.binary .equal (.column ⟨none, "buyer", .guid⟩) (.column ⟨some "p", "id", .guid⟩)),
      [], [], none, [], none, some 1⟩
  ⟨"visits", some "v",
    [⟨.column ⟨some "v", "note", .string⟩, some ""⟩,
      ⟨.call (.standard .lower) [.column ⟨some "p", "name", .string⟩], none⟩],
    some (.group .and [
      .binary .lessOrEqual (.column ⟨some "v", "at", .dateTime⟩) (.constant (.dateTime (-1))),
      .member (.column ⟨some "v", "key", .unknown⟩)
        [.constant (.guid ⟨0x67e5504410b1426f9247bb680e5fe0c8⟩), .constant (.bytes [0, 255]),
          .constant .null],
      .unary .not (.aggregate ⟨.exists, none, some orders⟩)]),
    [⟨"people", some "p", .left,
      some (.binary .equal (.column ⟨some "v", "person", .guid⟩) (.column ⟨some "p", "id", .guid⟩)),
      [⟨"cities", none, .inner, none, []⟩]⟩],
    [], none, [⟨.column ⟨some "v", "at", .dateTime⟩, .descending⟩], some 0, none⟩

theorem exists_json_earlyVisits :
    (∀ c ∈ earlyVisits.constants, c.IsExact) ∧
      ∃ j, earlyVisits.toJson? = some j ∧ Statement.ofJson? j = some earlyVisits ∧
        Report.statement? j.text = some earlyVisits := by
  have h : ∀ c ∈ earlyVisits.constants, c.IsExact := by decide +kernel
  have hDepth : earlyVisits.toJson?.map depth = some 13 := by decide +kernel
  obtain ⟨j, hWritten, hValue, hText⟩ := exists_json_roundTrip earlyVisits h
  rw [hWritten] at hDepth
  obtain hDepth : j.depth = 13 := Option.some.inj hDepth
  rw [hDepth, if_pos (by decide)] at hText
  exact ⟨h, j, hWritten, hValue, hText⟩

def negated (n : Nat) : Statement :=
  { Statement.empty with condition := some (Nat.repeat (.unary .not) n (.constant .null)) }

/-- Each negation nests two objects, and 63 of them are more than the reader takes. -/
theorem not_exists_json_roundTrip :
    (∀ c ∈ (negated 63).constants, c.IsExact) ∧
      ¬∃ j, (negated 63).toJson? = some j ∧ Report.statement? j.text = some (negated 63) := by
  have h : ∀ c ∈ (negated 63).constants, c.IsExact := by decide +kernel
  refine ⟨h, ?_⟩
  rintro ⟨j, hWritten, hText⟩
  have hDepth : (negated 63).toJson?.map depth = some 128 := by decide +kernel
  rw [hWritten] at hDepth
  obtain hDepth : j.depth = 128 := Option.some.inj hDepth
  rw [statement?_text ((negated 63).roundTrips h) hWritten, hDepth] at hText
  cases hText

end Statement

end RelPipe
