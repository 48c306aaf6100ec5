import Mathlib.Data.List.Forall2
import RelPipe.Compile.Planning
import RelPipe.Pipeline.Catalog
import RelPipe.Proofs.Document.Fields
import RelPipe.Proofs.Outcome

/-!
What the stages of a plan do to documents. A lookup runs its own pipeline for each document and
attaches what it finds as an array; unwinding the array right after spreads the document over it.
-/

namespace RelPipe

set_option autoImplicit false

theorem Value.isMissing_eq_false {v : Value} (h : v ≠ .undefined) : v.isMissing = false := by
  cases v with
  | undefined => exact absurd rfl h
  | _ => rfl

namespace Pipeline

theorem eachDocument_eq_ok_iff {f : Document → Result Document} {documents out : List Document} :
    eachDocument f documents = .ok out ↔
      List.Forall₂ (fun d d' => f d = .ok d') documents out := by
  induction documents generalizing out with
  | nil =>
    rw [eachDocument, List.forall₂_nil_left_iff]
    exact ⟨fun h => (Except.ok.inj h).symm, fun h => h ▸ rfl⟩
  | cons d documents ih =>
    constructor
    · intro h
      obtain ⟨first, hFirst, h⟩ := exists_of_bind_eq_ok h
      obtain ⟨others, hOthers, h⟩ := exists_of_bind_eq_ok h
      cases h
      exact .cons hFirst (ih.mp hOthers)
    · rintro (_ | ⟨hFirst, hOthers⟩)
      rw [eachDocument, hFirst, ih.mpr hOthers]
      rfl

theorem exists_eachDocument {f : Document → Result Document} {documents : List Document}
    (h : ∀ d ∈ documents, ∃ d', f d = .ok d') : ∃ out, eachDocument f documents = .ok out := by
  induction documents with
  | nil => exact ⟨[], rfl⟩
  | cons d documents ih =>
    obtain ⟨⟨first, hFirst⟩, hDocuments⟩ := List.forall_mem_cons.mp h
    obtain ⟨others, hOthers⟩ := ih hDocuments
    refine ⟨first :: others, ?_⟩
    rw [eachDocument, hFirst, hOthers]
    rfl

theorem filterStage_of_forall {vars : Variables} {filter : Document} {keep : Document → Bool}
    {documents : List Document} (h : ∀ d ∈ documents, satisfies ⟨d, vars⟩ filter = .ok (keep d)) :
    filterStage vars filter documents = .ok (documents.filter keep) := by
  induction documents with
  | nil => rfl
  | cons d documents ih =>
    obtain ⟨hHead, hTail⟩ := List.forall_mem_cons.mp h
    rw [filterStage, hHead, ih hTail, List.filter_cons]
    rfl

theorem sublist_of_filterStage {vars : Variables} {filter : Document}
    {documents kept : List Document} (h : filterStage vars filter documents = .ok kept) :
    kept.Sublist documents := by
  induction documents generalizing kept with
  | nil =>
    cases h
    exact .slnil
  | cons d documents ih =>
    obtain ⟨matched, _, h⟩ := exists_of_bind_eq_ok h
    obtain ⟨others, hOthers, h⟩ := exists_of_bind_eq_ok h
    cases h
    split
    · exact (ih hOthers).cons_cons d
    · exact (ih hOthers).cons d

/-! Computing and projecting fields -/

theorem evaluate_document {env : Environment} {fields : Document}
    (h : ∀ field ∈ fields, Text.dollar field.1 = false) :
    evaluate env (.document fields) = (evaluateFields env fields).map .document := by
  match fields with
  | [] => rfl
  | [(name, e)] =>
    have hName : Text.dollar name = false := h _ (.head _)
    rw [evaluate.eq_def]
    dsimp only
    rw [hName, if_neg Bool.false_ne_true, evaluateFields]
    cases evaluate env e with
    | error => rfl
    | ok v =>
      cases hMissing : v.isMissing <;>
        simp [evaluateFields, bind, Except.bind, Except.map, hMissing]
  | _ :: _ :: _ => rfl

def projected (env : Environment) (field : String) (spec : Value) : Result (Option Value) :=
  match flag? spec with
  | some true => .ok (env.document.path? field)
  | some false => .ok none
  | none => (evaluate env spec).map fun v => if v.isMissing then none else some v

theorem projectFields_cons (env : Environment) (key : String) (spec : Value) (rest : Document) :
    projectFields env ((key, spec) :: rest) = (projected env key spec).bind fun value =>
      (projectFields env rest).map fun fields => (value.map (key, ·)).toList ++ fields := by
  rw [projectFields, projected]
  cases flag? spec with
  | some keep =>
    cases keep with
    | true => cases env.document.path? key <;> cases projectFields env rest <;> rfl
    | false => cases projectFields env rest <;> rfl
  | none =>
    cases evaluate env spec with
    | error e => rfl
    | ok v =>
      cases hMissing : v.isMissing <;> cases projectFields env rest <;>
        simp [bind, Except.bind, Except.map, hMissing]

theorem exists_projectFields {env : Environment} {body : Document}
    (h : ∀ field ∈ body, ∃ value, projected env field.1 field.2 = .ok value) :
    ∃ out, projectFields env body = .ok out := by
  induction body with
  | nil => exact ⟨[], rfl⟩
  | cons field body ih =>
    obtain ⟨⟨value, hValue⟩, hBody⟩ := List.forall_mem_cons.mp h
    obtain ⟨fields, hFields⟩ := ih hBody
    refine ⟨(value.map (field.1, ·)).toList ++ fields, ?_⟩
    rw [projectFields_cons, hValue, hFields]
    rfl

theorem exists_of_projectFields_cons {env : Environment} {key : String} {spec : Value}
    {rest out : Document} (h : projectFields env ((key, spec) :: rest) = .ok out) :
    ∃ value fields, projected env key spec = .ok value ∧ projectFields env rest = .ok fields ∧
      out = (value.map (key, ·)).toList ++ fields := by
  rw [projectFields_cons] at h
  obtain ⟨value, hValue, h⟩ := exists_of_bind_eq_ok h
  obtain ⟨fields, hFields, rfl⟩ := exists_of_map_eq_ok h
  exact ⟨value, fields, hValue, hFields, rfl⟩

theorem names_projectFields {env : Environment} {body out : Document}
    (h : projectFields env body = .ok out) : (out.map Prod.fst).Sublist (body.map Prod.fst) := by
  induction body generalizing out with
  | nil =>
    cases h
    exact .refl _
  | cons field body ih =>
    obtain ⟨key, spec⟩ := field
    obtain ⟨value, fields, _, hFields, rfl⟩ := exists_of_projectFields_cons h
    cases value with
    | none => exact (ih hFields).cons key
    | some v => exact (ih hFields).cons_cons key

theorem get?_projectFields {env : Environment} {body out : Document}
    (hDistinct : Fields.Distinct body) (h : projectFields env body = .ok out) (name : String) :
    ((Fields.get? body name).elim (.ok none) (projected env name)) = .ok (Fields.get? out name) := by
  induction body generalizing out with
  | nil =>
    cases h
    rfl
  | cons field body ih =>
    obtain ⟨key, spec⟩ := field
    obtain ⟨hHead, hTail⟩ := List.nodup_cons.mp hDistinct
    obtain ⟨value, fields, hValue, hFields, rfl⟩ := exists_of_projectFields_cons h
    rw [Fields.get?_cons]
    by_cases hKey : key = name
    · subst hKey
      have hNone : Fields.get? fields key = none :=
        Fields.get?_eq_none_of_not_mem fun hName => hHead ((names_projectFields hFields).subset hName)
      rw [if_pos rfl, Option.elim_some, hValue]
      cases value <;> simp [hNone, Fields.get?_cons]
    · rw [if_neg hKey, ih hTail hFields]
      cases value <;> simp [hKey, Fields.get?_cons]

/-! Binding variables -/

theorem reference_variable (env : Environment) {name : String} (hPlain : '.' ∉ name.toList)
    (hSpecial : name ≠ "ROOT" ∧ name ≠ "CURRENT") :
    env.reference ("$$" ++ name) = (Fields.get? env.vars name).getD .undefined := by
  have hChars : ("$$" ++ name).toList = '$' :: '$' :: name.toList := by
    rw [String.toList_append]
    rfl
  simp only [Environment.reference, hChars]
  rw [Environment.variableAt, Text.cutAt?_of_not_mem hPlain, String.ofList_toList,
    Environment.variableValue?, if_neg (by simp [hSpecial])]

namespace Lookup

variable {env : Environment}

theorem get?_bind_of_not_mem {bindings : List (String × Value)} {inner out : Variables}
    (h : bind env inner bindings = .ok out) {name : String}
    (hName : name ∉ bindings.map Prod.fst) : Fields.get? out name = Fields.get? inner name := by
  induction bindings generalizing inner with
  | nil =>
    cases h
    rfl
  | cons binding bindings ih =>
    obtain ⟨key, e⟩ := binding
    rw [List.map_cons, List.mem_cons, not_or] at hName
    obtain ⟨v, _, hRest⟩ := exists_of_bind_eq_ok h
    rw [ih hRest hName.2, Fields.get?_insert_of_ne _ (Ne.symm hName.1)]

theorem get?_bind {bindings : List (String × Value)} {inner out : Variables}
    (h : bind env inner bindings = .ok out) (hDistinct : Fields.Distinct bindings)
    {name : String} {e : Value} (hMem : (name, e) ∈ bindings) :
    ∃ v, evaluate env e = .ok v ∧ Fields.get? out name = some v := by
  induction bindings generalizing inner with
  | nil => cases hMem
  | cons binding bindings ih =>
    obtain ⟨key, first⟩ := binding
    obtain ⟨hHead, hTail⟩ := List.nodup_cons.mp hDistinct
    obtain ⟨v, hv, hRest⟩ := exists_of_bind_eq_ok h
    cases hMem with
    | head =>
      refine ⟨v, hv, ?_⟩
      rw [get?_bind_of_not_mem hRest hHead, Fields.get?_insert_self]
    | tail _ hMem => exact ih hRest hTail hMem

theorem exists_bind {bindings : List (String × Value)}
    (h : ∀ binding ∈ bindings, ∃ v, evaluate env binding.2 = .ok v) (inner : Variables) :
    ∃ out, bind env inner bindings = .ok out := by
  induction bindings generalizing inner with
  | nil => exact ⟨inner, rfl⟩
  | cons binding bindings ih =>
    obtain ⟨⟨v, hv⟩, hTail⟩ := List.forall_mem_cons.mp h
    obtain ⟨out, hOut⟩ := ih hTail (Fields.insert inner binding.1 v)
    refine ⟨out, ?_⟩
    rw [bind, hv]
    exact hOut

theorem ofDocument_lookupDocument (table field : String) (correlations : Correlations)
    (pipeline : Plan) :
    ofDocument (lookupDocument table field correlations pipeline) =
      .ok ⟨table, field, correlations.toDocument⟩ := by
  have hStages : (pipeline.pipeline.map Value.document).all isDocument = true := by
    simp [isDocument]
  have hCheck : checkPipeline (lookupDocument table field correlations pipeline) = .ok () := by
    cases correlations <;>
      simp [checkPipeline, lookupDocument, Fields.get?_cons, hStages]
  have hBindings : bindingsOf (lookupDocument table field correlations pipeline) =
      .ok correlations.toDocument := by
    cases correlations <;>
      simp [bindingsOf, lookupDocument, Fields.get?_cons, Correlations.toDocument]
  have hFrom : textField (lookupDocument table field correlations pipeline) "from" = .ok table := rfl
  have hAs : textField (lookupDocument table field correlations pipeline) "as" = .ok field := rfl
  rw [ofDocument, hFrom, hAs, hCheck, hBindings]
  rfl

end Lookup

/-! The stages that plans are made of -/

section

variable (catalog : Catalog) (vars : Variables)

theorem runNested_lookupDocument (table field : String) (correlations : Correlations)
    (pipeline : Plan) (documents : List Document) :
    runNested catalog vars (lookupDocument table field correlations pipeline) documents =
      runStages catalog vars (pipeline.pipeline.map .document) documents := by
  cases correlations <;>
    simp [lookupDocument, runNested]

theorem runStage_ofKind (kind : StageKind) (body : Value) (documents : List Document) :
    runStage catalog vars (.document [(kind.operator, body)]) documents =
      match kind with
      | .lookup => bodyDocument kind.operator body >>= fun fields =>
        Lookup.ofDocument fields >>= fun l => eachDocument (l.attach vars fun inner =>
          runNested catalog inner fields (catalog.collection l.collection)) documents
      | .filter => bodyDocument kind.operator body >>= (filterStage vars · documents)
      | .unwind => bodyDocument kind.operator body >>= (unwindStage · documents)
      | .group => bodyDocument kind.operator body >>= (groupStage vars · documents)
      | .project => bodyDocument kind.operator body >>= fun fields =>
        eachDocument (project vars fields) documents
      | .addFields => bodyDocument kind.operator body >>= fun fields =>
        eachDocument (addFields vars fields) documents
      | .sort => bodyDocument kind.operator body >>= fun order => .ok (sortStage order documents)
      | .skip => countOf kind.operator body >>= fun n => .ok (documents.drop n)
      | .limit => countOf kind.operator body >>= fun n => .ok (documents.take n) := by
  rw [runStage.eq_def]
  simp only [StageKind.ofOperator?_operator]
  cases kind with
  | lookup => cases body <;> rfl
  | _ => rfl

theorem runStage_lookup (table field : String) (correlations : Correlations) (pipeline : Plan)
    (documents : List Document) :
    runStage catalog vars
        (.document [("$lookup", .document (lookupDocument table field correlations pipeline))])
        documents =
      eachDocument (Lookup.attach ⟨table, field, correlations.toDocument⟩ vars fun inner =>
        runStages catalog inner (pipeline.pipeline.map .document) (catalog.collection table))
        documents := by
  refine (runStage_ofKind catalog vars .lookup _ documents).trans ?_
  simp only [bodyDocument, bind, Except.bind, Lookup.ofDocument_lookupDocument,
    runNested_lookupDocument]

theorem unwindField?_unwindDocument (field : String) (keepEmpty : Bool) :
    unwindField? (unwindDocument field keepEmpty) = some field := by
  have hPath : Fields.get? (unwindDocument field keepEmpty) "path" =
      some (.string ("$" ++ field)) := rfl
  rw [unwindField?, hPath]
  simp [Text.afterStart?, String.toList_append]

theorem runStage_unwind (field : String) (keepEmpty : Bool) (documents : List Document) :
    runStage catalog vars (.document [("$unwind", .document (unwindDocument field keepEmpty))])
        documents =
      .ok (documents.flatMap (unwind field keepEmpty)) := by
  have hKeep : Fields.get? (unwindDocument field keepEmpty) "preserveNullAndEmptyArrays" =
      some (.boolean keepEmpty) := rfl
  refine (runStage_ofKind catalog vars .unwind _ documents).trans ?_
  change unwindStage _ _ = _
  rw [unwindStage, unwindField?_unwindDocument, hKeep]
  cases keepEmpty <;> rfl

theorem runStage_filter (body : Document) (documents : List Document) :
    runStage catalog vars (.document [("$match", .document body)]) documents =
      filterStage vars body documents :=
  runStage_ofKind catalog vars .filter (.document body) documents

theorem runStage_group (body : Document) (documents : List Document) :
    runStage catalog vars (.document [("$group", .document body)]) documents =
      groupStage vars body documents :=
  runStage_ofKind catalog vars .group (.document body) documents

theorem runStage_project (body : Document) (documents : List Document) :
    runStage catalog vars (.document [("$project", .document body)]) documents =
      eachDocument (project vars body) documents :=
  runStage_ofKind catalog vars .project (.document body) documents

theorem runStage_addFields (body : Document) (documents : List Document) :
    runStage catalog vars (.document [("$addFields", .document body)]) documents =
      eachDocument (addFields vars body) documents :=
  runStage_ofKind catalog vars .addFields (.document body) documents

theorem runStage_sort (body : Document) (documents : List Document) :
    runStage catalog vars (.document [("$sort", .document body)]) documents =
      .ok (sortStage body documents) :=
  runStage_ofKind catalog vars .sort (.document body) documents

theorem runStage_skip {body : Value} {n : Nat} (h : body.index? = some n)
    (documents : List Document) :
    runStage catalog vars (.document [("$skip", body)]) documents = .ok (documents.drop n) := by
  refine (runStage_ofKind catalog vars .skip body documents).trans ?_
  simp only [countOf, h]
  rfl

theorem runStage_limit {body : Value} {n : Nat} (h : body.index? = some n)
    (documents : List Document) :
    runStage catalog vars (.document [("$limit", body)]) documents = .ok (documents.take n) := by
  refine (runStage_ofKind catalog vars .limit body documents).trans ?_
  simp only [countOf, h]
  rfl

theorem runStages_cons (stage : Value) (stages : List Value) (documents : List Document) :
    runStages catalog vars (stage :: stages) documents =
      runStage catalog vars stage documents >>= runStages catalog vars stages := by
  rw [runStages]

theorem runStages_append (stages others : List Value) (documents : List Document) :
    runStages catalog vars (stages ++ others) documents =
      runStages catalog vars stages documents >>= runStages catalog vars others := by
  induction stages generalizing documents with
  | nil => rfl
  | cons stage stages ih =>
    rw [List.cons_append, runStages_cons, runStages_cons]
    cases runStage catalog vars stage documents with
    | error e => rfl
    | ok documents => exact ih documents

end

/-- Spreading a document over the documents that a lookup has just attached. -/
theorem unwind_insert (field : String) (keepEmpty : Bool) (d : Document) (found : List Document) :
    unwind field keepEmpty (Fields.insert d field (.array (found.map .document))) =
      match found with
      | [] => if keepEmpty then [Fields.erase d field] else []
      | found => found.map fun x => Fields.insert d field (.document x) := by
  cases found with
  | nil => simp [unwind]
  | cons x found => simp [unwind, Function.comp_def]

end Pipeline

end RelPipe
