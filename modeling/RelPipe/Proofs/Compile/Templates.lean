import Mathlib.Data.List.Forall2
import RelPipe.Proofs.Compile.Calls
import RelPipe.Proofs.Outcome
import RelPipe.Proofs.Pipeline.WellFormed

/-!
Templates keep what relates their arguments. Take two runs of the compiler, and a relation between
the values of the one and the values of the other that is kept by arrays, by plain documents and by
searches. Then a call of a function compiles to related values in both runs, if its arguments do.
-/

namespace RelPipe

set_option autoImplicit false

/-- A relation between values that is kept by all that templates are made of. Quoted texts and the
bodies of searches are no plain fields. -/
structure Value.Congruence (caseSensitive caseSensitive' : Bool) (R : Value → Value → Prop) :
    Prop where
  atom {v : Value} : v.isAtom = true → R v v
  array {items items' : List Value} : List.Forall₂ R items items' → R (.array items) (.array items')
  document {fields fields' : List (String × Value)} :
    List.Forall₂ (fun e e' => e.1 = e'.1 ∧ R e.2 e'.2) fields fields' →
      (∀ e ∈ fields, e.1 ≠ "$literal" ∧ e.1 ≠ "$regexMatch") →
      R (.document fields) (.document fields')
  matching {input input' : Value} (regex : List Char) : R input input' →
    R (.matching caseSensitive input regex) (.matching caseSensitive' input' regex)

namespace Value.Congruence

variable {caseSensitive caseSensitive' : Bool} {R : Value → Value → Prop}

theorem single (hR : Congruence caseSensitive caseSensitive' R) {name : String} {v v' : Value}
    (hName : name ≠ "$literal" ∧ name ≠ "$regexMatch") (h : R v v') :
    R (.single name v) (.single name v') :=
  hR.document (.cons ⟨rfl, h⟩ .nil) (List.forall_mem_singleton.mpr hName)

theorem apply (hR : Congruence caseSensitive caseSensitive' R) {name : String}
    {items items' : List Value} (hName : name ≠ "$literal" ∧ name ≠ "$regexMatch")
    (h : List.Forall₂ R items items') : R (.apply name items) (.apply name items') :=
  hR.single hName (hR.array h)

end Value.Congruence

theorem rel_getElem?_of_forall₂ {α β : Type} {R : α → β → Prop} {as : List α} {bs : List β}
    (h : List.Forall₂ R as bs) (index : Nat) : Option.Rel R as[index]? bs[index]? := by
  induction h generalizing index with
  | nil => exact .none
  | cons h _ ih =>
    cases index with
    | zero => exact .some h
    | succ index => exact ih index

/-- Arguments whose values are related and that are the same pattern, if they are one. -/
structure Argument.Corresponds (E : CompileError → CompileError → Prop) (R : Value → Value → Prop)
    (a a' : Argument) : Prop where
  value : Correspond E R a.value a'.value
  pattern : Correspond E Eq a.pattern a'.pattern

namespace Call

variable {caseSensitive caseSensitive' : Bool} {R : Value → Value → Prop}
  {E : CompileError → CompileError → Prop}

section

variable (hR : Value.Congruence caseSensitive caseSensitive' R)
  {v v' source source' start start' length length' text text' : Value}

include hR

theorem rel_charCount (h : R v v') : R (charCount v) (charCount v') := hR.single (by decide) h

theorem rel_slice (hSource : R source source') (hStart : R start start')
    (hLength : R length length') : R (slice source start length) (slice source' start' length') :=
  hR.apply (by decide) (by simp [hSource, hStart, hLength])

theorem rel_rounded (h : R v v') : R (rounded v) (rounded v') := by
  have hZero : R (.int32 0) (.int32 0) := hR.atom rfl
  have hHalf : R half half := hR.atom rfl
  have hTest : R (.apply "$gt" [v, .int32 0]) (.apply "$gt" [v', .int32 0]) :=
    hR.apply (by decide) (by simp [h, hZero])
  have hUp : R (.single "$floor" (.apply "$add" [v, half]))
      (.single "$floor" (.apply "$add" [v', half])) :=
    hR.single (by decide) (hR.apply (by decide) (by simp [h, hHalf]))
  have hDown : R (.single "$ceil" (.apply "$subtract" [v, half]))
      (.single "$ceil" (.apply "$subtract" [v', half])) :=
    hR.single (by decide) (hR.apply (by decide) (by simp [h, hHalf]))
  exact hR.apply (by decide) (by simp [hTest, hUp, hDown])

theorem rel_trimmedLength (h : R v v') : R (trimmedLength v) (trimmedLength v') := by
  have hBlanks : ∀ name : String, name ≠ "$literal" ∧ name ≠ "$regexMatch" →
      R (.single name (.document [("input", v), ("chars", .string " ")]))
        (.single name (.document [("input", v'), ("chars", .string " ")])) := by
    intro name hName
    have hBlank : R (.string " ") (.string " ") := hR.atom rfl
    exact hR.single hName (hR.document (by simp [h, hBlank]) (by simp))
  have hBoth := rel_charCount hR (hBlanks "$trim" (by decide))
  have hLeft := rel_charCount hR (hBlanks "$ltrim" (by decide))
  have hLeading : R (.apply "$subtract" [charCount v, _]) (.apply "$subtract" [charCount v', _]) :=
    hR.apply (by decide) (.cons (rel_charCount hR h) (.cons hLeft .nil))
  exact hR.apply (by decide) (.cons hBoth (.cons hLeading .nil))

theorem rel_reversed (h : R v v') : R (reversed v) (reversed v') := by
  have hEmpty : R (.string "") (.string "") := hR.atom rfl
  have hSplit : R (.single "$reverseArray" (.apply "$split" [v, .string ""]))
      (.single "$reverseArray" (.apply "$split" [v', .string ""])) :=
    hR.single (by decide) (hR.apply (by decide) (by simp [h, hEmpty]))
  have hStep : R (.apply "$concat" [.string "$$value", .string "$$this"])
      (.apply "$concat" [.string "$$value", .string "$$this"]) :=
    hR.apply (by decide) (.cons (hR.atom rfl) (.cons (hR.atom rfl) .nil))
  exact hR.single (by decide) (hR.document (by simp [hSplit, hEmpty, hStep]) (by simp))

theorem rel_inserted (hSource : R source source') (hStart : R start start') (hText : R text text') :
    R (inserted source start text) (inserted source' start' text') := by
  have hBefore := rel_slice hR hSource (hR.atom (v := .int32 0) rfl) hStart
  have hAfter := rel_slice hR hSource hStart (rel_charCount hR hSource)
  exact hR.apply (by decide) (by simp [hBefore, hText, hAfter])

theorem rel_removed (hSource : R source source') (hStart : R start start')
    (hLength : R length length') :
    R (removed source start length) (removed source' start' length') := by
  have hRest : R (.apply "$add" [start, length]) (.apply "$add" [start', length']) :=
    hR.apply (by decide) (by simp [hStart, hLength])
  have hCount : R (.apply "$subtract" [charCount source, _])
      (.apply "$subtract" [charCount source', _]) :=
    hR.apply (by decide) (.cons (rel_charCount hR hSource) (.cons hRest .nil))
  have hBefore := rel_slice hR hSource (hR.atom (v := .int32 0) rfl) hStart
  have hAfter := rel_slice hR hSource hRest hCount
  exact hR.apply (by decide) (.cons hBefore (.cons hAfter .nil))

theorem rel_wrapped {o o' : Value} {vs vs' : List Value} (ho : R o o')
    (h : List.Forall₂ R vs vs') : R (wrapped o vs) (wrapped o' vs') := by
  fun_induction wrapped o vs generalizing o' vs' with
  | case1 o value condition rest ih =>
    obtain _ | ⟨hValue, _ | ⟨hCondition, hRest⟩⟩ := h
    rename_i value' condition' rest'
    have hChoice : R (choice condition value o) (choice condition' value' o') :=
      hR.single (by decide) (hR.document (by simp [hCondition, hValue, ho]) (by simp))
    rw [wrapped]
    exact ih hChoice hRest
  | case2 vs o hShort =>
    cases h with
    | nil => exact ho
    | cons _ hRest =>
      cases hRest with
      | nil => exact ho
      | cons _ _ => exact absurd rfl (hShort _ _ _)

theorem rel_cases {vs vs' : List Value} (h : List.Forall₂ R vs vs') :
    R (cases vs) (cases vs') := by
  have hReversed : List.Forall₂ R vs.reverse vs'.reverse := List.forall₂_reverse_iff.mpr h
  unfold cases
  generalize vs.reverse = ws, vs'.reverse = ws' at hReversed
  cases hReversed with
  | nil => exact hR.atom rfl
  | cons hOtherwise hRest => exact rel_wrapped hR hOtherwise hRest

end

section

variable {args args' : List Argument} (h : List.Forall₂ (Argument.Corresponds E R) args args')

include h

theorem rel_value (hNull : R .null .null) (index : Nat) :
    Correspond E R (value args index) (value args' index) := by
  have hArgument := rel_getElem?_of_forall₂ h index
  unfold value
  generalize args[index]? = a?, args'[index]? = a?' at hArgument ⊢
  cases hArgument with
  | none => exact .ok hNull
  | some h => exact h.value

theorem rel_optional (index : Nat) :
    Correspond E (Option.Rel R) (optional args index) (optional args' index) := by
  have hArgument := rel_getElem?_of_forall₂ h index
  unfold optional
  generalize args[index]? = a?, args'[index]? = a?' at hArgument ⊢
  cases hArgument with
  | none => exact .ok .none
  | some h => exact h.value.map fun _ _ hv => .some hv

theorem rel_pattern (index : Nat) :
    Correspond E Eq (pattern args index) (pattern args' index) := by
  have hArgument := rel_getElem?_of_forall₂ h index
  unfold pattern
  generalize args[index]? = a?, args'[index]? = a?' at hArgument ⊢
  cases hArgument with
  | none => exact .ok rfl
  | some h => exact h.pattern.map fun _ _ hText => congrArg String.toList hText

theorem rel_values : Correspond E (List.Forall₂ R) (values args) (values args') := by
  induction h with
  | nil => exact .ok .nil
  | cons h _ ih => exact h.value.bind fun v v' hv => ih.bind fun vs vs' hvs => .ok (.cons hv hvs)

end

theorem rel_getD {v? v?' : Option Value} {w w' : Value} (h : Option.Rel R v? v?')
    (hw : R w w') : R (v?.getD w) (v?'.getD w') := by
  cases h with
  | none => exact hw
  | some h => exact h

theorem rel_toList {v? v?' : Option Value} (h : Option.Rel R v? v?') :
    List.Forall₂ R v?.toList v?'.toList := by
  cases h with
  | none => exact .nil
  | some h => exact .cons h .nil

theorem rel_template (hR : Value.Congruence caseSensitive caseSensitive' R) (f : StandardFunction)
    {args args' : List Argument} (h : List.Forall₂ (Argument.Corresponds E R) args args') :
    Correspond E R (template caseSensitive f args) (template caseSensitive' f args') := by
  have hValue := rel_value h (hR.atom rfl)
  have hOptional := rel_optional h
  have hPattern := rel_pattern h
  have hValues := rel_values h
  have hEmpty : R (.string "") (.string "") := hR.atom rfl
  have hZero : R (.int32 0) (.int32 0) := hR.atom rfl
  cases f with
  | concat => exact hValues.bind fun _ _ hvs => .ok (hR.apply (by decide) hvs)
  | iif => exact hValues.bind fun _ _ hvs => .ok (rel_cases hR hvs)
  | trim =>
    exact (hValue 0).bind fun _ _ hv => .ok (hR.single (by decide) (hR.single (by decide) hv))
  | isNullOrEmpty =>
    refine (hValue 0).bind fun v v' hv => .ok ?_
    have hText : R (.apply "$ifNull" [v, .string ""]) (.apply "$ifNull" [v', .string ""]) :=
      hR.apply (by decide) (by simp [hv, hEmpty])
    exact hR.apply (by decide) (by simp [hText, hEmpty])
  | len => exact (hValue 0).bind fun _ _ hv => .ok (rel_trimmedLength hR hv)
  | reverse => exact (hValue 0).bind fun _ _ hv => .ok (rel_reversed hR hv)
  | sign => exact (hValue 0).bind fun _ _ hv => .ok (hR.apply (by decide) (by simp [hv, hZero]))
  | toInt | toLong =>
    exact (hValue 0).bind fun _ _ hv => .ok (hR.single (by decide) (rel_rounded hR hv))
  | substring =>
    refine (hValue 0).bind fun _ _ hSource => (hOptional 2).bind fun _ _ hLength => ?_
    refine (hValue 1).bind fun _ _ hStart => .ok (rel_slice hR hSource hStart ?_)
    exact rel_getD hLength (rel_charCount hR hSource)
  | replace =>
    refine (hValue 0).bind fun _ _ hInput => (hValue 1).bind fun _ _ hFind => ?_
    refine (hOptional 2).bind fun _ _ hText => .ok (hR.single (by decide) ?_)
    exact hR.document (by simp [hInput, hFind, rel_getD hText hEmpty]) (by simp)
  | insert =>
    exact (hValue 0).bind fun _ _ hSource => (hValue 1).bind fun _ _ hPosition =>
      (hValue 2).bind fun _ _ hText => .ok (rel_inserted hR hSource hPosition hText)
  | remove =>
    refine (hValue 0).bind fun _ _ hSource => (hValue 1).bind fun _ _ hStart => ?_
    refine (hOptional 2).bind fun _ _ hLength => .ok (rel_removed hR hSource hStart ?_)
    exact rel_getD hLength (rel_charCount hR hSource)
  | charIndex =>
    -- The text that is searched is compiled before the text that is sought.
    refine (hValue 1).bind fun source source' hSource => (hValue 0).bind fun sought sought' h => ?_
    refine (hOptional 2).bind fun _ _ hStart => .ok (hR.apply (by decide) ?_)
    have hLower : ∀ {v v' : Value}, R v v' → R (.single "$toLower" v) (.single "$toLower" v') :=
      hR.single (by decide)
    exact .cons (hLower hSource) (.cons (hLower h) (rel_toList hStart))
  | round =>
    exact (hValue 0).bind fun _ _ hNumber => (hOptional 1).bind fun _ _ hPlaces =>
      .ok (hR.apply (by decide) (.cons hNumber (rel_toList hPlaces)))
  | atn2 | isNull =>
    exact (hValue 0).bind fun _ _ hFirst => (hOptional 1).bind fun _ _ hSecond =>
      .ok (hR.apply (by decide) (.cons hFirst (.cons (rel_getD hSecond (hR.atom rfl)) .nil)))
  | log =>
    have hLog : ∀ {v v' : Value}, R v v' → R (.single "$ln" v) (.single "$ln" v') :=
      hR.single (by decide)
    refine (hOptional 1).bind fun base? base?' hBase => ?_
    cases hBase with
    | none => exact (hValue 0).bind fun _ _ hNumber => .ok (hLog hNumber)
    | some hBase =>
      exact (hValue 0).bind fun _ _ hNumber =>
        .ok (hR.apply (by decide) (.cons (hLog hNumber) (.cons (hLog hBase) .nil)))
  | power | bigMul =>
    exact (hValue 0).bind fun _ _ hFirst => (hValue 1).bind fun _ _ hSecond =>
      .ok (hR.apply (by decide) (.cons hFirst (.cons hSecond .nil)))
  | contains | startsWith | endsWith =>
    refine (hPattern 1).bind ?_
    rintro text _ rfl
    exact (hValue 0).bind fun _ _ hInput => .ok (hR.matching _ hInput)
  | rnd => exact .ok (hR.single (by decide) (hR.document .nil (List.forall_mem_nil _)))
  | _ => exact (hValue 0).map fun _ _ hv => hR.single (by decide) hv

theorem rel_likeCall (hR : Value.Congruence caseSensitive caseSensitive' R) {a a' b b' : Argument}
    (ha : a.Corresponds E R a') (hb : b.Corresponds E R b') :
    Correspond E R (likeCall caseSensitive a b) (likeCall caseSensitive' a' b') := by
  refine ha.value.bind fun input input' hInput => hb.pattern.bind ?_
  rintro text _ rfl
  exact .ok (hR.matching _ hInput)

theorem like_of_length_ne (caseSensitive : Bool) (tag : String) {args : List Argument}
    (h : args.length ≠ 2) :
    like caseSensitive tag args =
      .error (.argumentCount tag (Arity.exactly 2).text args.length) := by
  unfold like
  split
  · exact absurd rfl h
  · rfl

theorem rel_like (hR : Value.Congruence caseSensitive caseSensitive' R) {tag tag' : String}
    (hE : ∀ expected found,
      E (.argumentCount tag expected found) (.argumentCount tag' expected found))
    {args args' : List Argument} (h : List.Forall₂ (Argument.Corresponds E R) args args') :
    Correspond E R (like caseSensitive tag args) (like caseSensitive' tag' args') := by
  have hLength := h.length_eq
  by_cases hTwo : args.length = 2
  · obtain ⟨a, b, rfl⟩ := List.length_eq_two.mp hTwo
    obtain _ | ⟨ha, _ | ⟨hb, hNil⟩⟩ := h
    cases hNil
    exact rel_likeCall hR ha hb
  · rw [like_of_length_ne caseSensitive tag hTwo,
      like_of_length_ne caseSensitive' tag' (hLength ▸ hTwo), hLength]
    exact .error (hE _ _)

end Call

/-- Calls by the same name, in any letter case, of corresponding arguments. The causes that name a
function have to be related for the two spellings of it. A random number is the same whatever it is
called with. -/
theorem Function.rel_compile {caseSensitive caseSensitive' : Bool} {R : Value → Value → Prop}
    {E : CompileError → CompileError → Prop}
    (hR : Value.Congruence caseSensitive caseSensitive' R) {f f' : Function}
    (hf : f.folded = f'.folded)
    (hCount : ∀ name expected found,
      E (.argumentCount name expected found) (.argumentCount name expected found))
    (hTags : ∀ tag tag', f = .custom tag → f' = .custom tag' →
      E (.unsupportedFunction tag) (.unsupportedFunction tag') ∧ ∀ expected found,
        E (.argumentCount tag expected found) (.argumentCount tag' expected found))
    {args args' : List Argument} (hLength : args.length = args'.length)
    (h : f.standard? ≠ some .rnd → List.Forall₂ (Argument.Corresponds E R) args args') :
    Correspond E R (f.compile caseSensitive args) (f'.compile caseSensitive' args') := by
  have hStandard : ∀ g : StandardFunction, f.standard? = some g →
      Correspond E R (Call.standard caseSensitive g args)
        (Call.standard caseSensitive' g args') := by
    intro g hg
    unfold Call.standard
    rw [← hLength]
    split
    · -- The arguments of a random number are not compiled, so that nothing is known of them.
      by_cases hRandom : g = .rnd
      · subst hRandom
        exact .ok (hR.single (by decide) (hR.document .nil (List.forall_mem_nil _)))
      · exact Call.rel_template hR g (h (by simpa [hg] using hRandom))
    · exact .error (hCount _ _ _)
  cases f with
  | standard g =>
    cases f' with
    | custom => cases hf
    | standard =>
      cases hf
      exact hStandard g rfl
  | custom tag =>
    cases f' with
    | standard => cases hf
    | custom tag' =>
      have hTag : Text.lower tag = Text.lower tag' := Function.custom.inj hf
      obtain ⟨hUnsupported, hTagCount⟩ := hTags tag tag' rfl rfl
      have hLike : ∀ {name}, Text.lower tag = name → StandardFunction.ofName? name = none →
          Correspond E R (Call.like caseSensitive tag args)
            (Call.like caseSensitive' tag' args') := by
        intro name hName hNone
        refine Call.rel_like hR hTagCount (h ?_)
        rw [standard?, hName, hNone]
        simp
      change Correspond _ _ (Call.custom caseSensitive tag args)
        (Call.custom caseSensitive' tag' args')
      unfold Call.custom
      dsimp only
      rw [← hTag]
      split
      · rename_i hName
        exact hLike hName StandardFunction.ofName?_like
      · split
        · rename_i hName
          exact (hLike hName StandardFunction.ofName?_notLike).map fun _ _ hv =>
            hR.apply (by decide) (.cons hv .nil)
        · split
          · rename_i g hg
            exact hStandard g hg
          · exact .error hUnsupported

end RelPipe
