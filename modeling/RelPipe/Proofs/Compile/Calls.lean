import RelPipe.Proofs.Compile.References

/-!
What compiled calls refer to: to what their arguments refer to. A pattern is never a reference,
except that the search for an empty suffix reads as the empty path, and a random number is computed
from nothing. A text is reversed by a fold, whose two variables are not free in it.
-/

namespace RelPipe

set_option autoImplicit false

variable {r : String}

theorem Pattern.head?_escape (text : List Char) : (Pattern.escape text).head? ≠ some '$' := by
  cases text with
  | nil => simp [escape]
  | cons c text =>
    rw [escape, List.flatMap_cons, escapeChar]
    split
    · simp
    · rename_i hMeta
      intro h
      obtain rfl : c = '$' := by simpa using h
      exact hMeta rfl

theorem Pattern.head?_escape_append {text : List Char} (h : text ≠ []) (rest : List Char) :
    (Pattern.escape text ++ rest).head? ≠ some '$' := by
  rw [List.head?_append_of_ne_nil]
  · exact head?_escape text
  · cases text with
    | nil => exact absurd rfl h
    | cons c text =>
      rw [escape, List.flatMap_cons, escapeChar]
      split <;> simp

theorem Value.mem_freeReferences_matching (caseSensitive : Bool) {input : Value}
    {regex : List Char} :
    r ∈ (Value.matching caseSensitive input regex).freeReferences ↔
      r ∈ input.freeReferences ∨ regex.head? = some '$' ∧ r = String.ofList regex := by
  have hOptions : r ∉ (Value.string "i").freeReferences := List.not_mem_nil
  have hRegex : r ∈ (Value.string (String.ofList regex)).freeReferences ↔
      regex.head? = some '$' ∧ r = String.ofList regex := by
    rw [mem_freeReferences_string]
    simp [Text.dollar]
  rw [matching, mem_freeReferences_single (by decide), mem_freeReferences_document]
  · cases caseSensitive <;> simp [hRegex, hOptions]
  · cases caseSensitive <;> simp

/-- The constant that an argument is matched by is no reference. -/
theorem Argument.freeReferences_of_pattern {a : Argument} (hPlain : Yields a.operand Operand.Plain)
    {text : String} (h : a.pattern = .ok text) {v : Value} (hv : a.value = .ok v) :
    v.freeReferences = [] := by
  obtain ⟨o, ho, h⟩ := exists_of_bind_eq_ok h
  have hConstant : o.isConstant = true := by
    cases o with
    | constant => rfl
    | _ => cases h
  rw [value, ho] at hv
  cases hv
  exact hPlain o ho hConstant

/-- An argument refers to what `R` says of it, once it is compiled. -/
def Argument.RefersTo (R : Argument → String → Prop) (a : Argument) : Prop :=
  Yields a.value fun v => ∀ r, r ∈ v.freeReferences ↔ R a r

namespace Call

variable {R : Argument → String → Prop} {args : List Argument}

/-- What some argument of a call refers to. -/
def Reads (R : Argument → String → Prop) (args : List Argument) (r : String) : Prop :=
  ∃ a ∈ args, R a r

theorem not_reads_nil : ¬ Reads R [] r := by
  rintro ⟨a, ha, _⟩
  cases ha

theorem reads_cons {a : Argument} (ha : a.RefersTo R) {v : Value} (hv : a.value = .ok v) :
    Reads R (a :: args) r ↔ r ∈ v.freeReferences ∨ Reads R args r := by
  rw [Reads, List.exists_mem_cons_iff, ha v hv, Reads]

section

variable {a b c : Argument} {v w x : Value}

theorem reads_one (hR : ∀ d ∈ [a], d.RefersTo R) (hv : a.value = .ok v) :
    Reads R [a] r ↔ r ∈ v.freeReferences := by
  rw [reads_cons (hR a (.head _)) hv, or_iff_left not_reads_nil]

theorem reads_two (hR : ∀ d ∈ [a, b], d.RefersTo R) (hv : a.value = .ok v)
    (hw : b.value = .ok w) : Reads R [a, b] r ↔ r ∈ v.freeReferences ∨ r ∈ w.freeReferences := by
  rw [reads_cons (hR a (.head _)) hv, reads_one (fun d hd => hR d (.tail _ hd)) hw]

theorem reads_three (hR : ∀ d ∈ [a, b, c], d.RefersTo R) (hv : a.value = .ok v)
    (hw : b.value = .ok w) (hx : c.value = .ok x) :
    Reads R [a, b, c] r ↔
      r ∈ v.freeReferences ∨ r ∈ w.freeReferences ∨ r ∈ x.freeReferences := by
  rw [reads_cons (hR a (.head _)) hv, reads_two (fun d hd => hR d (.tail _ hd)) hw hx]

theorem reads_optional (hR : ∀ d ∈ args, d.RefersTo R) (hLength : args.length ≤ 1)
    {v? : Option Value} (h : optional args 0 = .ok v?) :
    Reads R args r ↔ ∃ v ∈ v?, r ∈ v.freeReferences := by
  match args with
  | [] =>
    cases h
    simp [not_reads_nil]
  | [a] =>
    obtain ⟨v, hv, rfl⟩ := exists_of_map_eq_ok (show a.value.map some = _ from h)
    simp [reads_one hR hv]
  | _ :: _ :: _ => simp at hLength

theorem reads_one_option (hR : ∀ d ∈ a :: args, d.RefersTo R) (hLength : args.length ≤ 1)
    (hv : a.value = .ok v) {w? : Option Value} (h : optional args 0 = .ok w?) :
    Reads R (a :: args) r ↔ r ∈ v.freeReferences ∨ ∃ w ∈ w?, r ∈ w.freeReferences := by
  rw [reads_cons (hR a (.head _)) hv, reads_optional (fun d hd => hR d (.tail _ hd)) hLength h]

theorem reads_two_option (hR : ∀ d ∈ a :: b :: args, d.RefersTo R) (hLength : args.length ≤ 1)
    (hv : a.value = .ok v) (hw : b.value = .ok w) {x? : Option Value}
    (h : optional args 0 = .ok x?) :
    Reads R (a :: b :: args) r ↔
      r ∈ v.freeReferences ∨ r ∈ w.freeReferences ∨ ∃ x ∈ x?, r ∈ x.freeReferences := by
  rw [reads_cons (hR a (.head _)) hv, reads_one_option (fun d hd => hR d (.tail _ hd)) hLength hw h]

theorem reads_search (hR : ∀ d ∈ [a, b], d.RefersTo R) (hPlain : Yields b.operand Operand.Plain)
    (hv : a.value = .ok v) {text : String} (hText : b.pattern = .ok text) :
    Reads R [a, b] r ↔ r ∈ v.freeReferences := by
  obtain ⟨o, ho, _⟩ := exists_of_bind_eq_ok hText
  have hw : b.value = .ok o.render := by
    rw [Argument.value, ho]
    rfl
  rw [reads_two hR hv hw, b.freeReferences_of_pattern hPlain hText hw]
  simp

end

theorem reads_values (hR : ∀ a ∈ args, a.RefersTo R) {vs : List Value}
    (h : values args = .ok vs) : Reads R args r ↔ ∃ v ∈ vs, r ∈ v.freeReferences := by
  induction args generalizing vs with
  | nil =>
    cases h
    simp [not_reads_nil]
  | cons a rest ih =>
    obtain ⟨hFirst, hRest⟩ := List.forall_mem_cons.mp hR
    obtain ⟨v, hv, h⟩ := exists_of_bind_eq_ok h
    obtain ⟨vs, hvs, h⟩ := exists_of_bind_eq_ok h
    cases h
    rw [reads_cons hFirst hv, List.exists_mem_cons_iff, ih hRest hvs]

theorem length_values : Yields (values args) fun vs => vs.length = args.length := by
  induction args with
  | nil => exact .ok rfl
  | cons a rest ih =>
    exact Yields.from_bind fun v _ => ih.bind fun vs hvs => .ok (congrArg Nat.succ hvs)

theorem mem_freeReferences_cases {vs : List Value} (h : vs.length % 2 = 1) :
    r ∈ (cases vs).freeReferences ↔ ∃ v ∈ vs, r ∈ v.freeReferences := by
  match vs with
  | [otherwise] => simp [cases, wrapped]
  | condition :: value :: rest =>
    have hRest : rest.length % 2 = 1 := by
      simp only [List.length_cons] at h
      omega
    rw [cases_cons_cons condition value hRest, choice,
      Value.mem_freeReferences_single (by decide), Value.mem_freeReferences_document (by simp)]
    simp [mem_freeReferences_cases hRest]

section

variable {v source start length : Value}

@[simp] theorem mem_freeReferences_charCount :
    r ∈ (charCount v).freeReferences ↔ r ∈ v.freeReferences := by
  simp [charCount]

@[simp] theorem mem_freeReferences_slice :
    r ∈ (slice source start length).freeReferences ↔
      r ∈ source.freeReferences ∨ r ∈ start.freeReferences ∨ r ∈ length.freeReferences := by
  simp [slice]

@[simp] theorem mem_freeReferences_rounded :
    r ∈ (rounded v).freeReferences ↔ r ∈ v.freeReferences := by
  have hHalf : r ∉ half.freeReferences := List.not_mem_nil
  simp [rounded, hHalf]

@[simp] theorem mem_freeReferences_trimmedLength :
    r ∈ (trimmedLength v).freeReferences ↔ r ∈ v.freeReferences := by
  have hBlank : r ∉ (Value.string " ").freeReferences := List.not_mem_nil
  have hBlanks : r ∈ (Value.document [("input", v), ("chars", .string " ")]).freeReferences ↔
      r ∈ v.freeReferences := by
    rw [Value.mem_freeReferences_document (by simp)]
    simp [hBlank]
  simp [trimmedLength, hBlanks]

@[simp] theorem mem_freeReferences_reversed :
    r ∈ (reversed v).freeReferences ↔ r ∈ v.freeReferences := by
  have hBlank : (Value.string "").freeReferences = [] := rfl
  have hBody : (Value.apply "$concat" [.string "$$value", .string "$$this"]).freeReferences =
      ["$$value", "$$this"] := rfl
  rw [reversed, Value.freeReferences_fold]
  simp [Value.foldFreeReferences, hBlank, hBody, Value.isFoldVariable]

end

/-! How many arguments there are -/

theorem exists_one (h : (Arity.exactly 1).accepts args.length = true) : ∃ a, args = [a] :=
  List.length_eq_one_iff.mp (by simpa [Arity.accepts] using h)

theorem exists_two (h : (Arity.exactly 2).accepts args.length = true) : ∃ a b, args = [a, b] :=
  List.length_eq_two.mp (by simpa [Arity.accepts] using h)

theorem exists_three (h : (Arity.exactly 3).accepts args.length = true) :
    ∃ a b c, args = [a, b, c] :=
  List.length_eq_three.mp (by simpa [Arity.accepts] using h)

theorem exists_one_and_option (h : (Arity.range 1 2).accepts args.length = true) :
    ∃ a rest, args = a :: rest ∧ rest.length ≤ 1 := by
  match args with
  | [] => cases h
  | a :: rest =>
    simp [Arity.accepts] at h
    exact ⟨a, rest, rfl, by omega⟩

theorem exists_two_and_option (h : (Arity.range 2 3).accepts args.length = true) :
    ∃ a b rest, args = a :: b :: rest ∧ rest.length ≤ 1 := by
  match args with
  | [] | [_] => cases h
  | a :: b :: rest =>
    simp [Arity.accepts] at h
    exact ⟨a, b, rest, rfl, by omega⟩

/-- A call refers to what its arguments refer to. -/
def Collects (R : Argument → String → Prop) (args : List Argument)
    (outcome : Except CompileError Value) : Prop :=
  Yields outcome fun v => ∀ r, r ∈ v.freeReferences ↔ Reads R args r

theorem collects_unary {a : Argument} (hR : ∀ d ∈ [a], d.RefersTo R) {operator : String}
    (h : operator ≠ "$literal" ∧ operator ≠ "$reduce") :
    Collects R [a] (unary operator [a]) := by
  refine Yields.from_map fun v (hv : a.value = .ok v) r => ?_
  rw [Value.mem_freeReferences_single h, reads_one hR hv]

theorem search_yields (caseSensitive : Bool) {a b : Argument} (hR : ∀ d ∈ [a, b], d.RefersTo R)
    (hPlain : Yields b.operand Operand.Plain) (regex : List Char → List Char) :
    Yields ((pattern [a, b] 1).bind fun text => (value [a, b] 0).bind fun input =>
        .ok (Value.matching caseSensitive input (regex text))) fun v =>
      ∃ text, pattern [a, b] 1 = .ok text ∧ ∀ r, r ∈ v.freeReferences ↔
        Reads R [a, b] r ∨ (regex text).head? = some '$' ∧ r = String.ofList (regex text) := by
  refine Yields.from_bind fun text hText => ?_
  refine Yields.from_bind fun input (hInput : a.value = .ok input) => .ok ⟨text, hText, fun r => ?_⟩
  obtain ⟨pattern, hPattern, _⟩ := exists_of_map_eq_ok (show b.pattern.map _ = _ from hText)
  rw [Value.mem_freeReferences_matching, reads_search hR hPlain hInput hPattern]

theorem collects_template (caseSensitive : Bool) {f : StandardFunction}
    (hArity : f.arity.accepts args.length = true) (hR : ∀ a ∈ args, a.RefersTo R)
    (hPlain : ∀ a ∈ args, Yields a.operand Operand.Plain) (hRandom : f ≠ .rnd)
    (hSuffix : f ≠ .endsWith) : Collects R args (template caseSensitive f args) := by
  have hBlank : ∀ r, r ∉ (Value.string "").freeReferences := fun _ => List.not_mem_nil
  cases f with
  | concat =>
    refine Yields.from_bind fun vs hvs => .ok fun r => ?_
    rw [Value.mem_freeReferences_apply (by decide), reads_values hR hvs]
  | iif =>
    have hOdd : args.length % 2 = 1 := by
      simp only [StandardFunction.arity, Arity.accepts, Bool.and_eq_true, decide_eq_true_eq] at hArity
      exact hArity.2
    refine Yields.from_bind fun vs hvs => .ok fun r => ?_
    rw [mem_freeReferences_cases (length_values vs hvs ▸ hOdd), reads_values hR hvs]
  | trim | len | reverse | sign | toInt | toLong =>
    obtain ⟨a, rfl⟩ := exists_one hArity
    refine Yields.from_bind fun v (hv : a.value = .ok v) => .ok fun r => ?_
    rw [reads_one hR hv]
    simp
  | isNullOrEmpty =>
    obtain ⟨a, rfl⟩ := exists_one hArity
    refine Yields.from_bind fun v (hv : a.value = .ok v) => .ok fun r => ?_
    rw [reads_one hR hv]
    simp [hBlank]
  | substring =>
    obtain ⟨a, b, rest, rfl, hRest⟩ := exists_two_and_option hArity
    refine Yields.from_bind fun source (hSource : a.value = .ok source) => ?_
    refine Yields.from_bind fun length? (hLength : optional rest 0 = .ok length?) => ?_
    refine Yields.from_bind fun start (hStart : b.value = .ok start) => .ok fun r => ?_
    rw [reads_two_option hR hRest hSource hStart hLength]
    cases length? with
    | none =>
      simp
      tauto
    | some length => simp
  | replace =>
    obtain ⟨a, b, rest, rfl, hRest⟩ := exists_two_and_option hArity
    refine Yields.from_bind fun input (hInput : a.value = .ok input) => ?_
    refine Yields.from_bind fun find (hFind : b.value = .ok find) => ?_
    refine Yields.from_bind fun text? (hText : optional rest 0 = .ok text?) => .ok fun r => ?_
    rw [reads_two_option hR hRest hInput hFind hText, Value.mem_freeReferences_single (by decide),
      Value.mem_freeReferences_document (by simp)]
    cases text? <;> simp [hBlank]
  | insert =>
    obtain ⟨a, b, c, rfl⟩ := exists_three hArity
    refine Yields.from_bind fun source (hSource : a.value = .ok source) => ?_
    refine Yields.from_bind fun position (hPosition : b.value = .ok position) => ?_
    refine Yields.from_bind fun text (hText : c.value = .ok text) => .ok fun r => ?_
    rw [reads_three hR hSource hPosition hText]
    simp [inserted]
    tauto
  | remove =>
    obtain ⟨a, b, rest, rfl, hRest⟩ := exists_two_and_option hArity
    refine Yields.from_bind fun source (hSource : a.value = .ok source) => ?_
    refine Yields.from_bind fun start (hStart : b.value = .ok start) => ?_
    refine Yields.from_bind fun length? (hLength : optional rest 0 = .ok length?) => .ok fun r => ?_
    rw [reads_two_option hR hRest hSource hStart hLength]
    cases length? <;> simp [removed] <;> tauto
  | charIndex =>
    obtain ⟨a, b, rest, rfl, hRest⟩ := exists_two_and_option hArity
    refine Yields.from_bind fun source (hSource : b.value = .ok source) => ?_
    refine Yields.from_bind fun sought (hSought : a.value = .ok sought) => ?_
    refine Yields.from_bind fun start? (hStart : optional rest 0 = .ok start?) => .ok fun r => ?_
    rw [reads_two_option hR hRest hSought hSource hStart]
    cases start? <;> simp <;> tauto
  | round | atn2 | isNull =>
    obtain ⟨a, rest, rfl, hRest⟩ := exists_one_and_option hArity
    refine Yields.from_bind fun first (hFirst : a.value = .ok first) => ?_
    refine Yields.from_bind fun second? (hSecond : optional rest 0 = .ok second?) => .ok fun r => ?_
    rw [reads_one_option hR hRest hFirst hSecond]
    cases second? <;> simp
  | log =>
    obtain ⟨a, rest, rfl, hRest⟩ := exists_one_and_option hArity
    refine Yields.from_bind fun base? (hBase : optional rest 0 = .ok base?) => ?_
    cases base? with
    | none =>
      refine Yields.from_bind fun number (hNumber : a.value = .ok number) => .ok fun r => ?_
      rw [reads_one_option hR hRest hNumber hBase]
      simp
    | some base =>
      refine Yields.from_bind fun number (hNumber : a.value = .ok number) => .ok fun r => ?_
      rw [reads_one_option hR hRest hNumber hBase]
      simp
  | power | bigMul =>
    obtain ⟨a, b, rfl⟩ := exists_two hArity
    refine Yields.from_bind fun first (hFirst : a.value = .ok first) => ?_
    refine Yields.from_bind fun second (hSecond : b.value = .ok second) => .ok fun r => ?_
    rw [reads_two hR hFirst hSecond]
    simp
  | contains =>
    obtain ⟨a, b, rfl⟩ := exists_two hArity
    refine (search_yields caseSensitive hR (hPlain b (by simp)) Pattern.escape).mono ?_
    rintro v ⟨text, _, hv⟩ r
    simp [hv, Pattern.head?_escape]
  | startsWith =>
    obtain ⟨a, b, rfl⟩ := exists_two hArity
    refine (search_yields caseSensitive hR (hPlain b (by simp)) fun text =>
      '^' :: Pattern.escape text).mono ?_
    rintro v ⟨text, _, hv⟩ r
    simp [hv]
  | endsWith => exact absurd rfl hSuffix
  | rnd => exact absurd rfl hRandom
  | _ =>
    obtain ⟨a, rfl⟩ := exists_one hArity
    exact collects_unary hR (by decide)

theorem template_endsWith (caseSensitive : Bool)
    (hArity : (Arity.exactly 2).accepts args.length = true) (hR : ∀ a ∈ args, a.RefersTo R)
    (hPlain : ∀ a ∈ args, Yields a.operand Operand.Plain) :
    Yields (template caseSensitive .endsWith args) fun v => ∀ r, r ∈ v.freeReferences ↔
      Reads R args r ∨ pattern args 1 = .ok [] ∧ r = "$" := by
  obtain ⟨a, b, rfl⟩ := exists_two hArity
  refine (search_yields caseSensitive hR (hPlain b (by simp)) fun text =>
    Pattern.escape text ++ ['$']).mono ?_
  rintro v ⟨text, hText, hv⟩ r
  rw [hv, hText]
  by_cases hEmpty : text = []
  · subst hEmpty
    simp [Pattern.escape]
  · have hHead := Pattern.head?_escape_append hEmpty ['$']
    rw [or_iff_left fun h => hHead h.1]
    simp [hEmpty]

theorem collects_likeCall (caseSensitive : Bool) {a b : Argument}
    (hR : ∀ d ∈ [a, b], d.RefersTo R) (hPlain : Yields b.operand Operand.Plain) :
    Collects R [a, b] (likeCall caseSensitive a b) := by
  refine Yields.from_bind fun v hv => ?_
  refine Yields.from_bind fun text hText => .ok fun r => ?_
  rw [Value.mem_freeReferences_matching, reads_search hR hPlain hv hText]
  simp [Pattern.ofLike]

theorem collects_like (caseSensitive : Bool) (tag : String) (hR : ∀ a ∈ args, a.RefersTo R)
    (hPlain : ∀ a ∈ args, Yields a.operand Operand.Plain) :
    Collects R args (like caseSensitive tag args) := by
  unfold like
  split
  · exact collects_likeCall caseSensitive hR (hPlain _ (by simp))
  · exact .error

end Call

theorem StandardFunction.ofName?_like : ofName? "like" = none := by decide +kernel

theorem StandardFunction.ofName?_notLike : ofName? "notlike" = none := by decide +kernel

/-- The standard function that is called, also if it is called by tag. -/
def Function.standard? : Function → Option StandardFunction
  | .standard f => some f
  | .custom tag => StandardFunction.ofName? (Text.lower tag)

/-- What a call refers to: to what its arguments refer to, unless it is for a random number, and the
search for an empty suffix to the empty path. -/
def Function.Reads (f : Function) (R : Argument → String → Prop) (args : List Argument)
    (r : String) : Prop :=
  f.standard? ≠ some .rnd ∧ Call.Reads R args r ∨
    f.standard? = some .endsWith ∧ Call.pattern args 1 = .ok [] ∧ r = "$"

theorem Function.compile_yields (caseSensitive : Bool) {f : Function}
    {R : Argument → String → Prop} {args : List Argument}
    (hR : f.standard? ≠ some .rnd → ∀ a ∈ args, a.RefersTo R)
    (hPlain : ∀ a ∈ args, Yields a.operand Operand.Plain) :
    Yields (f.compile caseSensitive args) fun v =>
      ∀ r, r ∈ v.freeReferences ↔ f.Reads R args r := by
  have hStandard : ∀ g : StandardFunction, f.standard? = some g →
      Yields (Call.standard caseSensitive g args) fun v =>
        ∀ r, r ∈ v.freeReferences ↔ f.Reads R args r := by
    intro g hg
    unfold Call.standard
    split
    · rename_i hArity
      by_cases hRandom : g = .rnd
      · subst hRandom
        refine Yields.ok fun r => ?_
        simp [Reads, hg, Value.freeReferences_single, Value.freeReferences_document]
      · have hR := hR (by simpa [hg] using hRandom)
        by_cases hSuffix : g = .endsWith
        · subst hSuffix
          refine (Call.template_endsWith caseSensitive hArity hR hPlain).mono fun v hv r => ?_
          simp [Reads, hg, hv]
        · refine (Call.collects_template caseSensitive hArity hR hPlain hRandom hSuffix).mono
            fun v hv r => ?_
          simp [Reads, hg, hv, hRandom, hSuffix]
    · exact .error
  cases f with
  | standard g => exact hStandard g rfl
  | custom tag =>
    have hLike : ∀ {name}, Text.lower tag = name → StandardFunction.ofName? name = none →
        Yields (Call.like caseSensitive tag args) fun v =>
          ∀ r, r ∈ v.freeReferences ↔ (Function.custom tag).Reads R args r := by
      intro name hName hNone
      have hNone : (Function.custom tag).standard? = none := by rw [standard?, hName, hNone]
      have hR := hR (by simp [hNone])
      refine (Call.collects_like caseSensitive tag hR hPlain).mono fun v hv r => ?_
      simp [Reads, hNone, hv]
    change Yields (Call.custom caseSensitive tag args) _
    unfold Call.custom
    dsimp only
    split
    · rename_i hName
      exact hLike hName StandardFunction.ofName?_like
    · split
      · rename_i hName
        exact (hLike hName StandardFunction.ofName?_notLike).map fun v hv r => by simpa using hv r
      · split
        · rename_i g hg
          exact hStandard g hg
        · exact .error

end RelPipe
