import RelPipe.Proofs.Compile.Clause
import RelPipe.Proofs.Compile.PatternCalls
import RelPipe.Proofs.Outcome
import RelPipe.Proofs.Regex.Literal

/-!
The functions that seek a text in another where letter case is significant: whether it occurs
anywhere, at the start or at the end.
-/

namespace RelPipe

set_option autoImplicit false

open Pipeline

def Pattern.Anchor.function : Pattern.Anchor → StandardFunction
  | anywhere => .contains
  | atStart => .startsWith
  | atEnd => .endsWith

/-- What the search for an empty text at the end comes to. Its regular expression is a dollar sign
alone, which reads the field without a name. -/
def Pipeline.seekEmptyEnd (env : Environment) (s : String) : Result Value :=
  match env.fieldValue "" with
  | .string regex => (occurs {} regex s).map .boolean
  | _ => .error (.invalidArgument "$regexMatch" .regexNotText)

/-- The text that a constant is as a pattern. Null is the empty text. -/
def Constant.patternText? (c : Constant) : Option String :=
  c.value.toOption.bind Value.patternText?

namespace Site

variable {site : Site} {input : Expression} {v : Value} {c : Constant} {p : String}

def textSearch (a : Pattern.Anchor) (input : Value) (sought : String) : Value :=
  .matching true input (a.pattern sought.toList)

theorem pattern_constant (h : c.patternText? = some p) :
    Argument.pattern ⟨.constant c, site.compile (.constant c)⟩ = .ok p := by
  obtain ⟨w, hValue, hText⟩ := Option.bind_eq_some_iff.mp h
  have hOperand : site.compile (.constant c) = .ok (.constant w) := by
    rw [compile_constant, eq_ok_of_toOption hValue]
    rfl
  have hConstant : (Operand.constant w).constant?.bind Value.patternText? = some p := hText
  rw [Argument.pattern, hOperand]
  simp only [bind, Except.bind, hConstant]

theorem template_textSearch (a : Pattern.Anchor) (hInput : site.value input = .ok v)
    (hText : c.patternText? = some p) :
    Call.template true a.function (compileEach site [input, .constant c]) =
      .ok (textSearch a v p) := by
  have hFirst : Call.value (compileEach site [input, .constant c]) 0 = .ok v := hInput
  have hSecond : Call.pattern (compileEach site [input, .constant c]) 1 = .ok p.toList :=
    congrArg (Except.map String.toList) (pattern_constant hText)
  cases a with
  | anywhere | atStart | atEnd =>
    rw [Pattern.Anchor.function, Call.template, hFirst, hSecond]
    rfl

section

variable {env : Environment} {s : String}

theorem evaluate_textSearch_emptyEnd (h : evaluate env v = .ok (.string s)) :
    evaluate env (textSearch .atEnd v "") = seekEmptyEnd env s := by
  have hField : env.reference (String.ofList ['$']) = env.fieldValue "" :=
    reference_field (rfl : Text.dollar "" = false)
  have hPattern : Pattern.Anchor.atEnd.pattern "".toList = ['$'] := rfl
  rw [textSearch, hPattern, evaluate_matching_eq_search, h, hField, seekEmptyEnd]
  cases env.fieldValue "" <;> rfl

theorem evaluate_textSearch_of_text {a : Pattern.Anchor} (h : evaluate env v = .ok (.string s))
    (hSome : ¬ (a = .atEnd ∧ p = "")) :
    evaluate env (textSearch a v p) =
      if p.utf8ByteSize ≤ a.maxBytes then .ok (.boolean (decide (a.Finds p.toList s.toList)))
      else .error .invalidRegex := by
  have hDollar : (a.pattern p.toList).head? ≠ some '$' := by
    rw [Ne, Pattern.Anchor.head?_pattern_eq_iff]
    simpa using hSome
  have hBytes : (p.toList.map Char.utf8Size).sum = p.utf8ByteSize := by
    rw [← Text.utf8ByteSize_ofList, String.ofList_toList]
  have hFound : (a.expression p.toList).occursIn s.toList =
      decide (a.Finds p.toList s.toList) := by
    rw [Bool.eq_iff_iff, a.occursIn_expression, decide_eq_true_iff]
  rw [textSearch, evaluate_matching_of_denotes h hDollar (a.denotes_pattern p.toList), hFound]
  simp only [a.isAccepted_expression, hBytes]

end

/-- The functions that seek a text compile to a search that tells whether the text stands where it
should, for every string that is searched. There are two exceptions: the empty text at the end,
whose regular expression is read as a path, and texts that are too long for a regular expression. -/
theorem textSearch_iff (a : Pattern.Anchor) (hCase : site.caseSensitive = true)
    (hInput : site.value input = .ok v) (hText : c.patternText? = some p) :
    site.compile (.call (.standard a.function) [input, .constant c]) =
        site.resolve (.call (.standard a.function) [input, .constant c])
          (.ok (.computed (textSearch a v p))) ∧
      ∀ (env : Environment) (s : String), evaluate env v = .ok (.string s) →
        evaluate env (textSearch a v p) =
          if a = .atEnd ∧ p = "" then seekEmptyEnd env s
          else if p.utf8ByteSize ≤ a.maxBytes then
            .ok (.boolean (decide (a.Finds p.toList s.toList)))
          else .error .invalidRegex := by
  refine ⟨?_, fun env s h => ?_⟩
  · rw [compile_standard (by cases a <;> rfl), hCase, template_textSearch a hInput hText]
    rfl
  · split
    · rename_i hEmpty
      obtain ⟨rfl, rfl⟩ := hEmpty
      exact evaluate_textSearch_emptyEnd h
    · rename_i hSome
      exact evaluate_textSearch_of_text h hSome

theorem textSearch_iff_extension :
    files.compile (.call (.standard .endsWith) [fileName, .constant (.string ".c$")]) =
        .ok (.computed (textSearch .atEnd (.string "$Name") ".c$")) ∧
      evaluate ⟨[("Name", .string "a.c$")], []⟩ (textSearch .atEnd (.string "$Name") ".c$") =
        .ok (.boolean true) := by
  obtain ⟨hCompile, hEvaluate⟩ := @textSearch_iff files fileName (.string "$Name") (.string ".c$")
    ".c$" .atEnd rfl rfl rfl
  refine ⟨hCompile, ?_⟩
  rw [hEvaluate _ "a.c$" rfl]
  rfl

/-- Every string ends with the empty text, but the search for it there fails. -/
theorem not_textSearch_emptyEnd :
    files.compile (.call (.standard .endsWith) [fileName, .constant .null]) =
        .ok (.computed (textSearch .atEnd (.string "$Name") "")) ∧
      Pattern.Anchor.atEnd.Finds "".toList "a.c".toList ∧
      evaluate ⟨[("Name", .string "a.c")], []⟩ (textSearch .atEnd (.string "$Name") "") =
        .error (.invalidArgument "$regexMatch" .regexNotText) :=
  ⟨rfl, by decide, rfl⟩

end Site

end RelPipe
