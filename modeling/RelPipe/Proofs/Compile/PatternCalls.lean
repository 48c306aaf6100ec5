import RelPipe.Compile.Expression
import RelPipe.Proofs.Filter.Native
import RelPipe.Proofs.Regex.Like

/-!
The predicates that search for patterns, and what they find in a string where letter case is
significant.
-/

namespace RelPipe

set_option autoImplicit false

open Pipeline

theorem Pipeline.evaluate_matching_eq_search (env : Environment) (v : Value) (regex : List Char) :
    evaluate env (.matching true v regex) =
      search (evaluate env v) (.ok (env.reference (String.ofList regex))) (.ok .null) := by
  rw [Value.matching, Value.single, evaluate]
  rfl

theorem Pipeline.evaluate_matching {env : Environment} {v : Value} {s : String} {regex : List Char}
    (h : evaluate env v = .ok (.string s)) (hRegex : regex.head? ≠ some '$') :
    evaluate env (.matching true v regex) = (occurs {} (String.ofList regex) s).map .boolean := by
  have hText : env.reference (String.ofList regex) = .string (String.ofList regex) :=
    reference_of_not_dollar (by simpa [Text.dollar] using hRegex)
  rw [evaluate_matching_eq_search, h, hText]
  rfl

/-- What a search for an expression comes to, which may be refused for its size. -/
theorem Pipeline.evaluate_matching_of_denotes {env : Environment} {v : Value} {s : String}
    {regex : List Char} {r : Regex} (h : evaluate env v = .ok (.string s))
    (hRegex : regex.head? ≠ some '$') (hDenotes : Regex.Denotes {} regex r) :
    evaluate env (.matching true v regex) =
      if r.isAccepted then .ok (.boolean (r.occursIn s.toList)) else .error .invalidRegex := by
  rw [evaluate_matching h hRegex, occurs, String.toList_ofList, hDenotes.ofPattern?]
  cases r.isAccepted <;> rfl

theorem Pipeline.evaluate_not_boolean {env : Environment} {e : Value} {b : Bool}
    (h : evaluate env e = .ok (.boolean b)) :
    evaluate env (.apply "$not" [e]) = .ok (.boolean !b) := by
  have hName : Operator.ofName? "$not" = some (.onValues .not) := rfl
  rw [evaluate_onValues hName rfl]
  simp only [evaluateEach, h]
  cases b <;> rfl

namespace Site

variable {site : Site} {input pattern : Expression} {v : Value} {p : String}

theorem compile_call (f : Function) (es : List Expression) :
    site.compile (.call f es) = site.resolve (.call f es)
      ((f.compile site.caseSensitive (compileEach site es)).map .computed) := by
  rw [compile]
  rfl

theorem compile_standard {f : StandardFunction} {es : List Expression}
    (h : f.arity.accepts (compileEach site es).length = true) :
    site.compile (.call (.standard f) es) = site.resolve (.call (.standard f) es)
      ((Call.template site.caseSensitive f (compileEach site es)).map .computed) := by
  rw [compile_call, Function.compile, Call.standard, if_pos h]

def likeSearch (input : Value) (pattern : String) : Value :=
  .matching true input (Pattern.ofLike pattern.toList)

theorem likeCall_eq (hInput : site.value input = .ok v)
    (hPattern : Argument.pattern ⟨pattern, site.compile pattern⟩ = .ok p) :
    likeCall true ⟨input, site.compile input⟩ ⟨pattern, site.compile pattern⟩ =
      .ok (likeSearch v p) := by
  have hValue : Argument.value ⟨input, site.compile input⟩ = .ok v := hInput
  rw [likeCall, hValue, hPattern]
  rfl

theorem custom_like {tag : String} (hTag : Text.lower tag = "like")
    (args : List Argument) : Call.custom true tag args = Call.like true tag args := by
  rw [Call.custom, hTag, if_pos rfl]

theorem custom_notLike {tag : String} (hTag : Text.lower tag = "notlike") (args : List Argument) :
    Call.custom true tag args =
      (Call.like true tag args).map fun search => .apply "$not" [search] := by
  rw [Call.custom, hTag, if_neg (by decide), if_pos rfl]

/-- The operator and the tag search for the same expression, which occurs in the strings without
line feeds that are like the pattern. -/
theorem like_iff (hCase : site.caseSensitive = true) (hInput : site.value input = .ok v)
    (hPattern : Argument.pattern ⟨pattern, site.compile pattern⟩ = .ok p) :
    site.compile (.binary .like input pattern) =
        site.resolve (.binary .like input pattern) (.ok (.computed (likeSearch v p))) ∧
      (∀ tag : String, Text.lower tag = "like" →
        site.compile (.call (.custom tag) [input, pattern]) =
          site.resolve (.call (.custom tag) [input, pattern])
            (.ok (.computed (likeSearch v p)))) ∧
      (∀ tag : String, Text.lower tag = "notlike" →
        site.compile (.call (.custom tag) [input, pattern]) =
          site.resolve (.call (.custom tag) [input, pattern])
            (.ok (.computed (.apply "$not" [likeSearch v p])))) ∧
      ∃ r : Regex, Regex.Denotes {} (Pattern.ofLike p.toList) r ∧
        (∀ text : List Char, '\n' ∉ text →
          (r.occursIn text = true ↔ Pattern.Like p.toList text)) ∧
        (p.toList.length ≤ 10000 → r.isAccepted = true) ∧
        ∀ (env : Environment) (s : String), evaluate env v = .ok (.string s) →
          if r.isAccepted then
            evaluate env (likeSearch v p) = .ok (.boolean (r.occursIn s.toList)) ∧
              evaluate env (.apply "$not" [likeSearch v p]) =
                .ok (.boolean !r.occursIn s.toList)
          else evaluate env (likeSearch v p) = .error .invalidRegex := by
  have hCall := likeCall_eq hInput hPattern
  refine ⟨?_, fun tag hTag => ?_, fun tag hTag => ?_, Pattern.likeRegex p.toList,
    Pattern.denotes_ofLike p.toList, fun text => Pattern.occursIn_likeRegex,
    Pattern.isAccepted_likeRegex, fun env s hs => ?_⟩
  · rw [compile_binary, binary, hCase, hCall]
    rfl
  · rw [compile_call, hCase, Function.compile, custom_like hTag, compileEach, compileEach,
      compileEach, Call.like, hCall]
    rfl
  · rw [compile_call, hCase, Function.compile, custom_notLike hTag, compileEach, compileEach,
      compileEach, Call.like, hCall]
    rfl
  · have hStart : (Pattern.ofLike p.toList).head? ≠ some '$' := by simp [Pattern.ofLike]
    have hSearch := evaluate_matching_of_denotes hs hStart (Pattern.denotes_ofLike p.toList)
    split
    · rename_i hAccepted
      rw [if_pos hAccepted] at hSearch
      exact ⟨hSearch, evaluate_not_boolean hSearch⟩
    · rename_i hRefused
      rwa [if_neg hRefused] at hSearch

def files : Site := ⟨.rooted "f" [], .empty, true⟩

def fileName : Expression := .column ⟨some "f", "Name", .string⟩

theorem like_iff_fileNames :
    files.compile (.binary .like fileName (.constant (.string "_.%"))) =
        .ok (.computed (likeSearch (.string "$Name") "_.%")) ∧
      evaluate ⟨[("Name", .string "a.b")], []⟩ (likeSearch (.string "$Name") "_.%") =
        .ok (.boolean true) ∧
      evaluate ⟨[("Name", .string "a+b")], []⟩
          (.apply "$not" [likeSearch (.string "$Name") "_.%"]) = .ok (.boolean true) := by
  obtain ⟨hCompile, -, -, r, -, hLike, hAccepted, hEvaluate⟩ :=
    @like_iff files fileName (.constant (.string "_.%")) (.string "$Name") "_.%" rfl rfl rfl
  have hDot : Pattern.Like "_.%".toList "a.b".toList :=
    ⟨[['a'], ['.'], ['b']], .cons (.one 'a') (.cons (.self (by decide) (by decide))
      (.cons (.run ['b']) .nil)), rfl⟩
  have hPlus : ¬ Pattern.Like "_.%".toList "a+b".toList := by
    rintro ⟨pieces, hPieces, hText⟩
    cases hPieces with
    | cons hFirst hRest =>
      cases hFirst with
      | one c =>
        cases hRest with
        | cons hSecond _ =>
          cases hSecond
          cases hText
      | self _ hOne => exact hOne rfl
  have hDotValue := hEvaluate ⟨[("Name", .string "a.b")], []⟩ "a.b" rfl
  have hPlusValue := hEvaluate ⟨[("Name", .string "a+b")], []⟩ "a+b" rfl
  rw [if_pos (hAccepted (by decide))] at hDotValue hPlusValue
  refine ⟨hCompile, ?_, ?_⟩
  · rw [hDotValue.1, (hLike _ (by decide)).mpr hDot]
  · rw [hPlusValue.2, Bool.eq_false_iff.mpr fun h => hPlus ((hLike _ (by decide)).mp h)]
    rfl

end Site

end RelPipe
