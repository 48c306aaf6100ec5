import RelPipe.Proofs.Compile.PatternCalls
import RelPipe.Proofs.Pipeline.Texts
import RelPipe.Proofs.Text.Trimming

/-!
The functions that count and cut the characters of a text. Their templates compute with lengths at
run time, and a place that comes out negative fails the evaluation.
-/

namespace RelPipe

set_option autoImplicit false

open Pipeline

variable {env : Environment} {v w t l x : Value} {s u : String}

/-- The number that counting comes to: the characters left when both ends are trimmed, and the
spaces at the start. Each of the three lengths is reported in 32 bits. -/
theorem Pipeline.evaluate_trimmedLength (h : evaluate env v = .ok (.string s)) :
    ∃ count : Value, evaluate env (Call.trimmedLength v) = .ok count ∧
      count.integer? =
        some (reportedCount (Text.trimBoth (· == ' ') s.toList) +
          (reportedCount s.toList - reportedCount (s.toList.dropWhile (· == ' ')))) := by
  have hBoth := evaluate_charCount (evaluate_trim .both h)
  have hLeft := evaluate_charCount (evaluate_trim .left h)
  simp only [String.toList_ofList, TrimSide.apply] at hBoth hLeft
  have hAll := bounds_reportedCount s.toList
  have hTrimmed := bounds_reportedCount (Text.trimBoth (· == ' ') s.toList)
  have hRest := bounds_reportedCount (s.toList.dropWhile (· == ' '))
  have hSpaces := evaluate_subtract (evaluate_charCount h) (integer?_reportedCount _) hLeft
    (integer?_reportedCount _)
  rw [if_pos (by constructor <;> omega)] at hSpaces
  have hSum := evaluate_add hBoth (integer?_reportedCount _) hSpaces
    (ArithmeticOp.integer?_narrowed _ (by constructor <;> omega))
  rw [if_pos (by constructor <;> omega)] at hSum
  exact ⟨_, hSum, ArithmeticOp.integer?_narrowed _ (by constructor <;> omega)⟩

theorem Pipeline.reportedCount_trimmed {cs : List Char} (h : cs.length < 2 ^ 31) :
    reportedCount (Text.trimBoth (· == ' ') cs) +
        (reportedCount cs - reportedCount (cs.dropWhile (· == ' '))) =
      if cs.all (· == ' ') then cs.length else (cs.rdropWhile (· == ' ')).length := by
  have hLeft := cs.length_dropWhile_le (· == ' ')
  have hBoth : (Text.trimBoth (· == ' ') cs).length ≤ (cs.dropWhile (· == ' ')).length :=
    (List.rdropWhile_prefix _ _).length_le
  rw [reportedCount_eq h, reportedCount_eq (by omega), reportedCount_eq (by omega)]
  split
  · rename_i hBlank
    obtain ⟨hNone, hNothing⟩ := Text.trimBoth_of_all (· == ' ') (List.all_eq_true.mp hBlank)
    rw [hNone, hNothing]
    simp
  · rename_i hSome
    obtain ⟨c, hc, hOther⟩ : ∃ c ∈ cs, c ≠ ' ' := by simpa using hSome
    have hLengths := Text.length_trimBoth (· == ' ') ⟨c, hc, beq_false_of_ne hOther⟩
    omega

namespace Site

variable {site : Site} {input start text : Expression} {n : Nat}

/-- `Len` counts the characters of a string without the spaces at its end, unless the string is
made of spaces: then it counts them all. From 2 ^ 31 characters on, the lengths that are added and
subtracted are those that 32 bits can report. -/
theorem len_counts (hInput : site.value input = .ok v) :
    site.compile (.call (.standard .len) [input]) =
        site.resolve (.call (.standard .len) [input]) (.ok (.computed (Call.trimmedLength v))) ∧
      ∀ (env : Environment) (s : String), evaluate env v = .ok (.string s) →
        ∃ count : Value, evaluate env (Call.trimmedLength v) = .ok count ∧
          count.integer? =
            some (reportedCount (Text.trimBoth (· == ' ') s.toList) +
              (reportedCount s.toList - reportedCount (s.toList.dropWhile (· == ' ')))) ∧
          (s.toList.length < 2 ^ 31 → count.integer? =
            if s.toList.all (· == ' ') then some (s.toList.length : Int)
            else some ((s.toList.rdropWhile (· == ' ')).length : Int)) := by
  refine ⟨?_, fun env s h => ?_⟩
  · have hValue : Call.value (compileEach site [input]) 0 = .ok v := hInput
    rw [compile_standard rfl, Call.template, hValue]
    rfl
  · obtain ⟨count, hCount, hInteger⟩ := evaluate_trimmedLength h
    refine ⟨count, hCount, hInteger, fun hShort => ?_⟩
    rw [hInteger, reportedCount_trimmed hShort]
    split <;> rfl

theorem len_counts_padded :
    files.compile (.call (.standard .len) [fileName]) =
        .ok (.computed (Call.trimmedLength (.string "$Name"))) ∧
      ∃ count : Value, evaluate ⟨[("Name", .string "  a b ")], []⟩
          (Call.trimmedLength (.string "$Name")) = .ok count ∧ count.integer? = some 5 := by
  obtain ⟨hCompile, hEvaluate⟩ := @len_counts (.string "$Name") files fileName rfl
  obtain ⟨count, hCount, -, hShort⟩ :=
    hEvaluate ⟨[("Name", .string "  a b ")], []⟩ "  a b " rfl
  exact ⟨hCompile, count, hCount, hShort (by decide)⟩

/-- The spaces of a string without anything else are at its start as well as at its end. -/
theorem not_len_blank :
    files.compile (.call (.standard .len) [fileName]) =
        .ok (.computed (Call.trimmedLength (.string "$Name"))) ∧
      evaluate ⟨[("Name", .string "   ")], []⟩ (Call.trimmedLength (.string "$Name")) =
        .ok (.int32 3) ∧
      ("   ".toList.rdropWhile (· == ' ')).length = 0 :=
  ⟨rfl, rfl, rfl⟩

end Site

section Cutting

variable {x y z : Value} {n : Nat} {k : Int}

theorem Pipeline.evaluate_start (h : evaluate env v = .ok (.string s))
    (hw : evaluate env w = .ok x) (hx : x.integer? = some (n : Int)) :
    evaluate env (Call.slice v (.int32 0) w) = .ok (asText (s.toList.take n)) := by
  rw [evaluate_slice h rfl rfl hw hx, part_eq_ok (by decide) (by omega)]
  rfl

def Pipeline.withInserted (cs : List Char) (start : Nat) (inserted : List Char) :
    Result (List Char) :=
  (part cs start (reportedCount cs)).map fun rest => cs.take start ++ inserted ++ rest

theorem Pipeline.evaluate_inserted (h : evaluate env v = .ok (.string s))
    (hw : evaluate env w = .ok x) (hx : x.integer? = some (n : Int))
    (ht : evaluate env t = .ok (.string u)) :
    evaluate env (Call.inserted v w t) = (withInserted s.toList n u.toList).map asText := by
  have hText : evaluate env t = .ok (asText u.toList) := by rw [ht, asText, String.ofList_toList]
  have hRest := evaluate_slice h hw hx (evaluate_charCount h) (integer?_reportedCount _)
  have hJoined := evaluate_concat (.cons (evaluate_start h hw hx) (.cons hText .nil)) hRest
  rw [List.flatten_cons, List.flatten_singleton] at hJoined
  refine hJoined.trans ?_
  rw [withInserted]
  cases part s.toList n (reportedCount s.toList) <;> rfl

/-- The characters of a text without some of them, when the place behind those and the number of
characters from there on are computed in 64 bits. -/
def Pipeline.without (cs : List Char) (start : Nat) (length : Int) : Result (List Char) :=
  if 0x8000000000000000 ≤ start + length then .error (.invalidArgument "$add" .overflow)
  else if reportedCount cs - (start + length) < -0x8000000000000000 then
    .error (.invalidArgument "$subtract" .overflow)
  else
    (part cs (start + length) (reportedCount cs - (start + length))).map fun rest =>
      cs.take start ++ rest

theorem Pipeline.evaluate_slice_error {place length : Value} {e : Error}
    (h : evaluate env v = .ok (.string s))
    (hError : evaluateEach env [place, length] = .error e) :
    evaluate env (Call.slice v place length) =
      (Except.error e : Result (List Char)).map asText := by
  have hName : Operator.ofName? "$substrCP" = some (.onValues .slice) := rfl
  rw [Call.slice, evaluate_onValues hName rfl, evaluateEach, h, hError]
  rfl

theorem Pipeline.evaluate_removed (h : evaluate env v = .ok (.string s))
    (hw : evaluate env w = .ok x) (hx : x.integer? = some (n : Int))
    (hl : evaluate env l = .ok y) (hy : y.integer? = some k) (hk : -0x80000000 ≤ k) :
    evaluate env (Call.removed v w l) = (without s.toList n k).map asText := by
  have hStart := evaluate_start h hw hx
  have hPlace := evaluate_add hw hx hl hy
  have hCount := bounds_reportedCount s.toList
  unfold without
  split
  · rename_i hOverflow
    rw [if_neg fun hFits => absurd hFits.2 (by omega)] at hPlace
    refine evaluate_concat (.cons hStart .nil) (evaluate_slice_error h ?_)
    rw [evaluateEach, hPlace]
    rfl
  rename_i hFits
  rw [if_pos ⟨by omega, by omega⟩] at hPlace
  have hInteger := ArithmeticOp.integer?_narrowed (x.isInt32 && y.isInt32) (n := n + k)
    ⟨by omega, by omega⟩
  have hLength := evaluate_subtract (evaluate_charCount h) (integer?_reportedCount _) hPlace
    hInteger
  split
  · rename_i hOverflow
    rw [if_neg fun hFits => absurd hFits.1 (by omega)] at hLength
    refine evaluate_concat (.cons hStart .nil) (evaluate_slice_error h ?_)
    rw [evaluateEach, hPlace, evaluateEach, hLength]
    rfl
  rename_i hDifference
  rw [if_pos ⟨by omega, by omega⟩] at hLength
  have hRest := evaluate_slice h hPlace hInteger hLength
    (ArithmeticOp.integer?_narrowed _ ⟨by omega, by omega⟩)
  have hJoined := evaluate_concat (.cons hStart .nil) hRest
  rw [List.flatten_singleton] at hJoined
  refine hJoined.trans ?_
  cases part s.toList (n + k) (reportedCount s.toList - (n + k)) <;> rfl

section

variable {cs : List Char} {m : Nat} (hShort : cs.length < 2 ^ 31)
include hShort

theorem Pipeline.part_of_short (n : Nat) : part cs n (reportedCount cs) = .ok (cs.drop n) := by
  rw [reportedCount_eq hShort, part_eq_ok (by omega) (by omega), Int.toNat_natCast,
    Int.toNat_natCast, List.take_of_length_le (by rw [List.length_drop]; omega)]

theorem Pipeline.withInserted_of_short (n : Nat) (inserted : List Char) :
    withInserted cs n inserted = .ok (cs.take n ++ inserted ++ cs.drop n) := by
  rw [withInserted, part_of_short hShort]
  rfl

/-- Characters are left out if they are all there. -/
theorem Pipeline.without_of_short :
    without cs n m =
      if n + m ≤ cs.length then .ok (cs.take n ++ cs.drop (n + m))
      else if n + m < 0x8000000000000000 then .error (.invalidArgument "$substrCP" .negativeIndex)
      else .error (.invalidArgument "$add" .overflow) := by
  unfold without
  rw [reportedCount_eq hShort]
  by_cases hFits : n + m < 0x8000000000000000
  · rw [if_neg (by omega), if_neg (by omega), if_pos hFits]
    split
    · rename_i hThere
      have hPlace : ((n : Int) + m).toNat = n + m := by omega
      have hRest : (cs.drop (n + m)).take ((cs.length : Int) - (n + m)).toNat = cs.drop (n + m) :=
        List.take_of_length_le (by rw [List.length_drop]; omega)
      rw [part_eq_ok (by omega) (by omega), hPlace, hRest]
      rfl
    · rw [part_eq_error (.inr (by omega))]
      rfl
  · rw [if_pos (by omega), if_neg (by omega), if_neg hFits]

end

end Cutting


namespace Site

/-- What a function that cuts texts has for its last argument, which may be absent: the value it
compiles to and the integer this comes to. Without it all characters of the text are meant. -/
inductive Extent (site : Site) (env : Environment) (source : Value) :
    List Expression → Value → Option Nat → Prop
  | absent : Extent site env source [] (Call.charCount source) none
  | given {e : Expression} {l x : Value} {m : Nat} :
    site.value e = .ok l → evaluate env l = .ok x → x.integer? = some (m : Int) →
      Extent site env source [e] l (some m)

variable {site : Site} {input start text : Expression} {rest : List Expression} {m : Option Nat}
  {x : Value} {n : Nat}

namespace Extent

def length (cs : List Char) (m : Option Nat) : Int := m.elim (reportedCount cs) fun m => m

theorem optional (h : Extent site env v rest l m) (input start : Expression) :
    ∃ given, Call.optional (compileEach site (input :: start :: rest)) 2 = .ok given ∧
      given.getD (Call.charCount v) = l := by
  cases h with
  | absent => exact ⟨none, rfl, rfl⟩
  | given hValue => exact ⟨some l, congrArg (Except.map some) hValue, rfl⟩

theorem accepts (h : Extent site env v rest l m) (input start : Expression) {f : StandardFunction}
    (hf : f.arity = StandardFunction.substring.arity) :
    f.arity.accepts (compileEach site (input :: start :: rest)).length = true := by
  rw [hf]
  cases h <;> rfl

theorem evaluate_length (h : Extent site env v rest l m) (hs : evaluate env v = .ok (.string s)) :
    ∃ y : Value, evaluate env l = .ok y ∧ y.integer? = some (length s.toList m) := by
  cases h with
  | absent => exact ⟨_, evaluate_charCount hs, rfl⟩
  | given hValue hy hm => exact ⟨_, hy, hm⟩

theorem le_length (cs : List Char) (m : Option Nat) : -0x80000000 ≤ length cs m := by
  cases m with
  | none => exact (bounds_reportedCount cs).1
  | some m =>
    change (-0x80000000 : Int) ≤ (m : Int)
    omega

theorem length_of_short {cs : List Char} (h : cs.length < 2 ^ 31) :
    length cs m = (m.getD cs.length : Nat) := by
  cases m with
  | none => exact reportedCount_eq h
  | some m => rfl

end Extent

theorem compile_substring (hInput : site.value input = .ok v) (hStart : site.value start = .ok w)
    (hExtent : Extent site env v rest l m) :
    site.compile (.call (.standard .substring) (input :: start :: rest)) =
      site.resolve (.call (.standard .substring) (input :: start :: rest))
        (.ok (.computed (Call.slice v w l))) := by
  have hFirst : Call.value (compileEach site (input :: start :: rest)) 0 = .ok v := hInput
  have hSecond : Call.value (compileEach site (input :: start :: rest)) 1 = .ok w := hStart
  obtain ⟨given, hThird, rfl⟩ := hExtent.optional input start
  rw [compile_standard (hExtent.accepts input start (f := .substring) rfl), Call.template, hFirst,
    hSecond, hThird]
  rfl

theorem compile_insert (hInput : site.value input = .ok v) (hStart : site.value start = .ok w)
    (hText : site.value text = .ok t) :
    site.compile (.call (.standard .insert) [input, start, text]) =
      site.resolve (.call (.standard .insert) [input, start, text])
        (.ok (.computed (Call.inserted v w t))) := by
  have hFirst : Call.value (compileEach site [input, start, text]) 0 = .ok v := hInput
  have hSecond : Call.value (compileEach site [input, start, text]) 1 = .ok w := hStart
  have hThird : Call.value (compileEach site [input, start, text]) 2 = .ok t := hText
  rw [compile_standard rfl, Call.template, hFirst, hSecond, hThird]
  rfl

theorem compile_remove (hInput : site.value input = .ok v) (hStart : site.value start = .ok w)
    (hExtent : Extent site env v rest l m) :
    site.compile (.call (.standard .remove) (input :: start :: rest)) =
      site.resolve (.call (.standard .remove) (input :: start :: rest))
        (.ok (.computed (Call.removed v w l))) := by
  have hFirst : Call.value (compileEach site (input :: start :: rest)) 0 = .ok v := hInput
  have hSecond : Call.value (compileEach site (input :: start :: rest)) 1 = .ok w := hStart
  obtain ⟨given, hThird, rfl⟩ := hExtent.optional input start
  rw [compile_standard (hExtent.accepts input start (f := .remove) rfl), Call.template, hFirst,
    hSecond, hThird]
  rfl

/-- The functions that cut texts, at places that are not negative. `Substring` and `Insert` do what
their names say, and places beyond the end of a string behave like its end. `Remove` fails unless
all characters that are to be removed are there. Strings of 2 ^ 31 characters or more are cut by the
number of their characters that 32 bits can report. -/
theorem cuts_texts (hInput : site.value input = .ok v) (hStart : site.value start = .ok w)
    (hText : site.value text = .ok t) (hExtent : Extent site env v rest l m)
    (hs : evaluate env v = .ok (.string s)) (hw : evaluate env w = .ok x)
    (hx : x.integer? = some (n : Int)) (hu : evaluate env t = .ok (.string u)) :
    (site.compile (.call (.standard .substring) (input :: start :: rest)) =
          site.resolve (.call (.standard .substring) (input :: start :: rest))
            (.ok (.computed (Call.slice v w l))) ∧
        site.compile (.call (.standard .insert) [input, start, text]) =
          site.resolve (.call (.standard .insert) [input, start, text])
            (.ok (.computed (Call.inserted v w t))) ∧
        site.compile (.call (.standard .remove) (input :: start :: rest)) =
          site.resolve (.call (.standard .remove) (input :: start :: rest))
            (.ok (.computed (Call.removed v w l)))) ∧
      (evaluate env (Call.slice v w l) =
          (part s.toList n (Extent.length s.toList m)).map asText ∧
        evaluate env (Call.inserted v w t) = (withInserted s.toList n u.toList).map asText ∧
        evaluate env (Call.removed v w l) =
          (without s.toList n (Extent.length s.toList m)).map asText) ∧
      (s.toList.length < 2 ^ 31 →
        part s.toList n (Extent.length s.toList m) =
            .ok ((s.toList.drop n).take (m.getD s.toList.length)) ∧
          withInserted s.toList n u.toList =
            .ok (s.toList.take n ++ u.toList ++ s.toList.drop n) ∧
          without s.toList n (Extent.length s.toList m) =
            if n + m.getD s.toList.length ≤ s.toList.length then
              .ok (s.toList.take n ++ s.toList.drop (n + m.getD s.toList.length))
            else if n + m.getD s.toList.length < 0x8000000000000000 then
              .error (.invalidArgument "$substrCP" .negativeIndex)
            else .error (.invalidArgument "$add" .overflow)) := by
  obtain ⟨y, hl, hy⟩ := hExtent.evaluate_length hs
  refine ⟨⟨compile_substring hInput hStart hExtent, compile_insert hInput hStart hText,
    compile_remove hInput hStart hExtent⟩, ⟨evaluate_slice hs hw hx hl hy,
    evaluate_inserted hs hw hx hu,
    evaluate_removed hs hw hx hl hy (Extent.le_length s.toList m)⟩, fun hShort => ?_⟩
  rw [Extent.length_of_short hShort]
  exact ⟨part_eq_ok (by omega) (by omega), withInserted_of_short hShort n u.toList,
    without_of_short hShort⟩

theorem cuts_texts_letters :
    files.compile (.call (.standard .remove)
        [fileName, .constant (.int32 1), .constant (.int32 2)]) =
        .ok (.computed (Call.removed (.string "$Name") (.int32 1) (.int32 2))) ∧
      evaluate ⟨[("Name", .string "abcde")], []⟩
          (Call.slice (.string "$Name") (.int32 1) (.int32 2)) = .ok (.string "bc") ∧
      evaluate ⟨[("Name", .string "abcde")], []⟩
          (Call.inserted (.string "$Name") (.int32 1) (.string "XY")) = .ok (.string "aXYbcde") ∧
      evaluate ⟨[("Name", .string "abcde")], []⟩
          (Call.removed (.string "$Name") (.int32 1) (.int32 2)) = .ok (.string "ade") := by
  obtain ⟨⟨-, -, hCompile⟩, ⟨hSlice, hInserted, hRemoved⟩, hShort⟩ :=
    @cuts_texts ⟨[("Name", .string "abcde")], []⟩ (.string "$Name") (.int32 1) (.string "XY")
      (.int32 2) "abcde" "XY" files fileName (.constant (.int32 1)) (.constant (.string "XY"))
      [.constant (.int32 2)] (some 2) (.int32 1) 1 rfl rfl rfl
      (.given (x := .int32 2) rfl rfl rfl) rfl rfl rfl rfl
  obtain ⟨hPart, hWith, hWithout⟩ := hShort (by decide)
  rw [hPart] at hSlice
  rw [hWith] at hInserted
  rw [hWithout] at hRemoved
  exact ⟨hCompile, hSlice, hInserted, hRemoved⟩

/-- Without a length, what is removed is as long as the string, and the place behind it is beyond
its end. -/
theorem not_cuts_rest :
    files.compile (.call (.standard .remove) [fileName, .constant (.int32 2)]) =
        .ok (.computed (Call.removed (.string "$Name") (.int32 2)
          (Call.charCount (.string "$Name")))) ∧
      evaluate ⟨[("Name", .string "abc")], []⟩
          (Call.removed (.string "$Name") (.int32 2) (Call.charCount (.string "$Name"))) =
        .error (.invalidArgument "$substrCP" .negativeIndex) :=
  ⟨rfl, rfl⟩

end Site

end RelPipe
