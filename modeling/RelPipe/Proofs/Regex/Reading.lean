import Mathlib.Data.List.Induction
import RelPipe.Compile.Pattern
import RelPipe.Regex.Reader

/-!
What the pieces of patterns are read as. A piece is read without regard to what comes after it, as
long as that is no question mark, which could belong to a repetition.
-/

namespace RelPipe.Regex.Reader

set_option autoImplicit false

namespace Reading

variable {s s' s'' : Reading} {text text' : List Char}

def Reads (s : Reading) (text : List Char) (s' : Reading) : Prop :=
  text.head? ≠ some '?' ∧ ∃ n ≤ text.length, ∀ (fuel : Nat) (rest : List Char),
    rest.head? ≠ some '?' → run? (fuel + n) s (text ++ rest) = run? fuel s' rest

theorem Reads.nil (s : Reading) : Reads s [] s := ⟨nofun, 0, Nat.le_refl 0, fun _ _ _ => rfl⟩

theorem Reads.append (h : Reads s text s') (h' : Reads s' text' s'') :
    Reads s (text ++ text') s'' := by
  obtain ⟨hHead, n, hn, hRun⟩ := h
  obtain ⟨hHead', n', hn', hRun'⟩ := h'
  have hStart : ∀ {x y : List Char}, x.head? ≠ some '?' → y.head? ≠ some '?' →
      (x ++ y).head? ≠ some '?' := by
    intro x y hx hy
    cases x with
    | nil => exact hy
    | cons c x => exact hx
  refine ⟨hStart hHead hHead', n' + n, ?_, fun fuel rest hRest => ?_⟩
  · rw [List.length_append]
    omega
  · rw [List.append_assoc, ← Nat.add_assoc, hRun _ _ (hStart hHead' hRest), hRun' _ _ hRest]

theorem run?_of_step {c : Char} {cs rest : List Char} (hPlain : s.options.verbose = false)
    (h : s.step? c cs = some (s', rest)) (fuel : Nat) : run? (fuel + 1) s (c :: cs) =
      run? fuel s' rest := by
  rw [run?.eq_def]
  simp only [Options.skip_plain _ hPlain, h]

theorem reads_of_step {c : Char} (hPlain : s.options.verbose = false) (hc : c ≠ '?')
    (h : ∀ rest : List Char, rest.head? ≠ some '?' → s.step? c (text ++ rest) = some (s', rest)) :
    Reads s (c :: text) s' := by
  refine ⟨by simpa using hc, 1, by simp, fun fuel rest hRest => ?_⟩
  exact run?_of_step hPlain (h rest hRest) fuel

theorem run?_of_reads (h : Reads s text s') (hPlain : s'.options.verbose = false)
    (hOuter : s'.outer = []) : run? text.length s text = some s'.level.close := by
  obtain ⟨-, n, hn, hRun⟩ := h
  have hEnd : run? (text.length - n) s' [] = some s'.level.close := by
    rw [run?.eq_def]
    simp [Options.skip_plain _ hPlain, hOuter]
  have hAll := hRun (text.length - n) [] nofun
  rwa [Nat.sub_add_cancel hn, List.append_nil, hEnd] at hAll

/-! Pieces -/

def adding (s : Reading) (parts : List Part) : Reading :=
  { s with level := { s.level with parts := parts.reverse ++ s.level.parts } }

theorem escape?_of_isMeta {c : Char} (h : Pattern.isMeta c = true) (o : Options)
    (rest : List Char) : escape? o (c :: rest) = some (.literal c, rest) := by
  simp only [Pattern.isMeta, List.contains_iff_mem, List.mem_cons, List.not_mem_nil, or_false] at h
  rcases h with rfl | rfl | rfl | rfl | rfl | rfl | rfl | rfl | rfl | rfl | rfl | rfl | rfl | rfl <;>
    rfl

theorem adding_append (s : Reading) (parts parts' : List Part) :
    (s.adding parts).adding parts' = s.adding (parts ++ parts') := by
  simp [adding]

theorem reads_flatMap {α : Type} {f : α → List Char} {part : α → Part}
    (h : ∀ (s : Reading) (a : α), s.options = {} → Reads s (f a) (s.adding [part a]))
    (hOptions : s.options = {}) (items : List α) :
    Reads s (items.flatMap f) (s.adding (items.map part)) := by
  induction items generalizing s with
  | nil => exact .nil s
  | cons a items ih =>
    have hRest := ih (s := s.adding [part a]) hOptions
    rw [adding_append] at hRest
    exact (h s a hOptions).append hRest

section

variable (hOptions : s.options = {})

include hOptions

theorem plain : s.options.verbose = false := by rw [hOptions]

theorem reads_textStart : Reads s ['^'] (s.adding [⟨.look .textStart, 0, true⟩]) := by
  refine reads_of_step (plain hOptions) (by decide) fun rest _ => ?_
  change some (s.add (.look (if s.options.multiline then _ else .textStart)), rest) = _
  rw [hOptions]
  rfl

theorem reads_textEnd : Reads s ['$'] (s.adding [⟨.look .textEnd, 0, true⟩]) := by
  refine reads_of_step (plain hOptions) (by decide) fun rest _ => ?_
  change some (s.add (.look (if s.options.multiline then _ else .textEnd)), rest) = _
  rw [hOptions]
  rfl

theorem reads_dot : Reads s ['.'] (s.adding [⟨.one .inLine, 0, true⟩]) := by
  refine reads_of_step (plain hOptions) (by decide) fun rest _ => ?_
  change (dot? s.options).map (fun set => (s.add (.one set), rest)) = _
  rw [hOptions]
  rfl

theorem reads_dots : Reads s ['.', '*'] (s.adding [⟨.rep (.one .inLine) 0 none, 1, true⟩]) := by
  have hStar : Reads (s.adding [⟨.one .inLine, 0, true⟩]) ['*']
      (s.adding [⟨.rep (.one .inLine) 0 none, 1, true⟩]) := by
    refine reads_of_step (plain hOptions) (by decide) fun rest hRest => ?_
    have hAfter : afterRepetition rest = rest := by
      unfold afterRepetition
      split
      · exact absurd rfl hRest
      · rfl
    simp [step?, repeatLast?, Level.repeatLast?, adding, repeated, isWidthless, hAfter]
  exact (reads_dot hOptions).append hStar

theorem reads_escapeChar (c : Char) :
    Reads s (Pattern.escapeChar c) (s.adding [⟨.one (.single c), 0, true⟩]) := by
  have hLiteral : s.literal c = s.adding [⟨.one (.single c), 0, true⟩] := by
    simp [literal, hOptions, Options.closed, add, adding, Level.add]
  unfold Pattern.escapeChar
  rw [← hLiteral]
  split
  · rename_i hMeta
    refine reads_of_step (plain hOptions) (by decide) fun rest _ => ?_
    simp [step?, escape?_of_isMeta hMeta]
  · rename_i hOrdinary
    have hOthers : ∀ d : Char, Pattern.isMeta d = true → c ≠ d := by
      rintro d hd rfl
      exact hOrdinary hd
    refine reads_of_step (plain hOptions) (hOthers _ rfl) fun rest _ => ?_
    unfold step?
    split <;> first | exact absurd rfl (hOthers _ rfl) | rfl

end

end Reading

/-! Whole patterns -/

theorem maxDepth_le {depths : List Nat} {n : Nat} (h : ∀ d ∈ depths, d ≤ n) :
    Level.maxDepth depths ≤ n := by
  unfold Level.maxDepth
  induction depths using List.reverseRecOn with
  | nil => exact Nat.zero_le n
  | append_singleton depths d ih =>
    rw [List.foldl_append]
    refine Nat.max_le.mpr ⟨ih fun e he => h e (List.mem_append_left [d] he), ?_⟩
    exact h d (List.mem_append_right depths (.head _))

end Reader

/-- A pattern is read as an expression, whatever the size of its automaton. -/
def Denotes (o : Options) (pattern : List Char) (r : Regex) : Prop :=
  ∃ depth ≤ maxDepth, Reader.Reading.run? pattern.length (.start o) pattern = some (r, depth)

def isAccepted (r : Regex) : Bool := r.fits .forward && r.fits .backward

theorem Denotes.ofPattern? {o : Options} {pattern : List Char} {r : Regex}
    (h : Denotes o pattern r) : ofPattern? o pattern = if r.isAccepted then some r else none := by
  obtain ⟨depth, hDepth, hRun⟩ := h
  rw [Regex.ofPattern?, hRun]
  simp [hDepth, isAccepted]

open Reader in
/-- A pattern without groups and alternatives stands for its parts one after the other. -/
theorem denotes_of_reads {text : List Char} {parts : List Part}
    (h : (Reading.start {}).Reads text ((Reading.start {}).adding parts))
    (hDepths : ∀ part ∈ parts, part.depth ≤ 1) :
    Denotes {} text (sequence (parts.map (·.regex))) := by
  have hRun := Reading.run?_of_reads h rfl rfl
  have hClose : ((Reading.start {}).adding parts).level.close =
      (sequence (parts.map (·.regex)), depthOfSeveral parts.length
        (Level.maxDepth (parts.map (·.depth)).reverse)) := by
    simp [Level.close, Level.sequence, Level.maxDepth, Reading.adding, Reading.start, Level.start,
      choice, depthOfSeveral]
  refine ⟨_, ?_, hRun.trans (congrArg some hClose)⟩
  have hParts : Level.maxDepth (parts.map (·.depth)).reverse ≤ 1 :=
    maxDepth_le (by simpa using hDepths)
  unfold depthOfSeveral maxDepth
  split <;> omega

end RelPipe.Regex
