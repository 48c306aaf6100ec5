import RelPipe.Proofs.Regex.Footprint
import RelPipe.Proofs.Regex.Reading
import RelPipe.Proofs.Regex.Search

/-!
Searches for a text that stands for itself. It may be held at the start or at the end of the text
that is searched. The expression for it occurs in the texts that contain it, begin with it or end
with it, and it is refused just if the text has too many bytes.
-/

namespace RelPipe

set_option autoImplicit false

theorem Text.utf8ByteSize_ofList (cs : List Char) :
    (String.ofList cs).utf8ByteSize = (cs.map Char.utf8Size).sum := by
  induction cs with
  | nil => rfl
  | cons c cs ih =>
    rw [String.ofList_cons, String.utf8ByteSize_append, String.utf8ByteSize_singleton, ih]
    rfl

namespace Pattern

open Regex

inductive Anchor where
  | anywhere
  | atStart
  | atEnd
deriving DecidableEq

namespace Anchor

def Finds : Anchor → List Char → List Char → Prop
  | anywhere, sought, text => sought <:+: text
  | atStart, sought, text => sought <+: text
  | atEnd, sought, text => sought <:+ text

instance (a : Anchor) (sought text : List Char) : Decidable (a.Finds sought text) :=
  match a with
  | anywhere => inferInstanceAs (Decidable (sought <:+: text))
  | atStart => inferInstanceAs (Decidable (sought <+: text))
  | atEnd => inferInstanceAs (Decidable (sought <:+ text))

def pattern : Anchor → List Char → List Char
  | anywhere, sought => escape sought
  | atStart, sought => '^' :: escape sought
  | atEnd, sought => escape sought ++ ['$']

theorem exists_escapeChar (c : Char) : ∃ d ds, escapeChar c = d :: ds ∧ d ≠ '$' := by
  unfold escapeChar
  split
  · exact ⟨'\\', [c], rfl, by decide⟩
  · rename_i hOrdinary
    refine ⟨c, [], rfl, ?_⟩
    rintro rfl
    exact hOrdinary rfl

/-- Only the regular expression for an empty text at the end begins with a dollar sign. -/
theorem head?_pattern_eq_iff {a : Anchor} {sought : List Char} :
    (a.pattern sought).head? = some '$' ↔ a = .atEnd ∧ sought = [] := by
  cases sought with
  | nil => cases a <;> simp [pattern, escape]
  | cons c sought =>
    obtain ⟨d, ds, hFirst, hd⟩ := exists_escapeChar c
    cases a <;> simp [pattern, escape, hFirst, hd]

def parts : Anchor → List Char → List Regex
  | anywhere, sought => sought.map fun c => .one (.single c)
  | atStart, sought => .look .textStart :: sought.map fun c => .one (.single c)
  | atEnd, sought => (sought.map fun c => .one (.single c)) ++ [.look .textEnd]

def expression (a : Anchor) (sought : List Char) : Regex := sequence (a.parts sought)

theorem mem_parts {a : Anchor} {sought : List Char} {r : Regex} (h : r ∈ a.parts sought) :
    (∃ c, r = .one (.single c)) ∨ ∃ l, r = .look l := by
  cases a with
  | anywhere =>
    obtain ⟨c, -, rfl⟩ := List.mem_map.mp h
    exact .inl ⟨c, rfl⟩
  | atStart =>
    obtain rfl | h := List.mem_cons.mp h
    · exact .inr ⟨_, rfl⟩
    · obtain ⟨c, -, rfl⟩ := List.mem_map.mp h
      exact .inl ⟨c, rfl⟩
  | atEnd =>
    obtain h | h := List.mem_append.mp h
    · obtain ⟨c, -, rfl⟩ := List.mem_map.mp h
      exact .inl ⟨c, rfl⟩
    · exact .inr ⟨_, List.mem_singleton.mp h⟩

open Reader in
theorem reads_pattern (a : Anchor) (sought : List Char) :
    (Reading.start {}).Reads (a.pattern sought)
      ((Reading.start {}).adding ((a.parts sought).map fun r => ⟨r, 0, true⟩)) := by
  have hText : ∀ s : Reading, s.options = {} → s.Reads (escape sought)
      (s.adding (sought.map fun c => ⟨.one (.single c), 0, true⟩)) := fun s hs =>
    Reading.reads_flatMap (fun s c h => Reading.reads_escapeChar h c) hs sought
  cases a with
  | anywhere => simpa [pattern, parts, Function.comp_def] using hText (.start {}) rfl
  | atStart =>
    have hAll := (Reading.reads_textStart (s := .start {}) rfl).append (hText _ rfl)
    rw [Reading.adding_append] at hAll
    simpa [pattern, parts, Function.comp_def] using hAll
  | atEnd =>
    have hAll := (hText (.start {}) rfl).append (Reading.reads_textEnd rfl)
    rw [Reading.adding_append] at hAll
    simpa [pattern, parts, Function.comp_def] using hAll

theorem denotes_pattern (a : Anchor) (sought : List Char) :
    Denotes {} (a.pattern sought) (a.expression sought) := by
  have hParts := denotes_of_reads (a.reads_pattern sought) fun part hPart => ?_
  · simpa [expression, Function.comp_def] using hParts
  · obtain ⟨r, -, rfl⟩ := List.mem_map.mp hPart
    exact Nat.zero_le 1

/-! What it finds -/

theorem matchesAll_singles {sought text after : List Char} {before : Option Char} :
    MatchesAll (sought.map fun c => .one (.single c)) before text after ↔ text = sought := by
  induction sought generalizing before text with
  | nil => exact Iff.rfl
  | cons c sought ih =>
    rw [List.map_cons, MatchesAll]
    constructor
    · rintro ⟨first, second, rfl, ⟨d, hSame, rfl⟩, hRest⟩
      rw [CharSet.contains_single, decide_eq_true_iff] at hSame
      subst hSame
      exact congrArg (d :: ·) (ih.mp hRest)
    · rintro rfl
      exact ⟨[c], sought, rfl, ⟨c, by simp [CharSet.contains_single], rfl⟩, ih.mpr rfl⟩

theorem occursIn_expression (a : Anchor) (sought text : List Char) :
    (a.expression sought).occursIn text = true ↔ a.Finds sought text := by
  have hOrdered : (a.expression sought).Ordered := by
    refine ordered_sequence fun r hr => ?_
    obtain ⟨c, rfl⟩ | ⟨l, rfl⟩ := mem_parts hr <;> trivial
  rw [occursIn_iff hOrdered, expression, matches_sequence]
  cases a with
  | anywhere =>
    simp only [parts, matchesAll_singles]
    constructor
    · rintro ⟨passed, _, rest, rfl, rfl⟩
      exact ⟨passed, rest, rfl⟩
    · rintro ⟨passed, rest, rfl⟩
      exact ⟨passed, sought, rest, rfl, rfl⟩
  | atStart =>
    simp only [parts, matchesAll_textStart, matchesAll_singles, lastOf_eq_none_iff]
    constructor
    · rintro ⟨_, _, rest, rfl, rfl, rfl⟩
      exact ⟨rest, rfl⟩
    · rintro ⟨rest, rfl⟩
      exact ⟨[], sought, rest, rfl, rfl, rfl⟩
  | atEnd =>
    simp only [parts, matchesAll_textEnd, matchesAll_singles]
    constructor
    · rintro ⟨passed, _, _, rfl, rfl, rfl⟩
      exact ⟨passed, by simp⟩
    · rintro ⟨passed, rfl⟩
      exact ⟨passed, sought, [], by simp, rfl, rfl⟩

/-! How long the sought text may be -/

/-- The most bytes that a sought text may have. Each byte takes a state, and so does an anchor. -/
def maxBytes (a : Anchor) : Nat :=
  (maxFootprint - frameSize .forward) / stateSize - (a.parts []).length

theorem footprint_expression (a : Anchor) (d : Direction) (sought : List Char) :
    (footprint d (a.expression sought)).alone =
      stateSize * max 1 ((sought.map Char.utf8Size).sum + (a.parts []).length) := by
  have hText : ((sought.map fun c => Regex.one (.single c)).map fun r =>
      (footprint d r).alone).sum = stateSize * (sought.map Char.utf8Size).sum := by
    induction sought with
    | nil => rfl
    | cons c sought ih =>
      simp only [List.map_cons, List.sum_cons, footprint_single] at ih ⊢
      rw [ih, Nat.mul_add]
  have hParts : ∀ r ∈ a.parts sought, r ≠ .empty := by
    intro r hr
    obtain ⟨c, rfl⟩ | ⟨l, rfl⟩ := mem_parts hr <;> nofun
  have hLook : ∀ l : Look, (footprint d (.look l)).alone = stateSize := fun _ => rfl
  cases a with
  | anywhere =>
    cases sought with
    | nil => rfl
    | cons c sought =>
      have hByte := c.utf8Size_pos
      rw [expression, footprint_sequence d hParts (List.cons_ne_nil _ _), parts, hText]
      simp only [List.map_cons, List.sum_cons, parts, List.map_nil, List.length_nil, Nat.add_zero]
      rw [Nat.max_eq_right (by omega)]
  | atStart =>
    rw [expression, footprint_sequence d hParts (List.cons_ne_nil _ _), parts, List.map_cons,
      List.sum_cons, hText, hLook]
    simp only [parts, List.map_nil, List.length_singleton]
    rw [Nat.max_eq_right (by omega), Nat.mul_succ, Nat.add_comm]
  | atEnd =>
    rw [expression, footprint_sequence d hParts (by simp [parts]), parts, List.map_append,
      List.sum_append, hText, List.map_singleton, List.sum_singleton, hLook]
    simp only [parts, List.map_nil, List.nil_append, List.length_singleton]
    rw [Nat.max_eq_right (by omega), Nat.mul_succ]

theorem isAccepted_expression (a : Anchor) (sought : List Char) :
    (a.expression sought).isAccepted = true ↔ (sought.map Char.utf8Size).sum ≤ a.maxBytes := by
  rw [isAccepted, fits, fits, footprint_expression, footprint_expression, Bool.and_eq_true,
    decide_eq_true_iff, decide_eq_true_iff, maxBytes]
  have hLooks : (a.parts []).length ≤ 1 := by cases a <;> decide
  simp only [frameSize, stateSize, maxFootprint]
  omega

end Anchor

end Pattern

end RelPipe
