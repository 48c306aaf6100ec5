import Mathlib.Data.List.Forall2
import RelPipe.Proofs.Regex.Footprint
import RelPipe.Proofs.Regex.Reading
import RelPipe.Proofs.Regex.Search

/-!
LIKE patterns and what their regular expressions find. A text without line feeds is found just if it
can be cut into pieces of which each is what one character of the pattern stands for.
-/

namespace RelPipe.Pattern

set_option autoImplicit false

open Regex

inductive Takes : Char → List Char → Prop where
  | run (piece : List Char) : Takes '%' piece
  | one (c : Char) : Takes '_' [c]
  | self {c : Char} (hRun : c ≠ '%') (hOne : c ≠ '_') : Takes c [c]

/-- A text is cut into what the characters of a pattern stand for. -/
def Like (pattern text : List Char) : Prop :=
  ∃ pieces : List (List Char), List.Forall₂ Takes pattern pieces ∧ pieces.flatten = text

theorem like_nil {text : List Char} : Like [] text ↔ text = [] := by
  constructor
  · rintro ⟨pieces, hPieces, rfl⟩
    rw [List.forall₂_nil_left_iff.mp hPieces, List.flatten_nil]
  · rintro rfl
    exact ⟨[], .nil, rfl⟩

theorem like_cons {c : Char} {pattern text : List Char} :
    Like (c :: pattern) text ↔
      ∃ first second, text = first ++ second ∧ Takes c first ∧ Like pattern second := by
  constructor
  · rintro ⟨pieces, hPieces, rfl⟩
    obtain ⟨first, rest, hFirst, hRest, rfl⟩ := List.forall₂_cons_left_iff.mp hPieces
    exact ⟨first, rest.flatten, rfl, hFirst, rest, hRest, rfl⟩
  · rintro ⟨first, second, rfl, hFirst, rest, hRest, rfl⟩
    exact ⟨first :: rest, .cons hFirst hRest, rfl⟩

/-! The expression of a pattern -/

def likePart (c : Char) : Reader.Part :=
  if c = '%' then ⟨.rep (.one .inLine) 0 none, 1, true⟩
  else if c = '_' then ⟨.one .inLine, 0, true⟩
  else ⟨.one (.single c), 0, true⟩

def likeRegex (pattern : List Char) : Regex :=
  Regex.sequence
    (.look .textStart :: (pattern.map fun c => (likePart c).regex) ++ [.look .textEnd])

open Reader in
theorem reads_likeChar {s : Reading} (h : s.options = {}) (c : Char) :
    s.Reads (likeChar c) (s.adding [likePart c]) := by
  unfold likeChar likePart
  split
  · exact Reading.reads_dots h
  · split
    · exact Reading.reads_dot h
    · exact Reading.reads_escapeChar h c

open Reader in
theorem reads_ofLike (pattern : List Char) :
    (Reading.start {}).Reads (ofLike pattern) ((Reading.start {}).adding
      ([⟨.look .textStart, 0, true⟩] ++ pattern.map likePart ++ [⟨.look .textEnd, 0, true⟩])) := by
  have hStart := Reading.reads_textStart (s := .start {}) rfl
  have hChars := Reading.reads_flatMap (fun s c h => reads_likeChar h c)
    (s := (Reading.start {}).adding [⟨.look .textStart, 0, true⟩]) rfl pattern
  rw [Reading.adding_append] at hChars
  have hAll := (hStart.append hChars).append (Reading.reads_textEnd rfl)
  rwa [Reading.adding_append] at hAll

theorem denotes_ofLike (pattern : List Char) : Denotes {} (ofLike pattern) (likeRegex pattern) := by
  have hParts := denotes_of_reads (reads_ofLike pattern) fun part hPart => ?_
  · simpa [likeRegex, Function.comp_def] using hParts
  · simp only [List.mem_append, List.mem_singleton, List.mem_map] at hPart
    obtain (rfl | ⟨c, -, rfl⟩) | rfl := hPart
    · exact Nat.zero_le 1
    · unfold likePart
      split
      · exact Nat.le_refl 1
      · split <;> exact Nat.zero_le 1
    · exact Nat.zero_le 1

theorem footprint_likePart_le (d : Direction) (c : Char) :
    (footprint d (likePart c).regex).alone ≤ maxPartSize := by
  unfold likePart
  split
  · exact footprint_dots_le d
  · split
    · exact footprint_dot_le d
    · exact footprint_single_le d c

/-- Ten thousand characters are never too many. -/
theorem isAccepted_likeRegex {pattern : List Char} (h : pattern.length ≤ 10000) :
    (likeRegex pattern).isAccepted = true := by
  have hFits : ∀ d : Direction, (likeRegex pattern).fits d = true := by
    intro d
    refine fits_sequence (fun r hr => ?_) (by simp; omega)
    simp only [List.mem_append, List.mem_cons, List.mem_map, List.not_mem_nil, or_false] at hr
    obtain (rfl | ⟨c, -, rfl⟩) | rfl := hr
    · cases d <;> decide
    · exact footprint_likePart_le d c
    · cases d <;> decide
  rw [isAccepted, hFits, hFits]
  rfl

/-! What it finds -/

theorem matches_likePart {c : Char} {before : Option Char} {text after : List Char}
    (h : '\n' ∉ text) : (likePart c).regex.Matches before text after ↔ Takes c text := by
  have hInLine : ∀ d ∈ text, CharSet.inLine.contains d = true := by
    rintro d hd
    rw [CharSet.contains_inLine, decide_eq_true_iff]
    rintro rfl
    exact h hd
  unfold likePart
  split
  · rename_i hRun
    subst hRun
    exact ⟨fun _ => .run text, fun _ => matches_anyNumber hInLine⟩
  · rename_i hRun
    split
    · rename_i hOne
      subst hOne
      constructor
      · rintro ⟨d, -, rfl⟩
        exact .one d
      · intro hTakes
        cases hTakes with
        | one d => exact ⟨d, hInLine d (.head _), rfl⟩
        | self hRun hOne => exact absurd rfl hOne
    · rename_i hOne
      constructor
      · rintro ⟨d, hSame, rfl⟩
        rw [CharSet.contains_single, decide_eq_true_iff] at hSame
        subst hSame
        exact .self hRun hOne
      · intro hTakes
        cases hTakes with
        | run => exact absurd rfl hRun
        | one => exact absurd rfl hOne
        | self => exact ⟨c, by simp [CharSet.contains_single], rfl⟩

theorem matchesAll_likeParts {pattern : List Char} {before : Option Char} {text after : List Char}
    (h : '\n' ∉ text) :
    MatchesAll (pattern.map fun c => (likePart c).regex) before text after ↔ Like pattern text := by
  induction pattern generalizing before text with
  | nil => exact like_nil.symm
  | cons c pattern ih =>
    rw [like_cons, List.map_cons, MatchesAll]
    constructor
    · rintro ⟨first, second, rfl, hFirst, hSecond⟩
      rw [List.mem_append, not_or] at h
      exact ⟨first, second, rfl, (matches_likePart h.1).mp hFirst, (ih h.2).mp hSecond⟩
    · rintro ⟨first, second, rfl, hFirst, hSecond⟩
      rw [List.mem_append, not_or] at h
      exact ⟨first, second, rfl, (matches_likePart h.1).mpr hFirst, (ih h.2).mpr hSecond⟩

theorem ordered_likeRegex (pattern : List Char) : (likeRegex pattern).Ordered := by
  refine ordered_sequence fun r hr => ?_
  simp only [List.mem_append, List.mem_cons, List.mem_map, List.not_mem_nil, or_false] at hr
  obtain (rfl | ⟨c, -, rfl⟩) | rfl := hr
  · trivial
  · unfold likePart
    split
    · exact ⟨trivial, nofun⟩
    · split <;> trivial
  · trivial

/-- The expression of a LIKE pattern occurs in the texts that are like the pattern. -/
theorem occursIn_likeRegex {pattern text : List Char} (h : '\n' ∉ text) :
    (likeRegex pattern).occursIn text = true ↔ Like pattern text := by
  rw [occursIn_iff (ordered_likeRegex pattern), likeRegex, matches_sequence]
  simp only [List.cons_append, matchesAll_textStart, matchesAll_textEnd, lastOf_eq_none_iff]
  constructor
  · rintro ⟨_, found, _, rfl, rfl, rfl, hFound⟩
    have hText : '\n' ∉ found := by simpa using h
    simpa using (matchesAll_likeParts hText).mp hFound
  · intro hLike
    exact ⟨[], text, [], by simp, rfl, rfl, (matchesAll_likeParts h).mpr hLike⟩

end RelPipe.Pattern
