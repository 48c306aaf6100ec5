import Mathlib.Algebra.GroupWithZero.Nat
import Mathlib.Tactic.SplitIfs
import RelPipe.Regex.Footprint

/-!
How large automata become. States that are shared save memory, so what a set takes is at most what
it takes without any sharing.
-/

namespace RelPipe.Regex

set_option autoImplicit false

/-- What the states for sequences of byte ranges take if each sequence has its own. -/
def unsharedSize : (length : Nat) → List (List ByteRange) → Nat
  | 0, _ => 0
  | length + 1, sequences =>
    if sequences.all List.isEmpty then 0
    else
      stateSize + rangeSize * (groupByHead sequences).length +
        ((groupByHead sequences).map fun group => unsharedSize length group.2).sum

theorem States.size_foldl_le {add : List (List ByteRange) → States → Nat × States}
    {bound : List (List ByteRange) → Nat}
    (hAdd : ∀ tails states, (add tails states).2.size ≤ states.size + bound tails)
    (groups : List (ByteRange × List (List ByteRange))) (done : List (ByteRange × Nat))
    (states : States) :
    ∃ done' states', groups.foldl (fun built group => ((group.1, (add group.2 built.2).1) :: built.1,
        (add group.2 built.2).2)) (done, states) = (done', states') ∧
      done'.length = done.length + groups.length ∧
      states'.size ≤ states.size + (groups.map fun group => bound group.2).sum := by
  induction groups generalizing done states with
  | nil => exact ⟨done, states, rfl, rfl, Nat.le_refl _⟩
  | cons group groups ih =>
    obtain ⟨done', states', hFold, hLength, hSize⟩ :=
      ih ((group.1, (add group.2 states).1) :: done) (add group.2 states).2
    have hFirst := hAdd group.2 states
    refine ⟨done', states', hFold, ?_, ?_⟩
    · simp only [List.length_cons] at hLength ⊢
      omega
    · simp only [List.map_cons, List.sum_cons]
      omega

theorem States.size_add_le (length : Nat) (sequences : List (List ByteRange)) (states : States) :
    (States.add length sequences states).2.size ≤ states.size + unsharedSize length sequences := by
  induction length generalizing sequences states with
  | zero => exact Nat.le_add_right _ _
  | succ length ih =>
    rw [States.add, unsharedSize]
    split
    · exact Nat.le_refl _
    · obtain ⟨transitions, states', hStates, hLength, hSize⟩ :=
        size_foldl_le ih (groupByHead sequences) [] states
      erw [hStates]
      simp only [List.length_nil, Nat.zero_add] at hLength
      dsimp only
      split
      · dsimp only
        omega
      · dsimp only
        rw [hLength]
        omega

theorem footprint_andThen_le (d : Direction) (r q : Regex) :
    (footprint d (r.andThen q)).alone ≤ (footprint d r).alone + (footprint d q).alone := by
  unfold andThen
  split
  · exact Nat.le_add_left _ _
  · exact Nat.le_add_right _ _
  · exact Nat.le_refl _

theorem footprint_sequence_le {d : Direction} {n : Nat} {parts : List Regex}
    (h : ∀ r ∈ parts, (footprint d r).alone ≤ n) :
    (footprint d (sequence parts)).alone ≤ stateSize + n * parts.length := by
  induction parts with
  | nil => exact Nat.le_refl _
  | cons r parts ih =>
    rw [List.forall_mem_cons] at h
    have hFirst := footprint_andThen_le d r (sequence parts)
    have hRest := ih h.2
    have hLength : n * (r :: parts).length = n * parts.length + n := Nat.mul_succ n parts.length
    have hSequence : sequence (r :: parts) = r.andThen (sequence parts) := rfl
    rw [hSequence]
    omega

theorem andThen_empty (r : Regex) : r.andThen .empty = r := by
  cases r <;> rfl

theorem andThen_of_ne_empty {r q : Regex} (hr : r ≠ .empty) (hq : q ≠ .empty) :
    r.andThen q = .seq r q := by
  unfold andThen
  split
  · exact absurd rfl hr
  · exact absurd rfl hq
  · rfl

theorem sequence_ne_empty {parts : List Regex} (h : ∀ r ∈ parts, r ≠ .empty) (hSome : parts ≠ []) :
    sequence parts ≠ .empty := by
  induction parts with
  | nil => exact absurd rfl hSome
  | cons r parts ih =>
    rw [List.forall_mem_cons] at h
    change r.andThen (sequence parts) ≠ .empty
    by_cases hLast : parts = []
    · subst hLast
      change r.andThen .empty ≠ .empty
      rw [andThen_empty]
      exact h.1
    · rw [andThen_of_ne_empty h.1 (ih h.2 hLast)]
      nofun

/-- Nothing is shared between the parts of a sequence. -/
theorem footprint_sequence (d : Direction) {parts : List Regex} (h : ∀ r ∈ parts, r ≠ .empty)
    (hSome : parts ≠ []) :
    (footprint d (sequence parts)).alone = (parts.map fun r => (footprint d r).alone).sum := by
  induction parts with
  | nil => exact absurd rfl hSome
  | cons r parts ih =>
    rw [List.forall_mem_cons] at h
    change (footprint d (r.andThen (sequence parts))).alone = _
    by_cases hLast : parts = []
    · subst hLast
      change (footprint d (r.andThen .empty)).alone = _
      rw [andThen_empty, List.map_singleton, List.sum_singleton]
    · rw [andThen_of_ne_empty h.1 (sequence_ne_empty h.2 hLast), List.map_cons, List.sum_cons,
        ← ih h.2 hLast]
      rfl

theorem byteLength_toNat (c : Char) : byteLength c.toNat = c.utf8Size := by
  have hSize : c.utf8Size = if c.toNat ≤ 0x7f then 1 else if c.toNat ≤ 0x7ff then 2 else
      if c.toNat ≤ 0xffff then 3 else 4 := by
    unfold Char.utf8Size
    simp only [UInt32.le_iff_toNat_le]
    rfl
  rw [hSize, byteLength]
  split_ifs <;> first | rfl | omega

theorem footprint_single (d : Direction) (c : Char) :
    (footprint d (.one (.single c))).alone = stateSize * c.utf8Size := by
  have hOnly : (CharSet.single c).only? = some c.toNat := by
    simp [CharSet.only?, CharSet.single, CharSet.range]
  simp only [footprint, Footprint.ofSize, setFootprint, hOnly, byteLength_toNat]

def maxPartSize : Nat := 1040

theorem footprint_single_le (d : Direction) (c : Char) :
    (footprint d (.one (.single c))).alone ≤ maxPartSize := by
  have hBytes := c.utf8Size_le_four
  rw [footprint_single]
  simp only [stateSize, maxPartSize]
  omega

theorem setFootprint_inLine_le (d : Direction) : setFootprint d .inLine ≤ 1000 := by
  cases d with
  | forward =>
    have hShared := States.size_add_le 4 (setSequences .inLine) ⟨∅, 0⟩
    have hSize : setFootprint .forward .inLine =
        stateSize + (States.add 4 (setSequences .inLine) ⟨∅, 0⟩).2.size := rfl
    have hUnshared : stateSize + unsharedSize 4 (setSequences .inLine) ≤ 1000 := by decide +kernel
    rw [hSize]
    dsimp only at hShared
    omega
  | backward => decide +kernel

theorem footprint_dot_le (d : Direction) : (footprint d (.one .inLine)).alone ≤ maxPartSize :=
  Nat.le_trans (setFootprint_inLine_le d) (by decide)

theorem footprint_dots_le (d : Direction) :
    (footprint d (.rep (.one .inLine) 0 none)).alone ≤ maxPartSize := by
  have hDot := setFootprint_inLine_le d
  have hSize : (footprint d (.rep (.one .inLine) 0 none)).alone =
      setFootprint d .inLine + (stateSize + 2 * branchSize) := rfl
  rw [hSize]
  simp only [stateSize, branchSize, maxPartSize]
  omega

/-- The sequences that are never refused for their size. -/
theorem fits_sequence {d : Direction} {parts : List Regex}
    (h : ∀ r ∈ parts, (footprint d r).alone ≤ maxPartSize) (hLength : parts.length ≤ 10002) :
    (sequence parts).fits d = true := by
  have hSequence := footprint_sequence_le h
  have hFrame : frameSize d ≤ 7 * stateSize := by cases d <;> decide
  have hParts : maxPartSize * parts.length ≤ maxPartSize * 10002 := Nat.mul_le_mul_left _ hLength
  rw [fits, decide_eq_true_iff]
  simp only [stateSize, maxPartSize, maxFootprint] at *
  omega

end RelPipe.Regex
