import RelPipe.Json.Reader
import RelPipe.Proofs.Json.Decode

/-!
Written JSON text is read as the value that was written, cut off at the limit of nesting.
-/

namespace RelPipe.Json

set_option autoImplicit false

theorem ofMembers_named (members : List (String × Json)) :
    ofMembers (members.reverse.map fun m => (some m.1, m.2)) = .object members := by
  have hNamed : (members.map fun m => ((some m.1 : Option String), m.2)).mapM
      (fun m => m.1.map (·, m.2)) = some members := by
    induction members with
    | nil => rfl
    | cons m members ih => simp [ih]
  rw [ofMembers, ← List.map_reverse, List.reverse_reverse, hNamed]

/-- An array or an object that is closed at some depth was nested one level less deeply. -/
theorem within_sub {j : Json} {closed : Nat → Json} (hZero : j.within 0 = .unreadable)
    (hSucc : ∀ n, j.within (n + 1) = closed n) (limit depth : Nat) :
    j.within (limit - depth) =
      if depth + 1 ≤ limit then closed (limit - (depth + 1)) else .unreadable := by
  cases h : limit - depth with
  | zero => rw [if_neg (by omega), hZero]
  | succ n =>
    obtain rfl : limit - (depth + 1) = n := by omega
    rw [if_pos (by omega), hSucc]

theorem array_within (items : List Json) (limit depth : Nat) :
    (array items).within (limit - depth) = if depth + 1 ≤ limit then
      .array (itemsWithin items (limit - (depth + 1))) else .unreadable :=
  within_sub rfl (fun _ => rfl) limit depth

theorem object_within (members : List (String × Json)) (limit depth : Nat) :
    (object members).within (limit - depth) = if depth + 1 ≤ limit then
      .object (membersWithin members (limit - (depth + 1))) else .unreadable :=
  within_sub rfl (fun _ => rfl) limit depth

namespace Parsing

variable {limit : Nat}

theorem run?_cons {p next : Parsing} {t : Token} (h : p.step? t = some next) (ts : List Token) :
    p.run? (t :: ts) = next.run? ts := by
  rw [run?, h]

/-- Where an array may end, a value may stand as well. -/
theorem run?_value {p next : Parsing} {t : Token}
    (hExpect : p.expectation = .value ∨ p.expectation = .valueOrEnd) (hStart : t ≠ .closeArray)
    (hValue : p.value? t = some next) (ts : List Token) : p.run? (t :: ts) = next.run? ts := by
  obtain ⟨limit, depth, stack, e⟩ := p
  refine run?_cons ?_ ts
  obtain rfl | rfl : e = .value ∨ e = .valueOrEnd := hExpect
  · exact hValue
  · cases t with
    | closeArray => exact absurd rfl hStart
    | _ => exact hValue

mutual

theorem run?_tokens : (j : Json) → isExact j = true →
    ∀ (depth : Nat) (stack : List Frame) (e : Expectation) (ts : List Token),
      e = .value ∨ e = .valueOrEnd →
        run? ⟨limit, depth, stack, e⟩ (j.tokens ++ ts) =
          run? ⟨limit, depth, stack, .next (j.within (limit - depth))⟩ ts
  | .null, _, _, _, _, ts, hExpect => run?_value hExpect (by simp) rfl ts
  | .bool _, _, _, _, _, ts, hExpect => run?_value hExpect (by simp) rfl ts
  | .integer _, _, _, _, _, ts, hExpect => run?_value hExpect (by simp) rfl ts
  | .string _, _, _, _, _, ts, hExpect => run?_value hExpect (by simp) rfl ts
  | .float _, h, _, _, _, _, _ => absurd h Bool.false_ne_true
  | .unreadable, h, _, _, _, _, _ => absurd h Bool.false_ne_true
  | .array items, h, depth, stack, e, ts, hExpect => by
    rw [tokens, List.cons_append, run?_value hExpect (by simp) rfl]
    exact run?_itemTokens items h depth stack ts
  | .object members, h, depth, stack, e, ts, hExpect => by
    rw [tokens, List.cons_append, run?_value hExpect (by simp) rfl]
    exact run?_memberTokens members h depth stack ts
termination_by structural j => j

theorem run?_itemTokens : (items : List Json) → areExact items = true →
    ∀ (depth : Nat) (stack : List Frame) (ts : List Token),
      run? ⟨limit, depth + 1, .array [] :: stack, .valueOrEnd⟩ (itemTokens items ++ ts) =
        run? ⟨limit, depth, stack, .next ((array items).within (limit - depth))⟩ ts
  | [], _, depth, stack, ts => by
    rw [array_within]
    exact run?_cons rfl ts
  | j :: rest, h, depth, stack, ts => by
    obtain ⟨hItem, hRest⟩ := Bool.and_eq_true_iff.mp h
    rw [itemTokens, List.append_assoc, run?_tokens j hItem _ _ _ _ (.inr rfl), array_within]
    exact run?_laterItemTokens rest hRest _ [] depth stack ts
termination_by structural items => items

theorem run?_laterItemTokens : (items : List Json) → areExact items = true →
    ∀ (j : Json) (read : List Json) (depth : Nat) (stack : List Frame) (ts : List Token),
      run? ⟨limit, depth + 1, .array read.reverse :: stack, .next j⟩ (laterItemTokens items ++ ts) =
        run? ⟨limit, depth, stack, .next (if depth + 1 ≤ limit then
          .array (read ++ j :: itemsWithin items (limit - (depth + 1))) else .unreadable)⟩ ts
  | [], _, j, read, depth, stack, ts => by
    have hValue : Json.array (j :: read.reverse).reverse = .array (read ++ [j]) := by simp
    rw [itemsWithin, ← hValue]
    exact run?_cons rfl ts
  | j' :: rest, h, j, read, depth, stack, ts => by
    obtain ⟨hItem, hRest⟩ := Bool.and_eq_true_iff.mp h
    have hNext := run?_tokens j' hItem (depth + 1) (.array (j :: read.reverse) :: stack) .value
      (laterItemTokens rest ++ ts) (.inl rfl)
    have hLater := run?_laterItemTokens rest hRest (j'.within (limit - (depth + 1))) (read ++ [j])
      depth stack ts
    rw [List.reverse_append, List.append_assoc] at hLater
    rw [laterItemTokens, List.cons_append, List.append_assoc, run?_cons rfl]
    exact hNext.trans hLater
termination_by structural items => items

theorem run?_memberTokens : (members : List (String × Json)) → membersAreExact members = true →
    ∀ (depth : Nat) (stack : List Frame) (ts : List Token),
      run? ⟨limit, depth + 1, stack, .nameOrEnd⟩ (memberTokens members ++ ts) =
        run? ⟨limit, depth, stack, .next ((object members).within (limit - depth))⟩ ts
  | [], _, depth, stack, ts => by
    rw [object_within]
    exact run?_cons rfl ts
  | (name, j) :: rest, h, depth, stack, ts => by
    obtain ⟨hMember, hRest⟩ := Bool.and_eq_true_iff.mp h
    have hFirst := run?_tokens j hMember (depth + 1) (.object [] (some name) :: stack) .value
      (laterMemberTokens rest ++ ts) (.inl rfl)
    rw [memberTokens, List.cons_append, List.cons_append, List.append_assoc, run?_cons rfl,
      run?_cons rfl, object_within]
    exact hFirst.trans (run?_laterMemberTokens rest hRest name _ [] depth stack ts)
termination_by structural members => members

theorem run?_laterMemberTokens : (members : List (String × Json)) →
    membersAreExact members = true →
    ∀ (name : String) (j : Json) (read : List (String × Json)) (depth : Nat) (stack : List Frame)
      (ts : List Token),
      run? ⟨limit, depth + 1,
          .object (read.reverse.map fun m => (some m.1, m.2)) (some name) :: stack, .next j⟩
          (laterMemberTokens members ++ ts) =
        run? ⟨limit, depth, stack, .next (if depth + 1 ≤ limit then
          .object (read ++ (name, j) :: membersWithin members (limit - (depth + 1)))
          else .unreadable)⟩ ts
  | [], _, name, j, read, depth, stack, ts => by
    have hObject := ofMembers_named (read ++ [(name, j)])
    rw [List.reverse_append, List.map_append] at hObject
    rw [membersWithin, ← hObject]
    exact run?_cons rfl ts
  | (name', j') :: rest, h, name, j, read, depth, stack, ts => by
    obtain ⟨hMember, hRest⟩ := Bool.and_eq_true_iff.mp h
    have hNext := run?_tokens j' hMember (depth + 1)
      (.object ((some name, j) :: read.reverse.map fun m => (some m.1, m.2)) (some name') :: stack)
      .value (laterMemberTokens rest ++ ts) (.inl rfl)
    have hLater := run?_laterMemberTokens rest hRest name' (j'.within (limit - (depth + 1)))
      (read ++ [(name, j)]) depth stack ts
    rw [List.reverse_append, List.map_append, List.append_assoc] at hLater
    rw [laterMemberTokens, List.cons_append, List.cons_append, List.cons_append, List.append_assoc,
      run?_cons rfl, run?_cons rfl, run?_cons rfl]
    exact hNext.trans hLater
termination_by structural members => members

end

end Parsing

theorem ofTextWithin?_text {j : Json} (h : j.isExact = true) (limit : Nat) :
    ofTextWithin? limit j.text = some (j.within limit) := by
  have hRun := @Parsing.run?_tokens limit j h 0 [] .value [] (.inl rfl)
  rw [List.append_nil] at hRun
  rw [ofTextWithin?, tokens?_text h]
  exact hRun

end RelPipe.Json
