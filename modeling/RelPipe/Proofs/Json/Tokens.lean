import Mathlib.Algebra.Group.Nat.Defs
import Mathlib.Data.List.TakeWhile
import RelPipe.Json.Token
import RelPipe.Json.Printer
import RelPipe.Proofs.Text.Numeral

/-!
The tokens of written JSON text. Values without floating-point numbers are taken apart into exactly
the tokens that they were put together from.
-/

namespace RelPipe.Json

set_option autoImplicit false

mutual

/-- Whether a value is written in full: there are no floating-point numbers in it, no unreadable
parts and no integers of more than 64 bits. -/
def isExact : Json → Bool
  | .integer n => -0x8000000000000000 ≤ n && n < 0x10000000000000000
  | .float _ | .unreadable => false
  | .array items => areExact items
  | .object members => membersAreExact members
  | _ => true
termination_by structural j => j

def areExact : List Json → Bool
  | [] => true
  | j :: rest => isExact j && areExact rest
termination_by structural js => js

def membersAreExact : List (String × Json) → Bool
  | [] => true
  | (_, j) :: rest => isExact j && membersAreExact rest
termination_by structural members => members

end

mutual

def tokens : Json → List Token
  | .string s => [.string (some s)]
  | .array items => .openArray :: itemTokens items
  | .object members => .openObject :: memberTokens members
  | j => [.scalar j]
termination_by structural j => j

def itemTokens : List Json → List Token
  | [] => [.closeArray]
  | j :: rest => tokens j ++ laterItemTokens rest
termination_by structural js => js

def laterItemTokens : List Json → List Token
  | [] => [.closeArray]
  | j :: rest => .comma :: (tokens j ++ laterItemTokens rest)
termination_by structural js => js

def memberTokens : List (String × Json) → List Token
  | [] => [.closeObject]
  | (name, j) :: rest => .string (some name) :: .colon :: (tokens j ++ laterMemberTokens rest)
termination_by structural members => members

def laterMemberTokens : List (String × Json) → List Token
  | [] => [.closeObject]
  | (name, j) :: rest =>
    .comma :: .string (some name) :: .colon :: (tokens j ++ laterMemberTokens rest)
termination_by structural members => members

end

/-! Characters after which the token before them is complete -/

/-- Whether a value may end before a text. -/
def EndsBefore (cs : List Char) : Prop := ∀ c ∈ cs.head?, c = ',' ∨ c = ']' ∨ c = '\x7d'

/-- A text is taken apart into tokens wherever a value may end after it. -/
def ReadsAs (cs : List Char) (ts : List Token) : Prop :=
  ∀ done rest, EndsBefore rest →
    tokensFrom? .between done (cs ++ rest) = tokensFrom? .between (ts.reverse ++ done) rest

theorem tokensFrom?_cons {r next : Reading} {c : Char} {ts : List Token}
    (h : step? r c = some (next, ts)) (done : List Token) (cs : List Char) :
    tokensFrom? r done (c :: cs) = tokensFrom? next (ts.reverse ++ done) cs := by
  rw [tokensFrom?, h]

theorem ReadsAs.nil : ReadsAs [] [] := fun _ _ _ => rfl

theorem ReadsAs.cons {c : Char} {t : Token} {cs : List Char} {ts : List Token}
    (hStart : start? c = some (.between, [t])) (h : ReadsAs cs ts) :
    ReadsAs (c :: cs) (t :: ts) := by
  intro done rest hRest
  have hStep : step? .between c = some (.between, [t]) := hStart
  rw [List.cons_append, tokensFrom?_cons hStep, h _ rest hRest]
  simp

theorem ReadsAs.append {cs ds : List Char} {ts us : List Token} (h : ReadsAs cs ts)
    (hEnds : ∀ rest, EndsBefore (ds ++ rest)) (hRest : ReadsAs ds us) :
    ReadsAs (cs ++ ds) (ts ++ us) := by
  intro done rest hAfter
  rw [List.append_assoc, h done _ (hEnds rest), hRest _ rest hAfter, List.reverse_append,
    List.append_assoc]

/-! Strings -/

theorem escaped?_of_escapeLetter? {c letter : Char} (h : escapeLetter? c = some letter) :
    letter ≠ 'u' ∧ escaped? letter = some c := by
  unfold escapeLetter? at h
  split at h
  all_goals cases h
  all_goals exact ⟨by decide, rfl⟩

theorem ne_of_escapeLetter?_eq_none {c : Char} (h : escapeLetter? c = none) :
    c ≠ '"' ∧ c ≠ '\\' := by
  constructor
  all_goals
    rintro rfl
    cases h

/-- A control character is read from the four hexadecimal digits it is written with. -/
theorem tokensFrom?_control (characters : List Char) {c : Char} (h : c.toNat < 0x20)
    (done : List Token) (cs : List Char) :
    tokensFrom? (.string (some characters)) done
        ('\\' :: 'u' :: Text.Hex.padded 4 c.toNat ++ cs) =
      tokensFrom? (.string (some (c :: characters))) done cs := by
  have hValue := Text.Hex.natural?_padded (Nat.lt_trans h (by decide) : c.toNat < 16 ^ 4)
  obtain ⟨d₁, d₂, d₃, d₄, hDigits⟩ : ∃ d₁ d₂ d₃ d₄,
      Text.Hex.padded 4 c.toNat = [d₁, d₂, d₃, d₄] := by
    have hLength := Text.Hex.length_padded 4 c.toNat
    match Text.Hex.padded 4 c.toNat, hLength with
    | [d₁, d₂, d₃, d₄], _ => exact ⟨d₁, d₂, d₃, d₄, rfl⟩
  rw [hDigits] at hValue ⊢
  have hUnit : codeUnit (some characters) none c.toNat = .string (some (c :: characters)) := by
    have hLow : ¬ (0xd800 ≤ c.toNat) ∧ ¬ (0xdc00 ≤ c.toNat) := by omega
    simp [codeUnit, hLow, Characters.push, Char.ofNat_toNat]
  have hRead : step? (.unicode (some characters) none [d₃, d₂, d₁]) d₄ =
      some (.string (some (c :: characters)), []) := by
    change (Text.Hex.natural? [d₁, d₂, d₃, d₄]).map _ = _
    rw [hValue, Option.map_some, hUnit]
  exact tokensFrom?_cons hRead done cs

theorem tokensFrom?_encodeChar (characters : List Char) (c : Char) (done : List Token)
    (cs : List Char) :
    tokensFrom? (.string (some characters)) done (encodeChar c ++ cs) =
      tokensFrom? (.string (some (c :: characters))) done cs := by
  rw [encodeChar]
  split
  · rename_i letter hLetter
    obtain ⟨hPlain, hEscaped⟩ := escaped?_of_escapeLetter? hLetter
    have hRead : step? (.escape (some characters)) letter =
        some (.string (some (c :: characters)), []) := by
      rw [step?, inEscape?, if_neg hPlain, hEscaped]
      rfl
    exact tokensFrom?_cons hRead done cs
  · rename_i hLetter
    obtain ⟨hQuote, hBackslash⟩ := ne_of_escapeLetter?_eq_none hLetter
    split
    · rename_i hControl
      exact tokensFrom?_control characters hControl done cs
    · rename_i hVisible
      have hRead : step? (.string (some characters)) c =
          some (.string (some (c :: characters)), []) := by
        rw [step?, inString?, if_neg hQuote, if_neg hBackslash, if_neg hVisible]
        rfl
      exact tokensFrom?_cons hRead done cs

theorem tokensFrom?_encode (characters cs : List Char) (done : List Token) (rest : List Char) :
    tokensFrom? (.string (some characters)) done (cs.flatMap encodeChar ++ rest) =
      tokensFrom? (.string (some (cs.reverse ++ characters))) done rest := by
  induction cs generalizing characters with
  | nil => rfl
  | cons c cs ih =>
    rw [List.flatMap_cons, List.append_assoc, tokensFrom?_encodeChar, ih, List.reverse_cons,
      List.append_assoc]
    rfl

theorem tokensFrom?_quote (s : String) (done : List Token) (rest : List Char) :
    tokensFrom? .between done ((quote s).toList ++ rest) =
      tokensFrom? .between (.string (some s) :: done) rest := by
  have hText : (quote s).toList ++ rest = '"' :: (s.toList.flatMap encodeChar ++ '"' :: rest) := by
    simp [quote]
  have hStart : step? .between '"' = some (.string (some []), []) := rfl
  have hEnd : step? (.string (some s.toList.reverse)) '"' =
      some (.between, [.string (some s)]) := by
    simp [step?, inString?]
  rw [hText, tokensFrom?_cons hStart, tokensFrom?_encode, List.append_nil, tokensFrom?_cons hEnd]
  rfl

theorem ReadsAs.quote_append {cs : List Char} {ts : List Token} (s : String) (h : ReadsAs cs ts) :
    ReadsAs ((quote s).toList ++ cs) (.string (some s) :: ts) := by
  intro done rest hRest
  rw [List.append_assoc, tokensFrom?_quote, h _ rest hRest, List.reverse_cons, List.append_assoc]
  rfl

/-! Words and numbers, which end where the next token starts -/

theorem tokensFrom?_finish {r : Reading} {t : Token} (hFinish : finish? r = some [t])
    (hStep : ∀ c, c = ',' ∨ c = ']' ∨ c = '\x7d' → step? r c = restart? r c)
    (done : List Token) {rest : List Char} (hRest : EndsBefore rest) :
    tokensFrom? r done rest = tokensFrom? .between (t :: done) rest := by
  cases rest with
  | nil =>
    rw [tokensFrom?, hFinish, tokensFrom?, Option.map_some, List.reverse_cons]
    exact congrArg some (List.append_nil _).symm
  | cons c cs =>
    have hEnd := hRest c rfl
    obtain ⟨u, hStart⟩ : ∃ u, step? .between c = some (.between, [u]) := by
      obtain rfl | rfl | rfl := hEnd
      all_goals exact ⟨_, rfl⟩
    have hRestart : step? r c = some (.between, [t, u]) := by
      change start? c = _ at hStart
      rw [hStep c hEnd, restart?, hFinish, hStart]
      rfl
    rw [tokensFrom?_cons hRestart, tokensFrom?_cons hStart]
    rfl

theorem readsAs_word {cs : List Char} {j : Json} (letters : List Char)
    (hRead : ∀ done rest,
      tokensFrom? .between done (cs ++ rest) = tokensFrom? (.word letters) done rest)
    (hWord : word? letters.reverse = some j) : ReadsAs cs [.scalar j] := by
  intro done rest hRest
  have hFinish : finish? (.word letters) = some [.scalar j] := by rw [finish?, hWord]; rfl
  rw [hRead, tokensFrom?_finish hFinish _ done hRest]
  · rfl
  · rintro c (rfl | rfl | rfl)
    all_goals rfl

theorem tokensFrom?_number {characters cs : List Char} (h : ∀ c ∈ cs, isNumberCharacter c = true)
    (done : List Token) (rest : List Char) :
    tokensFrom? (.number characters) done (cs ++ rest) =
      tokensFrom? (.number (cs.reverse ++ characters)) done rest := by
  induction cs generalizing characters with
  | nil => rfl
  | cons c cs ih =>
    have hStep : step? (.number characters) c = some (.number (c :: characters), []) :=
      if_pos (h c (.head _))
    rw [List.cons_append, tokensFrom?_cons hStep, List.reverse_nil, List.nil_append,
      ih fun d hd => h d (.tail _ hd), List.reverse_cons, List.append_assoc]
    rfl

theorem readsAs_number {c : Char} {cs : List Char} {j : Json}
    (hStart : start? c = some (.number [c], [])) (hRest : ∀ d ∈ cs, isNumberCharacter d = true)
    (hNumber : number? (c :: cs) = some j) : ReadsAs (c :: cs) [.scalar j] := by
  intro done rest hAfter
  have hFinish : finish? (.number (cs.reverse ++ [c])) = some [.scalar j] := by
    rw [finish?, List.reverse_append, List.reverse_reverse, List.reverse_singleton,
      List.singleton_append, hNumber]
    rfl
  rw [List.cons_append, tokensFrom?_cons (r := .between) hStart, tokensFrom?_number hRest,
    tokensFrom?_finish hFinish _ _ hAfter]
  · rfl
  · rintro c (rfl | rfl | rfl)
    all_goals rfl

theorem isNumeral_of_isDigit {c : Char} {cs : List Char} (hAll : ∀ d ∈ c :: cs, d.isDigit = true)
    (hZero : cs = [] ∨ c ≠ '0') :
    isNumeral (c :: cs) = true ∧ isNumeral ('-' :: c :: cs) = true := by
  have hSign : c ≠ '-' := by
    rintro rfl
    exact absurd (hAll _ (.head _)) (by decide)
  have hWhole : (c :: cs).takeWhile Char.isDigit = c :: cs := List.takeWhile_eq_self_iff.mpr hAll
  have hRest : (c :: cs).dropWhile Char.isDigit = [] :=
    List.dropWhile_eq_nil_iff.mpr fun d hd => hAll d hd
  simp [isNumeral, hSign, hWhole, hRest, hZero]

theorem isNumeral_digits (n : Nat) :
    isNumeral (Text.Numeral.digits n) = true ∧ isNumeral ('-' :: Text.Numeral.digits n) = true := by
  have hAll : ∀ d ∈ Text.Numeral.digits n, d.isDigit = true :=
    fun d hd => Text.Numeral.isDigit_of_mem_digits hd
  rcases Nat.eq_zero_or_pos n with rfl | hPos
  · exact ⟨rfl, rfl⟩
  · have hHead := Text.Numeral.head?_digits_ne hPos
    obtain ⟨c, cs, hDigits, -⟩ := Text.Numeral.exists_digits n
    rw [hDigits] at hAll hHead ⊢
    exact isNumeral_of_isDigit hAll (.inr fun h => hHead (congrArg some h))

theorem number?_ofInt {n : Int} (h : isExact (.integer n) = true) :
    number? (Text.Numeral.ofInt n).toList = some (.integer n) := by
  have hRange : -0x8000000000000000 ≤ n ∧ n < 0x10000000000000000 := by
    simpa [isExact] using h
  have hRead := Text.Numeral.integer?_ofInt n
  rcases Int.lt_or_le n 0 with hNegative | hNonneg
  · rw [Text.Numeral.toList_ofInt_of_neg hNegative] at hRead ⊢
    simp [number?, isNumeral_digits, hRead, hNegative, hRange]
  · obtain ⟨c, cs, hDigits, hDigit⟩ := Text.Numeral.exists_digits n.natAbs
    have hSign : (Text.Numeral.digits n.natAbs).head? ≠ some '-' := by
      rw [hDigits]
      rintro ⟨⟩
      exact absurd hDigit (by decide)
    rw [Text.Numeral.toList_ofInt_of_nonneg hNonneg] at hRead ⊢
    simp [number?, isNumeral_digits, hRead, hSign, hRange]

theorem start?_of_isDigit {c : Char} (h : c.isDigit = true) :
    start? c = some (.number [c], []) := by
  have hNe : ∀ d : Char, d.isDigit = false → c ≠ d := by
    rintro d hd rfl
    exact Bool.false_ne_true (hd.symm.trans h)
  have hBlank : isBlank c = false := by
    simp [isBlank, hNe ' ' rfl, hNe '\n' rfl, hNe '\t' rfl, hNe '\r' rfl]
  simp [start?, hBlank, hNe '[' rfl, hNe ']' rfl, hNe '\x7b' rfl, hNe '\x7d' rfl, hNe ',' rfl,
    hNe ':' rfl, hNe '"' rfl, h]

theorem readsAs_ofInt {n : Int} (h : isExact (.integer n) = true) :
    ReadsAs (Text.Numeral.ofInt n).toList [.scalar (.integer n)] := by
  have hNumber := number?_ofInt h
  have hPart : ∀ d ∈ Text.Numeral.digits n.natAbs, isNumberCharacter d = true := fun d hd => by
    simp [isNumberCharacter, Text.Numeral.isDigit_of_mem_digits hd]
  rcases Int.lt_or_le n 0 with hNegative | hNonneg
  · rw [Text.Numeral.toList_ofInt_of_neg hNegative] at hNumber ⊢
    exact readsAs_number rfl hPart hNumber
  · obtain ⟨c, cs, hDigits, hDigit⟩ := Text.Numeral.exists_digits n.natAbs
    rw [Text.Numeral.toList_ofInt_of_nonneg hNonneg, hDigits] at hNumber ⊢
    rw [hDigits] at hPart
    exact readsAs_number (start?_of_isDigit hDigit) (fun d hd => hPart d (.tail _ hd)) hNumber

/-! Arrays and objects -/

/-- What follows the first of several texts that are joined by commas, up to a closing bracket. -/
def laterText (texts : List String) (bracket : Char) : List Char :=
  (texts.flatMap fun t => ',' :: t.toList) ++ [bracket]

theorem toList_join_cons (s : String) (texts : List String) (bracket : Char) :
    (Text.join "," (s :: texts)).toList ++ [bracket] = s.toList ++ laterText texts bracket := by
  induction texts generalizing s with
  | nil => simp [Text.join, laterText]
  | cons t texts ih => simp [Text.join, ih t, laterText]

theorem endsBefore_laterText (texts : List String) {bracket : Char}
    (h : bracket = ']' ∨ bracket = '\x7d') (rest : List Char) :
    EndsBefore (laterText texts bracket ++ rest) := by
  cases texts with
  | nil =>
    rintro c ⟨⟩
    exact .inr h
  | cons t texts =>
    rintro c ⟨⟩
    exact .inl rfl

mutual

/-- The text of a value is taken apart into the tokens of the value. -/
theorem readsAs_text : (j : Json) → isExact j = true → ReadsAs (text j).toList (tokens j)
  | .null, _ => readsAs_word "null".toList.reverse (fun _ _ => rfl) rfl
  | .bool true, _ => readsAs_word "true".toList.reverse (fun _ _ => rfl) rfl
  | .bool false, _ => readsAs_word "false".toList.reverse (fun _ _ => rfl) rfl
  | .integer _, h => readsAs_ofInt h
  | .float _, h => absurd h Bool.false_ne_true
  | .unreadable, h => absurd h Bool.false_ne_true
  | .string s, _ => by
    rw [text, tokens, ← List.append_nil (quote s).toList]
    exact ReadsAs.nil.quote_append s
  | .array items, h => by
    have hItems := readsAs_items items h
    have hText : (text (.array items)).toList =
        '[' :: ((Text.join "," (itemTexts items)).toList ++ [']']) := by simp [text]
    rw [hText, tokens]
    exact hItems.cons rfl
  | .object members, h => by
    have hMembers := readsAs_members members h
    have hText : (text (.object members)).toList =
        '\x7b' :: ((Text.join "," (memberTexts members)).toList ++ ['\x7d']) := by simp [text]
    rw [hText, tokens]
    exact hMembers.cons rfl
termination_by structural j => j

theorem readsAs_items : (items : List Json) → areExact items = true →
    ReadsAs ((Text.join "," (itemTexts items)).toList ++ [']']) (itemTokens items)
  | [], _ => ReadsAs.nil.cons rfl
  | j :: rest, h => by
    obtain ⟨hItem, hRest⟩ := Bool.and_eq_true_iff.mp h
    rw [itemTexts, toList_join_cons, itemTokens]
    exact (readsAs_text j hItem).append (endsBefore_laterText _ (.inl rfl))
      (readsAs_laterItems rest hRest)
termination_by structural items => items

theorem readsAs_laterItems : (items : List Json) → areExact items = true →
    ReadsAs (laterText (itemTexts items) ']') (laterItemTokens items)
  | [], _ => ReadsAs.nil.cons rfl
  | j :: rest, h => by
    obtain ⟨hItem, hRest⟩ := Bool.and_eq_true_iff.mp h
    have hText : laterText (itemTexts (j :: rest)) ']' =
        ',' :: ((text j).toList ++ laterText (itemTexts rest) ']') := by
      simp [itemTexts, laterText]
    rw [hText, laterItemTokens]
    refine ReadsAs.cons rfl ?_
    exact (readsAs_text j hItem).append (endsBefore_laterText _ (.inl rfl))
      (readsAs_laterItems rest hRest)
termination_by structural items => items

theorem readsAs_members : (members : List (String × Json)) → membersAreExact members = true →
    ReadsAs ((Text.join "," (memberTexts members)).toList ++ ['\x7d']) (memberTokens members)
  | [], _ => ReadsAs.nil.cons rfl
  | (name, j) :: rest, h => by
    obtain ⟨hMember, hRest⟩ := Bool.and_eq_true_iff.mp h
    have hText : (quote name ++ ":" ++ text j).toList =
        (quote name).toList ++ ':' :: (text j).toList := by simp
    rw [memberTexts, toList_join_cons, memberTokens, hText, List.append_assoc]
    refine ReadsAs.quote_append name (ReadsAs.cons rfl ?_)
    exact (readsAs_text j hMember).append (endsBefore_laterText _ (.inr rfl))
      (readsAs_laterMembers rest hRest)
termination_by structural members => members

theorem readsAs_laterMembers : (members : List (String × Json)) →
    membersAreExact members = true →
    ReadsAs (laterText (memberTexts members) '\x7d') (laterMemberTokens members)
  | [], _ => ReadsAs.nil.cons rfl
  | (name, j) :: rest, h => by
    obtain ⟨hMember, hRest⟩ := Bool.and_eq_true_iff.mp h
    have hText : laterText (memberTexts ((name, j) :: rest)) '\x7d' =
        ',' :: ((quote name).toList ++
          ':' :: ((text j).toList ++ laterText (memberTexts rest) '\x7d')) := by
      simp [memberTexts, laterText]
    rw [hText, laterMemberTokens]
    refine ReadsAs.cons rfl (ReadsAs.quote_append name (ReadsAs.cons rfl ?_))
    exact (readsAs_text j hMember).append (endsBefore_laterText _ (.inr rfl))
      (readsAs_laterMembers rest hRest)
termination_by structural members => members

end

theorem tokens?_text {j : Json} (h : j.isExact = true) : tokens? j.text.toList = some j.tokens := by
  have hRead := readsAs_text j h [] [] (fun _ hc => absurd hc (by simp))
  rw [tokens?, ← List.append_nil j.text.toList, hRead]
  simp [tokensFrom?, finish?]

end RelPipe.Json
