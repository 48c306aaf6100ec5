import Mathlib.Data.List.Infix
import RelPipe.Proofs.Text.Trimming
import RelPipe.Statement.ColumnName

/-!
Normal forms of column names. A normal form is tidy: it has no suffix, no backslashes and no dots at
its ends. Whether an association marker is left in it depends on the marks before each dot of the
name, since an exclamation mark and a dot are read together only where nothing, a backslash, or an
exclamation mark and a backslash stand between them. A name is normalized for good if and only if no
marker is left.
-/

namespace RelPipe.ColumnName

set_option autoImplicit false

/-! What is left of a name -/

theorem joinEscapedMarkers_sublist (cs : List Char) : (joinEscapedMarkers cs).Sublist cs := by
  fun_induction joinEscapedMarkers cs with
  | case1 cs ih => exact ((ih.cons_cons '.').cons '\\').cons '!'
  | case2 c cs _ ih => exact ih.cons_cons c
  | case3 => exact .slnil

theorem joinMarkers_sublist (cs : List Char) : (joinMarkers cs).Sublist cs := by
  fun_induction joinMarkers cs with
  | case1 cs ih => exact (ih.cons_cons '.').cons '!'
  | case2 c cs _ ih => exact ih.cons_cons c
  | case3 => exact .slnil

def untrimmed (cs : List Char) : List Char :=
  (joinMarkers (joinEscapedMarkers cs)).filter (· ≠ '\\')

theorem untrimmed_sublist (cs : List Char) : (untrimmed cs).Sublist cs :=
  List.filter_sublist.trans ((joinMarkers_sublist _).trans (joinEscapedMarkers_sublist cs))

theorem normalizeChars_eq (cs : List Char) :
    normalizeChars cs = Text.trimBoth (· == '.') (untrimmed (Text.before ',' cs)) := rfl

theorem normalizeChars_sublist (cs : List Char) : (normalizeChars cs).Sublist cs :=
  (Text.trimBoth_infix _ _).sublist.trans
    ((untrimmed_sublist _).trans (List.takeWhile_sublist _))

/-- A text without suffix, without backslashes and without dots at its ends. -/
structure Tidy (cs : List Char) : Prop where
  comma : ',' ∉ cs
  backslash : '\\' ∉ cs
  start : cs.head? ≠ some '.'
  finish : cs.getLast? ≠ some '.'

theorem comma_not_mem_before (cs : List Char) : ',' ∉ Text.before ',' cs := by
  intro h
  simpa using List.mem_takeWhile_imp h

theorem before_of_not_mem {cs : List Char} (h : ',' ∉ cs) : Text.before ',' cs = cs := by
  refine List.takeWhile_eq_self_iff.mpr fun c hc => ?_
  rw [decide_eq_true_eq]
  rintro rfl
  exact h hc

theorem tidy_normalizeChars (cs : List Char) : Tidy (normalizeChars cs) where
  comma h :=
    comma_not_mem_before cs
      (((Text.trimBoth_infix _ _).sublist.trans (untrimmed_sublist _)).subset h)
  backslash h := by
    have hKept := (List.mem_filter.mp ((Text.trimBoth_infix _ _).subset h)).2
    simp at hKept
  start := Text.head?_trimBoth_ne _ (by decide) _
  finish := Text.getLast?_trimBoth_ne _ (by decide) _

def marker : List Char := ['!', '.']

theorem joinMarkers_eq_self_iff (cs : List Char) : joinMarkers cs = cs ↔ ¬ marker <:+: cs := by
  fun_induction joinMarkers cs with
  | case1 cs ih =>
    refine iff_of_false (fun hSame => ?_) (fun hNone => hNone ⟨[], cs, rfl⟩)
    have hLength := congrArg List.length hSame
    have hLe := (joinMarkers_sublist cs).length_le
    simp only [List.length_cons] at hLength
    omega
  | case2 c cs hOther ih =>
    rw [List.cons.injEq, List.infix_cons_iff, ih, not_or, and_iff_right rfl]
    refine (and_iff_right fun hPrefix => ?_).symm
    obtain ⟨rest, hRest⟩ := hPrefix
    exact hOther rest (List.cons.inj hRest).1.symm (List.cons.inj hRest).2.symm
  | case3 => simp [marker]

theorem joinEscapedMarkers_of_not_mem {cs : List Char} (h : '\\' ∉ cs) :
    joinEscapedMarkers cs = cs := by
  fun_induction joinEscapedMarkers cs with
  | case1 cs ih => exact absurd h (by simp)
  | case2 c cs _ ih => rw [ih (mt (List.mem_cons_of_mem c) h)]
  | case3 => rfl

/-- A tidy text is in normal form if no association marker is left in it. -/
theorem Tidy.normalizeChars_eq_self_iff {cs : List Char} (h : Tidy cs) :
    normalizeChars cs = cs ↔ ¬ marker <:+: cs := by
  have hPlain : (joinMarkers cs).filter (· ≠ '\\') = joinMarkers cs := by
    refine List.filter_eq_self.mpr fun c hc => decide_eq_true ?_
    rintro rfl
    exact h.backslash ((joinMarkers_sublist cs).subset hc)
  rw [normalizeChars_eq, before_of_not_mem h.comma, untrimmed,
    joinEscapedMarkers_of_not_mem h.backslash, hPlain, ← joinMarkers_eq_self_iff]
  constructor
  · intro hSame
    refine (joinMarkers_sublist cs).eq_of_length_le ?_
    have hTrimmed := (Text.trimBoth_infix (· == '.') (joinMarkers cs)).sublist.length_le
    rwa [hSame] at hTrimmed
  · intro hSame
    rw [hSame]
    refine Text.trimBoth_of_ends (fun c hc => ?_) (fun c hc => ?_)
    · rw [beq_eq_false_iff_ne]
      rintro rfl
      exact h.start hc
    · rw [beq_eq_false_iff_ne]
      rintro rfl
      exact h.finish hc

theorem toList_normalize (name : String) : (normalize name).toList = normalizeChars name.toList :=
  String.toList_ofList

theorem normalize_eq_self_iff {name : String} (h : Tidy name.toList) :
    normalize name = name ↔ ¬ marker <:+: name.toList := by
  rw [← h.normalizeChars_eq_self_iff, ← toList_normalize, String.toList_inj]

/-! Where markers are left -/

/-- A text ends in an exclamation mark and characters after it that have a property. -/
def EndsMarked (Q : List Char → Prop) (cs : List Char) : Prop :=
  ∃ start marks, cs = start ++ '!' :: marks ∧ Q marks

/-- A text is cut at a dot such that what comes before the dot ends so, and what comes after it has
a property. -/
def Marked (Q R : List Char → Prop) (cs : List Char) : Prop :=
  ∃ start rest, cs = start ++ '.' :: rest ∧ EndsMarked Q start ∧ R rest

theorem append_dot_eq_iff {s t u v : List Char} (hs : '.' ∉ s) :
    s ++ '.' :: t = u ++ '.' :: v ↔
      (u = s ∧ v = t) ∨ ∃ w, u = s ++ '.' :: w ∧ t = w ++ '.' :: v := by
  rw [List.append_eq_append_iff]
  constructor
  · rintro (⟨w, rfl, h⟩ | ⟨w, rfl, h⟩)
    · cases w with
      | nil => exact .inl ⟨List.append_nil s, (List.cons.inj h).2.symm⟩
      | cons c w =>
        obtain ⟨rfl, rfl⟩ := List.cons.inj h
        exact .inr ⟨w, rfl, rfl⟩
    · cases w with
      | nil => exact .inl ⟨(List.append_nil u).symm, (List.cons.inj h).2⟩
      | cons c w =>
        obtain ⟨rfl, -⟩ := List.cons.inj h
        exact absurd (List.mem_append_right u (.head w)) hs
  · rintro (⟨rfl, rfl⟩ | ⟨w, rfl, rfl⟩)
    · exact .inl ⟨[], (List.append_nil u).symm, rfl⟩
    · exact .inl ⟨'.' :: w, rfl, rfl⟩

section

variable {Q R : List Char → Prop}

theorem endsMarked_append_dot (hQ : ∀ marks, Q marks → '.' ∉ marks) (s t : List Char) :
    EndsMarked Q (s ++ '.' :: t) ↔ EndsMarked Q t := by
  constructor
  · rintro ⟨start, marks, h, hMarks⟩
    obtain ⟨w, rfl, hRest⟩ | ⟨w, rfl, hRest⟩ := List.append_eq_append_iff.mp h
    · cases w with
      | nil => exact absurd (List.cons.inj hRest).1 (by decide)
      | cons c w => exact ⟨w, marks, (List.cons.inj hRest).2, hMarks⟩
    · cases w with
      | nil => exact absurd (List.cons.inj hRest).1 (by decide)
      | cons c w =>
        obtain rfl := (List.cons.inj hRest).2
        exact absurd (List.mem_append_right w (.head t)) (hQ _ hMarks)
  · rintro ⟨start, marks, rfl, hMarks⟩
    exact ⟨s ++ '.' :: start, marks, by simp, hMarks⟩

theorem marked_append_dot (hQ : ∀ marks, Q marks → '.' ∉ marks) {s : List Char} (hs : '.' ∉ s)
    (t : List Char) :
    Marked Q R (s ++ '.' :: t) ↔ (EndsMarked Q s ∧ R t) ∨ Marked Q R t := by
  constructor
  · rintro ⟨u, v, h, hu, hv⟩
    obtain ⟨rfl, rfl⟩ | ⟨w, rfl, rfl⟩ := (append_dot_eq_iff hs).mp h
    · exact .inl ⟨hu, hv⟩
    · exact .inr ⟨w, v, rfl, (endsMarked_append_dot hQ s w).mp hu, hv⟩
  · rintro (⟨hEnds, ht⟩ | ⟨u, v, rfl, hu, hv⟩)
    · exact ⟨s, t, rfl, hEnds, ht⟩
    · exact ⟨s ++ '.' :: u, v, by simp, (endsMarked_append_dot hQ s u).mpr hu, hv⟩

theorem not_marked_of_not_mem {cs : List Char} (h : '.' ∉ cs) : ¬ Marked Q R cs := by
  rintro ⟨start, rest, rfl, -⟩
  exact h (List.mem_append_right start (.head rest))

end

def withoutEnd (mark cs : List Char) : List Char :=
  if mark <:+ cs then cs.take (cs.length - mark.length) else cs

theorem withoutEnd_append (mark cs : List Char) : withoutEnd mark (cs ++ mark) = cs := by
  rw [withoutEnd, if_pos (List.suffix_append cs mark), List.length_append, Nat.add_sub_cancel,
    List.take_left]

theorem withoutEnd_of_not {mark cs : List Char} (h : ¬ mark <:+ cs) : withoutEnd mark cs = cs :=
  if_neg h

theorem withoutEnd_cons {mark cs : List Char} {c : Char} (h : mark ≠ c :: cs) :
    withoutEnd mark (c :: cs) = c :: withoutEnd mark cs := by
  by_cases hEnd : mark <:+ cs
  · obtain ⟨start, rfl⟩ := hEnd
    rw [withoutEnd_append, ← List.cons_append, withoutEnd_append]
  · rw [withoutEnd_of_not hEnd, withoutEnd_of_not]
    rw [List.suffix_cons_iff]
    exact not_or.mpr ⟨h, hEnd⟩

theorem withoutEnd_sublist (mark cs : List Char) : (withoutEnd mark cs).Sublist cs := by
  unfold withoutEnd
  split
  · exact List.take_sublist _ _
  · exact List.Sublist.refl cs

theorem joinMarkers_append_dot {s : List Char} (hs : '.' ∉ s) (t : List Char) :
    joinMarkers (s ++ '.' :: t) = withoutEnd ['!'] s ++ '.' :: joinMarkers t := by
  induction s with
  | nil => rfl
  | cons c s ih =>
    by_cases hMark : ['!'] = c :: s
    · cases hMark
      rfl
    · rw [withoutEnd_cons hMark, List.cons_append, List.cons_append,
        ← ih (mt (List.mem_cons_of_mem c) hs), joinMarkers]
      rintro rest rfl hDot
      cases s with
      | nil => exact hMark rfl
      | cons d s =>
        obtain rfl := (List.cons.inj hDot).1
        exact hs (.tail _ (.head s))

theorem joinEscapedMarkers_append_dot {s : List Char} (hs : '.' ∉ s) (t : List Char) :
    joinEscapedMarkers (s ++ '.' :: t) =
      withoutEnd ['!', '\\'] s ++ '.' :: joinEscapedMarkers t := by
  induction s with
  | nil => rfl
  | cons c s ih =>
    by_cases hMark : ['!', '\\'] = c :: s
    · cases hMark
      rfl
    · rw [withoutEnd_cons hMark, List.cons_append, List.cons_append,
        ← ih (mt (List.mem_cons_of_mem c) hs), joinEscapedMarkers]
      rintro rest rfl hDot
      match s with
      | [] => exact absurd (List.cons.inj hDot).1 (by decide)
      | [d] =>
        obtain rfl := (List.cons.inj hDot).1
        exact hMark rfl
      | d :: e :: s =>
        obtain rfl := (List.cons.inj (List.cons.inj hDot).2).1
        exact hs (.tail _ (.tail _ (.head s)))

theorem untrimmed_append_dot {s : List Char} (hs : '.' ∉ s) (t : List Char) :
    untrimmed (s ++ '.' :: t) =
      (withoutEnd ['!'] (withoutEnd ['!', '\\'] s)).filter (· ≠ '\\') ++ '.' :: untrimmed t := by
  have hEscape : '.' ∉ withoutEnd ['!', '\\'] s :=
    mt (fun h => (withoutEnd_sublist _ s).subset h) hs
  rw [untrimmed, joinEscapedMarkers_append_dot hs, joinMarkers_append_dot hEscape,
    List.filter_append]
  rfl

/-! Marks before a dot -/

def OnlyMarks (marks : List Char) : Prop := ∀ m ∈ marks, m = '!' ∨ m = '\\'

theorem endsMarked_withoutEnd {Q Q' : List Char → Prop} {tail : List Char} (hTail : '!' ∉ tail)
    (hAppend : ∀ marks, Q' (marks ++ '!' :: tail) ↔ Q marks)
    (hOther : ∀ marks, ¬ '!' :: tail <:+ '!' :: marks → (Q' marks ↔ Q marks)) (hSelf : ¬ Q' tail)
    (cs : List Char) : EndsMarked Q (withoutEnd ('!' :: tail) cs) ↔ EndsMarked Q' cs := by
  by_cases hEnd : '!' :: tail <:+ cs
  · obtain ⟨s, rfl⟩ := hEnd
    rw [withoutEnd_append]
    constructor
    · rintro ⟨start, marks, rfl, hMarks⟩
      exact ⟨start, marks ++ '!' :: tail, by simp, (hAppend marks).mpr hMarks⟩
    · rintro ⟨start, marks, h, hMarks⟩
      obtain ⟨w, rfl, hRest⟩ | ⟨w, rfl, hRest⟩ := List.append_eq_append_iff.mp h
      · cases w with
        | nil =>
          obtain rfl := (List.cons.inj hRest).2
          exact absurd hMarks hSelf
        | cons c w =>
          obtain rfl := (List.cons.inj hRest).2
          exact absurd (List.mem_append_right w (.head marks)) hTail
      · cases w with
        | nil =>
          obtain rfl := (List.cons.inj hRest).2
          exact absurd hMarks hSelf
        | cons c w =>
          obtain ⟨rfl, rfl⟩ := List.cons.inj hRest
          exact ⟨start, w, rfl, (hAppend w).mp hMarks⟩
  · rw [withoutEnd_of_not hEnd]
    have hSame : ∀ start marks, cs = start ++ '!' :: marks → (Q' marks ↔ Q marks) := by
      rintro start marks rfl
      exact hOther marks fun hSuffix => hEnd (hSuffix.trans (List.suffix_append _ _))
    constructor
    · rintro ⟨start, marks, h, hMarks⟩
      exact ⟨start, marks, h, (hSame start marks h).mpr hMarks⟩
    · rintro ⟨start, marks, h, hMarks⟩
      exact ⟨start, marks, h, (hSame start marks h).mp hMarks⟩

theorem endsMarked_withoutMark (cs : List Char) :
    EndsMarked OnlyMarks (withoutEnd ['!'] cs) ↔
      EndsMarked (fun marks => OnlyMarks marks ∧ marks ≠ []) cs := by
  refine endsMarked_withoutEnd (by simp) (fun marks => ?_) (fun marks h => ?_) (by simp) cs
  · simp [OnlyMarks, or_imp, forall_and]
  · refine and_iff_left ?_
    rintro rfl
    exact h (List.suffix_refl _)

/-- What may stand between an exclamation mark and a dot that are read as a dot. -/
def readings : List (List Char) := [[], ['\\'], ['!', '\\']]

theorem endsMarked_withoutEscape (cs : List Char) :
    EndsMarked (fun marks => OnlyMarks marks ∧ marks ≠ []) (withoutEnd ['!', '\\'] cs) ↔
      EndsMarked (fun marks => OnlyMarks marks ∧ marks ∉ readings) cs := by
  refine endsMarked_withoutEnd (by simp) (fun marks => ?_) (fun marks h => ?_)
    (by simp [readings]) cs
  · have hOnly : OnlyMarks (marks ++ ['!', '\\']) ↔ OnlyMarks marks := by
      simp [OnlyMarks, or_imp]
    have hRead : marks ++ ['!', '\\'] ∈ readings ↔ marks = [] := by
      cases marks with
      | nil => simp [readings]
      | cons c marks => cases marks <;> simp [readings]
    rw [hOnly, hRead]
  · refine and_congr_right fun _ => not_congr ?_
    simp only [readings, List.mem_cons, List.not_mem_nil, or_false]
    refine or_iff_left ?_
    rintro (rfl | rfl)
    · exact h (List.suffix_refl _)
    · exact h (List.suffix_cons _ _)

theorem OnlyMarks.filter_eq {marks : List Char} (h : OnlyMarks marks) :
    ∃ n, marks.filter (· ≠ '\\') = List.replicate n '!' := by
  refine ⟨_, List.eq_replicate_of_mem fun m hm => ?_⟩
  obtain ⟨hMem, hKept⟩ := List.mem_filter.mp hm
  exact (h m hMem).resolve_right (of_decide_eq_true hKept)

theorem endsMarked_filter (cs : List Char) :
    EndsMarked (· = []) (cs.filter (· ≠ '\\')) ↔ EndsMarked OnlyMarks cs := by
  constructor
  · rintro ⟨start, _, h, rfl⟩
    obtain ⟨before, rest, rfl, -, hRest⟩ := List.filter_eq_append_iff.mp h
    obtain ⟨dropped, marks, rfl, -, -, hMarks⟩ := List.filter_eq_cons_iff.mp hRest
    refine ⟨before ++ dropped, marks, (List.append_assoc _ _ _).symm, fun m hm => .inr ?_⟩
    simpa using List.filter_eq_nil_iff.mp hMarks m hm
  · rintro ⟨start, marks, rfl, hMarks⟩
    obtain ⟨n, hFilter⟩ := hMarks.filter_eq
    refine ⟨start.filter (· ≠ '\\') ++ List.replicate n '!', [], ?_, rfl⟩
    rw [List.filter_append, List.filter_cons_of_pos (by decide), hFilter, ← List.replicate_succ,
      List.replicate_succ', List.append_assoc]

theorem dot_not_mem_of_onlyMarks {marks : List Char} (h : OnlyMarks marks) : '.' ∉ marks := by
  intro hDot
  obtain hMark | hMark := h '.' hDot
  · exact absurd hMark (by decide)
  · exact absurd hMark (by decide)

def HasOther (cs : List Char) : Prop := ∃ c ∈ cs, c ≠ '.'

/-- A marker is left before trimming where more marks come before a dot than are read with it. -/
theorem marked_untrimmed_iff (cs : List Char) :
    Marked (· = []) HasOther (untrimmed cs) ↔
      Marked (fun marks => OnlyMarks marks ∧ marks ∉ readings)
        (fun rest => HasOther (untrimmed rest)) cs := by
  induction hLength : cs.length using Nat.strongRecOn generalizing cs with
  | ind n ih =>
    by_cases hDot : '.' ∈ cs
    · obtain ⟨s, t, rfl, hs⟩ := List.eq_append_cons_of_mem hDot
      have hShorter : t.length < n := by
        rw [← hLength, List.length_append, List.length_cons]
        omega
      have hPart : '.' ∉ (withoutEnd ['!'] (withoutEnd ['!', '\\'] s)).filter (· ≠ '\\') :=
        fun h => hs (((List.filter_sublist.trans (withoutEnd_sublist _ _)).trans
          (withoutEnd_sublist _ s)).subset h)
      rw [untrimmed_append_dot hs, marked_append_dot (by simp) hPart,
        marked_append_dot (fun marks h => dot_not_mem_of_onlyMarks h.1) hs, ih _ hShorter t rfl,
        endsMarked_filter, endsMarked_withoutMark, endsMarked_withoutEscape]
    · have hNone : '.' ∉ untrimmed cs := fun h => hDot ((untrimmed_sublist cs).subset h)
      exact iff_of_false (not_marked_of_not_mem hNone) (not_marked_of_not_mem hDot)

/-- A marker is left after trimming if something other than dots comes after it. -/
theorem marker_infix_trimBoth_iff (cs : List Char) :
    marker <:+: Text.trimBoth (· == '.') cs ↔ Marked (· = []) HasOther cs := by
  constructor
  · rintro ⟨start, rest, hTrimmed⟩
    have hLast := Text.getLast?_trimBoth_ne (· == '.') (c := '.') (by decide) cs
    obtain ⟨before, after, hInfix⟩ := Text.trimBoth_infix (· == '.') cs
    rw [← hTrimmed] at hLast hInfix
    refine ⟨before ++ start ++ ['!'], rest ++ after, ?_, ⟨before ++ start, [], rfl, rfl⟩, ?_⟩
    · rw [← hInfix]
      simp [marker]
    · -- A trimmed text does not end in a dot, so something else comes after the marker.
      by_contra hNone
      have hDots : ∀ c ∈ rest, c = '.' := fun c hc => by
        by_contra hOther
        exact hNone ⟨c, List.mem_append_left after hc, hOther⟩
      rw [List.getLast?_append] at hLast
      cases hEnd : rest.getLast? with
      | none =>
        rw [hEnd] at hLast
        simp [marker] at hLast
      | some c =>
        rw [hEnd, hDots c (List.mem_of_getLast? hEnd)] at hLast
        exact hLast rfl
  · rintro ⟨_, rest, rfl, ⟨start, _, rfl, rfl⟩, c, hc, hOther⟩
    have hMark : ('!' == '.') = false := by decide
    have hInfix := Text.infix_trimBoth (· == '.') hMark start ['.']
      ⟨c, hc, beq_eq_false_iff_ne.mpr hOther⟩
    simpa [marker] using hInfix

theorem normalizeChars_ne_nil_iff {cs : List Char} (h : ',' ∉ cs) :
    normalizeChars cs ≠ [] ↔ HasOther (untrimmed cs) := by
  rw [normalizeChars_eq, before_of_not_mem h, Ne, Text.trimBoth_eq_nil_iff, HasOther]
  simp

/-- The normal form of a name has a marker in it: in the name, more marks come before a dot than are
read together with the dot, and the normal form does not end there. -/
def KeepsMarker (name : String) : Prop :=
  ∃ start marks rest, Text.before ',' name.toList = start ++ '!' :: (marks ++ '.' :: rest) ∧
    (∀ m ∈ marks, m = '!' ∨ m = '\\') ∧ marks ∉ readings ∧ normalizeChars rest ≠ []

theorem marker_infix_normalize_iff (name : String) :
    marker <:+: (normalize name).toList ↔ KeepsMarker name := by
  rw [toList_normalize, normalizeChars_eq, marker_infix_trimBoth_iff, marked_untrimmed_iff]
  have hRest : ∀ {start rest : List Char},
      Text.before ',' name.toList = start ++ '.' :: rest → ',' ∉ rest := by
    intro start rest h hMem
    refine comma_not_mem_before name.toList ?_
    rw [h]
    exact List.mem_append_right start (.tail _ hMem)
  constructor
  · rintro ⟨_, rest, h, ⟨start, marks, rfl, hMarks, hUnread⟩, hOther⟩
    exact ⟨start, marks, rest, by simp [h], hMarks, hUnread,
      (normalizeChars_ne_nil_iff (hRest h)).mpr hOther⟩
  · rintro ⟨start, marks, rest, h, hMarks, hUnread, hOther⟩
    have hCut : Text.before ',' name.toList = (start ++ '!' :: marks) ++ '.' :: rest := by simp [h]
    exact ⟨_, rest, hCut, ⟨start, marks, rfl, hMarks, hUnread⟩,
      (normalizeChars_ne_nil_iff (hRest hCut)).mp hOther⟩

theorem tidy_normalize (name : String) : Tidy (normalize name).toList := by
  rw [toList_normalize]
  exact tidy_normalizeChars _

theorem normalize_normalize_iff (name : String) :
    normalize (normalize name) = normalize name ↔ ¬ KeepsMarker name := by
  rw [normalize_eq_self_iff (tidy_normalize name), marker_infix_normalize_iff]

end RelPipe.ColumnName
