import RelPipe.Proofs.CaselessMap

/-!
Caseless maps over whole runs. The writings and removals of a run are kept in a log, and the log
alone says what the map holds: the last word on a name is its value, and the place of an entry and
its spelling are those of the writing that brought the name in. The main result is that a map and
its log agree after every run.
-/

namespace RelPipe.CaselessMap

set_option autoImplicit false

variable {α : Type}

inductive Operation (α : Type) where
  | insert (name : String) (value : α)
  | insertNew (name : String) (value : α)
  | erase (name : String)
  /-- A new map is made of pairs. -/
  | collect (pairs : List (String × α))
  /-- A new map is made of the entries of the map and of more pairs after them. -/
  | rebuild (pairs : List (String × α))

/-- The answer, which may be a refusal, and the map that is left. -/
def Operation.apply (m : CaselessMap α) :
    Operation α → Except String (Option α) × CaselessMap α
  | .insert name value =>
    let (old, written) := m.exchange name value
    (.ok old, written)
  | .insertNew name value =>
    match m.insertNew? name value with
    | some written => (.ok none, written)
    | none => (.error (duplicateMessage name), m)
  | .erase name => (.ok (m.get? name), m.erase name)
  | .collect pairs => (.ok none, ofList pairs)
  | .rebuild pairs => (.ok none, ofList (m.entries ++ pairs))

/-! The log of a run -/

inductive Event (α : Type) where
  | written (name : String) (value : α)
  | removed (name : String)

def Event.name : Event α → String
  | .written name _ => name
  | .removed name => name

def writings (pairs : List (String × α)) : List (Event α) :=
  pairs.map fun pair => .written pair.1 pair.2

/-- The log after an operation that was answered. A refused operation leaves no trace, and a new map
has a log of its own. -/
def Operation.extend (log : List (Event α)) (answer : Except String (Option α)) :
    Operation α → List (Event α)
  | .insert name value => log ++ [.written name value]
  | .insertNew name value =>
    match answer with
    | .ok _ => log ++ [.written name value]
    | .error _ => log
  | .erase name => log ++ [.removed name]
  | .collect pairs => writings pairs
  | .rebuild pairs => log ++ writings pairs

structure History (α : Type) where
  map : CaselessMap α
  log : List (Event α)

def History.step (history : History α) (operation : Operation α) : History α :=
  let (answer, map) := operation.apply history.map
  ⟨map, operation.extend history.log answer⟩

def History.run (operations : List (Operation α)) : History α :=
  operations.foldl step ⟨empty, []⟩

/-! What a log says -/

/-- The last event that concerns a name has written a value. -/
def Current (log : List (Event α)) (name : String) (value : α) : Prop :=
  ∃ before key after, log = before ++ .written key value :: after ∧
    sameName key name = true ∧ ∀ event ∈ after, sameName event.name name = false

/-- At a place of the log a name is written that is not there, and it is not removed later. -/
def Founds (log : List (Event α)) (place : Nat) (key : String) : Prop :=
  ∃ before value after, log = before ++ .written key value :: after ∧ before.length = place ∧
    (∀ old, ¬Current before key old) ∧ ∀ name, .removed name ∈ after → sameName name key = false

/-- A map holds what a log says: under every spelling of a name its current value, and one entry for
each founding writing, in their order and with their spelling. -/
structure Records (log : List (Event α)) (m : CaselessMap α) : Prop where
  distinct : m.Distinct
  get?_iff : ∀ name value, m.get? name = some value ↔ Current log name value
  listed : ∃ places : List (Nat × String), places.map Prod.snd = m.keys ∧
    (places.Pairwise fun a b => a.1 < b.1) ∧ ∀ place, place ∈ places ↔ Founds log place.1 place.2

/-! One more event -/

theorem concat_eq_split {log before after : List (Event α)} {event last : Event α} :
    log ++ [last] = before ++ event :: after ↔
      (after = [] ∧ before = log ∧ event = last) ∨
        ∃ rest, after = rest ++ [last] ∧ log = before ++ event :: rest := by
  rcases List.eq_nil_or_concat after with rfl | ⟨rest, other, rfl⟩
  · rw [List.append_singleton_inj]
    constructor
    · rintro ⟨rfl, rfl⟩
      exact .inl ⟨rfl, rfl, rfl⟩
    · rintro (⟨_, rfl, rfl⟩ | ⟨rest, hNil, _⟩)
      · exact ⟨rfl, rfl⟩
      · simp at hNil
  · rw [List.concat_eq_append, ← List.cons_append, ← List.append_assoc, List.append_singleton_inj]
    constructor
    · rintro ⟨rfl, rfl⟩
      exact .inr ⟨rest, rfl, rfl⟩
    · rintro (⟨hNil, _⟩ | ⟨rest', hRest, hLog⟩)
      · simp at hNil
      · obtain ⟨rfl, rfl⟩ := List.append_singleton_inj.mp hRest
        exact ⟨hLog, rfl⟩

theorem current_concat {log : List (Event α)} {last : Event α} {name : String} {value : α} :
    Current (log ++ [last]) name value ↔
      (∃ key, last = .written key value ∧ sameName key name = true) ∨
        (sameName last.name name = false ∧ Current log name value) := by
  constructor
  · rintro ⟨before, key, after, hSplit, hKey, hAfter⟩
    obtain ⟨rfl, rfl, rfl⟩ | ⟨rest, rfl, rfl⟩ := concat_eq_split.mp hSplit
    · exact .inl ⟨key, rfl, hKey⟩
    · refine .inr ⟨hAfter last (by simp), before, key, rest, rfl, hKey, fun event hEvent => ?_⟩
      exact hAfter event (List.mem_append_left _ hEvent)
  · rintro (⟨key, rfl, hKey⟩ | ⟨hLast, before, key, rest, rfl, hKey, hRest⟩)
    · exact ⟨log, key, [], rfl, hKey, by simp⟩
    · refine ⟨before, key, rest ++ [last], by simp, hKey, fun event hEvent => ?_⟩
      obtain hEvent | hEvent := List.mem_append.mp hEvent
      · exact hRest event hEvent
      · rwa [List.mem_singleton.mp hEvent]

theorem founds_concat {log : List (Event α)} {last : Event α} {place : Nat} {key : String} :
    Founds (log ++ [last]) place key ↔
      (place = log.length ∧ (∃ value, last = .written key value) ∧ ∀ old, ¬Current log key old) ∨
        (Founds log place key ∧ ∀ name, last = .removed name → sameName name key = false) := by
  constructor
  · rintro ⟨before, value, after, hSplit, hPlace, hNew, hAfter⟩
    obtain ⟨rfl, rfl, rfl⟩ | ⟨rest, rfl, rfl⟩ := concat_eq_split.mp hSplit
    · exact .inl ⟨hPlace.symm, ⟨value, rfl⟩, hNew⟩
    · refine .inr ⟨⟨before, value, rest, rfl, hPlace, hNew, fun name hName => ?_⟩, ?_⟩
      · exact hAfter name (List.mem_append_left _ hName)
      · rintro name rfl
        exact hAfter name (by simp)
  · rintro (⟨rfl, ⟨value, rfl⟩, hNew⟩ | ⟨⟨before, value, rest, rfl, hPlace, hNew, hRest⟩, hLast⟩)
    · exact ⟨log, value, [], rfl, rfl, hNew, by simp⟩
    · refine ⟨before, value, rest ++ [last], by simp, hPlace, hNew, fun name hName => ?_⟩
      obtain hName | hName := List.mem_append.mp hName
      · exact hRest name hName
      · exact hLast name (List.mem_singleton.mp hName).symm

theorem Founds.lt_length {log : List (Event α)} {place : Nat} {key : String}
    (h : Founds log place key) : place < log.length := by
  obtain ⟨before, value, after, rfl, rfl, _⟩ := h
  simp

namespace Records

variable {log : List (Event α)} {m : CaselessMap α}

theorem empty : Records [] (CaselessMap.empty : CaselessMap α) where
  distinct := .empty
  get?_iff name value := by simp [Current]
  listed := ⟨[], rfl, .nil, fun place => by simp [Founds]⟩

theorem contains_iff (h : Records log m) (name : String) :
    m.contains name = true ↔ ∃ value, Current log name value := by
  rw [contains_eq_isSome, Option.isSome_iff_exists]
  exact exists_congr fun value => h.get?_iff name value

theorem written (h : Records log m) (name : String) (value : α) :
    Records (log ++ [.written name value]) (m.insert name value) where
  distinct := h.distinct.insert name value
  get?_iff x v := by
    rw [get?_insert, current_concat, ← h.get?_iff x v, Event.name]
    cases hSame : sameName name x with
    | true =>
      rw [if_pos rfl, Option.some.injEq]
      constructor
      · rintro rfl
        exact .inl ⟨name, rfl, hSame⟩
      · rintro (⟨_, hWritten, _⟩ | ⟨hOther, _⟩)
        · injection hWritten
        · cases hOther
    | false =>
      rw [if_neg Bool.false_ne_true]
      constructor
      · exact fun hGet => .inr ⟨rfl, hGet⟩
      · rintro (⟨_, hWritten, hKey⟩ | ⟨_, hGet⟩)
        · injection hWritten with hName
          rw [← hName, hSame] at hKey
          cases hKey
        · exact hGet
  listed := by
    obtain ⟨places, hKeys, hSorted, hPlaces⟩ := h.listed
    cases hContains : m.contains name with
    | true =>
      -- The name is there, so the new writing founds nothing.
      obtain ⟨old, hOld⟩ := (h.contains_iff name).mp hContains
      refine ⟨places, by rw [hKeys, keys_insert_of_contains hContains], hSorted, fun place => ?_⟩
      rw [hPlaces, founds_concat]
      constructor
      · exact fun hFounds => .inr ⟨hFounds, by simp⟩
      · rintro (⟨_, ⟨_, hWritten⟩, hNew⟩ | ⟨hFounds, _⟩)
        · injection hWritten with hName
          exact absurd hOld (hName ▸ hNew old)
        · exact hFounds
    | false =>
      have hNew : ∀ old, ¬Current log name old := fun old hOld =>
        Bool.eq_false_iff.mp hContains ((h.contains_iff name).mpr ⟨old, hOld⟩)
      refine ⟨places ++ [(log.length, name)], ?_, ?_, fun place => ?_⟩
      · rw [List.map_append, hKeys, keys, keys, entries_insert_of_not_contains hContains,
          List.map_append]
        rfl
      · refine List.pairwise_append.mpr ⟨hSorted, List.pairwise_singleton _ _, fun a ha b hb => ?_⟩
        rw [List.mem_singleton.mp hb]
        exact ((hPlaces a).mp ha).lt_length
      · rw [List.mem_append, hPlaces, List.mem_singleton, founds_concat]
        constructor
        · rintro (hFounds | rfl)
          · exact .inr ⟨hFounds, by simp⟩
          · exact .inl ⟨rfl, ⟨value, rfl⟩, hNew⟩
        · rintro (⟨hPlace, ⟨_, hWritten⟩, _⟩ | ⟨hFounds, _⟩)
          · injection hWritten with hName
            exact .inr (Prod.ext hPlace hName.symm)
          · exact .inl hFounds

theorem removed (h : Records log m) (name : String) :
    Records (log ++ [.removed name]) (m.erase name) where
  distinct := h.distinct.erase name
  get?_iff x v := by
    rw [get?_erase, current_concat, ← h.get?_iff x v, Event.name]
    cases hSame : sameName name x with
    | true => simp
    | false => simp
  listed := by
    obtain ⟨places, hKeys, hSorted, hPlaces⟩ := h.listed
    -- The founding writings of the name go, and no other name loses its own.
    refine ⟨places.filter fun place => !sameName place.2 name, ?_, hSorted.filter _,
      fun place => ?_⟩
    · have hFilter := congrArg (List.filter fun key => !sameName key name) hKeys
      rw [List.filter_map] at hFilter
      rw [keys, List.filter_map] at hFilter
      exact hFilter
    · rw [List.mem_filter, hPlaces, founds_concat, Bool.not_eq_true']
      constructor
      · rintro ⟨hFounds, hKept⟩
        refine .inr ⟨hFounds, ?_⟩
        rintro removed ⟨⟩
        rwa [sameName_comm]
      · rintro (⟨_, ⟨_, hWritten⟩, _⟩ | ⟨hFounds, hKept⟩)
        · cases hWritten
        · exact ⟨hFounds, by rw [sameName_comm]; exact hKept name rfl⟩

theorem writings (h : Records log m) (pairs : List (String × α)) :
    Records (log ++ CaselessMap.writings pairs) (m.insertAll pairs) := by
  induction pairs generalizing log m with
  | nil => rwa [CaselessMap.writings, List.map_nil, List.append_nil]
  | cons pair pairs ih =>
    have hLog : log ++ CaselessMap.writings (pair :: pairs) =
        (log ++ [.written pair.1 pair.2]) ++ CaselessMap.writings pairs := by
      rw [List.append_assoc]
      rfl
    rw [hLog]
    exact ih (h.written pair.1 pair.2)

theorem step {history : History α} (h : Records history.log history.map)
    (operation : Operation α) :
    Records (history.step operation).log (history.step operation).map := by
  cases operation with
  | insert name value =>
    rw [History.step, Operation.apply, exchange_eq]
    exact h.written name value
  | insertNew name value =>
    rw [History.step, Operation.apply, insertNew?]
    cases history.map.contains name with
    | true => exact h
    | false => exact h.written name value
  | erase name => exact h.removed name
  | collect pairs => exact Records.empty.writings pairs
  | rebuild pairs =>
    rw [History.step, Operation.apply, ofList_entries_append h.distinct]
    exact h.writings pairs

theorem run (operations : List (Operation α)) :
    Records (History.run operations).log (History.run operations).map := by
  induction operations using List.reverseRecOn with
  | nil => exact .empty
  | append_singleton operations operation ih =>
    rw [History.run, List.foldl_append]
    exact ih.step operation

end Records

/-- After every run the map holds what its log says: its names differ in more than letter case, every
spelling of a name finds the current value, and the entries stand in the order and spelling of
their founding writings. Writing answers with the value that was current; adding a name that is
there is refused and changes nothing; and a map rebuilt from its entries and more pairs is the map
with those pairs written. -/
theorem records_run (operations : List (Operation α)) :
    Records (History.run operations).log (History.run operations).map ∧
      (∀ name, (History.run operations).map.contains name = true ↔
        ∃ value, Current (History.run operations).log name value) ∧
      (∀ entry ∈ (History.run operations).map.entries,
        Current (History.run operations).log entry.1 entry.2) ∧
      (∀ name value, ∃ old, (Operation.insert name value).apply (History.run operations).map =
          (.ok old, (History.run operations).map.insert name value) ∧
        ∀ current, old = some current ↔ Current (History.run operations).log name current) ∧
      (∀ name value, (Operation.insertNew name value).apply (History.run operations).map =
        if (History.run operations).map.contains name then
          (.error (duplicateMessage name), (History.run operations).map)
        else (.ok none, (History.run operations).map.insert name value)) ∧
      ∀ pairs, ofList ((History.run operations).map.entries ++ pairs) =
        (History.run operations).map.insertAll pairs := by
  have hRecords := Records.run operations
  refine ⟨hRecords, hRecords.contains_iff, fun entry hEntry => ?_, fun name value => ?_,
    fun name value => ?_, ofList_entries_append hRecords.distinct⟩
  · exact (hRecords.get?_iff entry.1 entry.2).mp (hRecords.distinct.get?_of_mem hEntry)
  · refine ⟨(History.run operations).map.get? name, ?_, hRecords.get?_iff name⟩
    rw [Operation.apply, exchange_eq]
  · rw [Operation.apply, insertNew?]
    cases (History.run operations).map.contains name with
    | true => rfl
    | false => rfl

/-! Writing again keeps place and spelling; after a removal both are new. -/
example : (History.run [.insert "Orders" 1, .insert "Lines" 2, .insert "LINES" 3, .erase "orders",
    .insert "ORDERS" 4]).map.entries = [("Lines", 3), ("ORDERS", 4)] := by
  decide +kernel

end RelPipe.CaselessMap
