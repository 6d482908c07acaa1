import SessionLayer.Delivery.History

/-!
# What a bounded history tells apart

A history of `count` numbers accepts a number again only after `count` others. The
accepted numbers are then `Spaced`: any `count + 1` of them in a row differ.
-/

namespace SessionLayer

variable {α : Type}

/-- The last `count` items. -/
def latest (count : Nat) (items : List α) : List α := items.drop (items.length - count)

/-- Of any `count + 1` items in a row no two are the same. -/
def Spaced (count : Nat) (items : List α) : Prop :=
  ∀ window, window <:+: items → window.length ≤ count + 1 → window.Nodup

theorem latest_latest_append (count : Nat) (items : List α) (item : α) :
    latest count (latest count items ++ [item]) = latest count (items ++ [item]) := by
  simp only [latest, List.length_append, List.length_drop, List.length_singleton]
  by_cases short : items.length ≤ count
  · have whole : items.length - count = 0 := by omega
    simp [whole]
  · rw [List.drop_append, List.drop_append, List.drop_drop, List.length_drop]
    congr 1
    · congr 1
      omega
    · congr 1
      omega

/-- A suffix that is not longer is among the last items. -/
theorem mem_latest_of_suffix {count : Nat} {items suffix : List α} {item : α}
    (ends : suffix <:+ items) (short : suffix.length ≤ count) (present : item ∈ suffix) :
    item ∈ latest count items := by
  rcases ends with ⟨front, rfl⟩
  rw [latest, List.length_append]
  have whole : front.length + suffix.length - count ≤ front.length := by omega
  rw [List.drop_append_of_le_length whole]
  exact List.mem_append_right _ present

theorem mem_latest_append {count : Nat} {first second : List α} {item : α}
    (among : item ∈ latest count (first ++ second)) :
    item ∈ latest count first ∨ item ∈ second := by
  rw [latest, List.drop_append, List.mem_append, List.length_append] at among
  refine among.imp (fun early => ?_) List.mem_of_mem_drop
  exact List.drop_subset_drop_left first (by omega) early

theorem length_latest_le (count : Nat) (items : List α) : (latest count items).length ≤ count := by
  rw [latest, List.length_drop]
  omega

theorem map_latest {β : Type} (f : α → β) (count : Nat) (items : List α) :
    (latest count items).map f = latest count (items.map f) := by
  rw [latest, latest, List.map_drop, List.length_map]

/-- Of numbers in order, the last ones hold as many large ones as there are, as far as
they reach. -/
theorem countP_latest {numbers : List Nat} (sorted : numbers.Pairwise (· ≤ ·))
    (count least : Nat) :
    (latest count numbers).countP (least ≤ ·) = min count (numbers.countP (least ≤ ·)) := by
  have split := List.take_append_drop (numbers.length - count) numbers
  have total := congrArg (List.countP (least ≤ ·)) split
  rw [List.countP_append] at total
  have fewer := length_latest_le count numbers
  rw [← split] at sorted
  obtain ⟨-, -, across⟩ := List.pairwise_append.mp sorted
  by_cases large : ∀ number ∈ latest count numbers, least ≤ number
  · have whole : (latest count numbers).countP (least ≤ ·) = (latest count numbers).length :=
      List.countP_eq_length.mpr fun number present => by simpa using large number present
    by_cases short : numbers.length ≤ count
    · have none : numbers.length - count = 0 := by omega
      rw [none, List.take_zero, List.countP_nil] at total
      rw [latest, none] at fewer whole ⊢
      omega
    · have exactly : (latest count numbers).length = count := by
        rw [latest, List.length_drop]
        omega
      rw [latest] at whole exactly ⊢
      omega
  · have small : (numbers.take (numbers.length - count)).countP (least ≤ ·) = 0 := by
      rw [List.countP_eq_zero]
      intro number present
      obtain ⟨late, among, below⟩ : ∃ late ∈ latest count numbers, late < least := by
        simpa using large
      have before := across number present late among
      simp only [decide_eq_true_eq]
      omega
    have few : (latest count numbers).countP (least ≤ ·) ≤ (latest count numbers).length :=
      List.countP_le_length
    rw [latest] at few fewer ⊢
    omega

@[simp] theorem latest_nil (count : Nat) : latest count ([] : List α) = [] := List.drop_nil

theorem spaced_nil (count : Nat) : Spaced count ([] : List α) := by
  intro window inside _
  rw [List.infix_nil.mp inside]
  exact .nil

theorem spaced_singleton (count : Nat) (item : α) : Spaced count [item] := by
  intro window inside _
  exact inside.sublist.nodup (List.pairwise_singleton _ item)

/-- An item that is not among the last ones may come next. -/
theorem Spaced.snoc {count : Nat} {items : List α} {item : α} (spaced : Spaced count items)
    (new : item ∉ latest count items) : Spaced count (items ++ [item]) := by
  intro window inside short
  rcases List.infix_concat_iff.mp inside with atEnd | inside
  · rcases List.suffix_concat_iff.mp atEnd with rfl | ⟨front, rfl, ends⟩
    · exact .nil
    · rw [List.length_append, List.length_singleton] at short
      have distinct := spaced front ends.isInfix (by omega)
      have absent : item ∉ front := fun present =>
        new (mem_latest_of_suffix ends (by omega) present)
      rw [List.nodup_append]
      refine ⟨distinct, List.pairwise_singleton _ item, ?_⟩
      rintro other present _ last rfl
      rw [List.mem_singleton] at last
      exact absent (last ▸ present)
  · exact spaced window inside short

/-- Between two occurrences of an item lie `count` others that differ from it and from
each other. -/
theorem Spaced.between {count : Nat} {before middle after : List α} {item : α}
    (spaced : Spaced count (before ++ item :: middle ++ item :: after)) :
    count ≤ middle.length ∧ (item :: middle.take count).Nodup := by
  have long : count ≤ middle.length := by
    apply Classical.byContradiction
    intro short
    have window := spaced (item :: middle ++ [item]) ⟨before, after, by simp⟩
      (by simp only [List.length_append, List.length_cons, List.length_nil]; omega)
    simp at window
  refine ⟨long, spaced _ ⟨before, middle.drop count ++ item :: after, ?_⟩ ?_⟩
  · simp only [List.append_assoc, List.cons_append]
    rw [← List.append_assoc (middle.take count), List.take_append_drop]
  · simp only [List.length_cons, List.length_take]
    omega

/-! ## Histories -/

namespace ReceivedHistory

/-- These are all numbers that the history accepted. -/
structure Records (history : ReceivedHistory) (accepted : List Sequence) : Prop where
  recent : history.recent = latest history.capacity accepted
  spaced : Spaced history.capacity accepted

@[simp] theorem capacity_accept (history : ReceivedHistory) (sequence : Sequence) :
    (history.accept sequence).2.capacity = history.capacity := by
  unfold accept
  split <;> rfl

theorem records_empty (capacity : Nat) : (empty capacity).Records [] :=
  ⟨(latest_nil capacity).symm, spaced_nil capacity⟩

theorem records_empty_accept (capacity : Nat) (sequence : Sequence) :
    ((empty capacity).accept sequence).2.Records [sequence] :=
  ⟨rfl, spaced_singleton capacity sequence⟩

/-- A number is refused where it is among the last ones, and then nothing changes. -/
theorem accept_of_mem {history : ReceivedHistory} {sequence : Sequence}
    (repeated : sequence ∈ history.recent) : history.accept sequence = (false, history) := by
  have known : history.contains sequence = true := by simpa [contains] using repeated
  rw [accept, if_pos known]

/-- Any other number is accepted, and it is remembered as long as there is a place. -/
theorem accept_of_notMem {history : ReceivedHistory} {sequence : Sequence}
    (new : sequence ∉ history.recent) :
    history.accept sequence =
      (true,
        { history with recent := latest history.capacity (history.recent ++ [sequence]) }) := by
  have unknown : history.contains sequence ≠ true := by simpa [contains] using new
  rw [accept, if_neg unknown]
  rfl

theorem accept_iff_notMem {history : ReceivedHistory} {sequence : Sequence} :
    (history.accept sequence).1 = true ↔ sequence ∉ history.recent := by
  by_cases known : sequence ∈ history.recent
  · rw [accept_of_mem known]
    exact iff_of_false Bool.false_ne_true (absurd known)
  · rw [accept_of_notMem known]
    exact iff_of_true rfl known

theorem mem_accept {history : ReceivedHistory} {sequence : Sequence}
    (deep : 1 ≤ history.capacity) (new : (history.accept sequence).1 = true) :
    sequence ∈ (history.accept sequence).2.recent := by
  rw [accept_of_notMem (accept_iff_notMem.mp new)]
  exact mem_latest_of_suffix ⟨history.recent, rfl⟩ deep (List.mem_singleton_self sequence)

theorem Records.accept {history : ReceivedHistory} {accepted : List Sequence}
    {sequence : Sequence} (records : history.Records accepted)
    (new : sequence ∉ history.recent) :
    (history.accept sequence).1 = true ∧
      (history.accept sequence).2.Records (accepted ++ [sequence]) := by
  rw [accept_of_notMem new]
  refine ⟨rfl, ?_, ?_⟩
  · show latest history.capacity (history.recent ++ [sequence]) = _
    rw [records.recent, latest_latest_append]
  · rw [records.recent] at new
    exact records.spaced.snoc new

end ReceivedHistory

end SessionLayer
