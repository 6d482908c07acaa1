import SessionLayer.Proofs.Text.Pieces
import SessionLayer.Text.Duration

/-!
# What the words of a duration tell

The words of a duration, which stand between its spaces, are numbers and units by turns
(`Span.Tells`). There is one list of counts that words tell in this way, and for a duration it
is one of days, hours, minutes and seconds that add up to its whole seconds. So these can be
computed from the text, and nothing else goes into it: `Span.describe_lossless`.
-/

namespace SessionLayer

theorem Digits.number?_toDigits (n : Nat) : number? 10 (Nat.toDigits 10 n) = some n := by
  rw [Template.number?_eq_some_iff]
  refine ⟨Nat.toDigits_ne_nil, fun _ => Nat.isDigit_of_mem_toDigits (by decide) (by decide), ?_⟩
  rw [← Template.foldl_eq_ofDigits]
  exact (Nat.ofDigitChars_toDigits (by decide) (by decide)).symm

namespace Span

/-! ## Counts in words -/

/-- What the parts of a duration are counted in. -/
inductive TimeUnit
  | day
  | hour
  | minute
  | second
  deriving DecidableEq

namespace TimeUnit

/-- The whole seconds of one of a unit. -/
def seconds : TimeUnit → Nat
  | day => 86400
  | hour => 3600
  | minute => 60
  | second => 1

def name : TimeUnit → String
  | day => "day"
  | hour => "hour"
  | minute => "minute"
  | second => "second"

/-- The word for a unit, in the plural or not. -/
def word (unit : TimeUnit) (plural : Bool) : List Char :=
  unit.name.toList ++ if plural then ['s'] else []

theorem eq_of_word {unit other : TimeUnit} {plural otherPlural : Bool}
    (same : unit.word plural = other.word otherPlural) :
    unit = other ∧ plural = otherPlural := by
  revert same
  cases unit <;> cases other <;> cases plural <;> cases otherPlural <;> decide

theorem space_notMem_word (unit : TimeUnit) (plural : Bool) : ' ' ∉ unit.word plural := by
  cases unit <;> cases plural <;> decide

end TimeUnit

/-- So many of a unit, and whether its word is the plural. -/
@[ext] structure Count where
  number : Nat
  unit : TimeUnit
  plural : Bool

namespace Count

/-- The whole seconds that are counted. -/
def seconds (count : Count) : Nat := count.number * count.unit.seconds

/-- The two words of a count. -/
def words (count : Count) : List (List Char) :=
  [Nat.toDigits 10 count.number, count.unit.word count.plural]

/-- The plural stands for every number but one. -/
def Regular (count : Count) : Prop := count.plural = decide (count.number ≠ 1)

theorem space_notMem_of_mem_words {count : Count} : ∀ word ∈ count.words, ' ' ∉ word := by
  simp only [words, List.forall_mem_cons]
  refine ⟨fun member => ?_, count.unit.space_notMem_word count.plural, nofun⟩
  exact absurd (Nat.isDigit_of_mem_toDigits (by decide) (by decide) member) (by decide)

/-- A regular count is written as its two words. -/
theorem Regular.toList_counted {count : Count} (regular : count.Regular) :
    (counted count.unit.name count.number).toList = [' '].intercalate count.words := by
  rw [words, TimeUnit.word, regular, List.intercalate_cons_cons, List.intercalate_singleton,
    counted]
  by_cases one : count.number = 1
  · have digits : Nat.toDigits 10 1 = "1".toList := rfl
    rw [if_pos one, one, digits]
    simp
  · have digits : (toString count.number).toList = Nat.toDigits 10 count.number :=
      Nat.toList_repr
    rw [if_neg one, ← digits]
    simp [one]

end Count

/-- Words that tell counts: each is a number in digits and, as the next word, its unit. -/
inductive Tells : List (List Char) → List Count → Prop
  | nil : Tells [] []
  | cons {digits word : List Char} {words : List (List Char)} {count : Count}
    {counts : List Count} :
    Digits.number? 10 digits = some count.number → word = count.unit.word count.plural →
    Tells words counts → Tells (digits :: word :: words) (count :: counts)

/-- The words of a text, which stand between its spaces. -/
def words (text : String) : List (List Char) := text.toList.splitOn ' '

theorem Tells.unique {words : List (List Char)} {counts others : List Count}
    (tells : Tells words counts) (again : Tells words others) : others = counts := by
  induction tells generalizing others with
  | nil => cases again; rfl
  | @cons digits word words count counts number unit _ ih =>
    cases again with
    | @cons _ _ _ other others otherNumber otherUnit rest =>
      have sameNumber := Option.some.inj (otherNumber.symm.trans number)
      obtain ⟨sameUnit, samePlural⟩ := TimeUnit.eq_of_word (otherUnit.symm.trans unit)
      rw [ih rest, Count.ext sameNumber sameUnit samePlural]

theorem tells_words (counts : List Count) : Tells (counts.flatMap Count.words) counts := by
  induction counts with
  | nil => exact .nil
  | cons count counts ih => exact .cons (Digits.number?_toDigits count.number) rfl ih

/-- The spaces between counts and the spaces inside of them are all those between words. -/
theorem intercalate_words (counts : List Count) :
    [' '].intercalate (counts.map fun count => [' '].intercalate count.words) =
      [' '].intercalate (counts.flatMap Count.words) := by
  induction counts with
  | nil => rfl
  | cons count rest ih =>
    cases rest with
    | nil => simp
    | cons next rest =>
      have more : (next :: rest).map (fun count => [' '].intercalate count.words) ≠ [] := by simp
      have words : (next :: rest).flatMap Count.words ≠ [] := by simp [Count.words]
      have split : (count :: next :: rest).flatMap Count.words =
          Nat.toDigits 10 count.number :: count.unit.word count.plural ::
            (next :: rest).flatMap Count.words := rfl
      rw [List.map_cons, List.intercalate_cons_of_ne_nil more, ih, split, Count.words,
        List.intercalate_cons_cons, List.intercalate_cons_cons,
        List.intercalate_cons_of_ne_nil words, List.intercalate_singleton]
      simp only [List.append_assoc]

/-- The words of a text that is written from counts. -/
theorem words_intercalate {counts : List Count} (some : counts ≠ [])
    (regular : ∀ count ∈ counts, count.Regular) :
    words (" ".intercalate (counts.map fun count => counted count.unit.name count.number)) =
      counts.flatMap Count.words := by
  have space : " ".toList = [' '] := rfl
  have parts : (counts.map fun count => counted count.unit.name count.number).map String.toList =
      counts.map fun count => [' '].intercalate count.words := by
    rw [List.map_map]
    exact List.map_congr_left fun count member => (regular count member).toList_counted
  rw [words, String.toList_intercalate, space, parts, intercalate_words,
    List.splitOn_intercalate]
  · intro word member
    obtain ⟨count, -, inside⟩ := List.mem_flatMap.mp member
    exact Count.space_notMem_of_mem_words word inside
  · obtain ⟨count, rest, rfl⟩ := List.exists_cons_of_ne_nil some
    rw [List.flatMap_cons]
    nofun

/-! ## The counts of a duration -/

/-- So many of a unit, its word in the plural unless there is one. -/
def share (number : Nat) (unit : TimeUnit) : Count := ⟨number, unit, number ≠ 1⟩

/-- The parts of so many seconds, whether or not they are zero. -/
def shares (seconds : Nat) : List Count :=
  [share (seconds / 86400) .day, share (seconds % 86400 / 3600) .hour,
    share (seconds % 3600 / 60) .minute, share (seconds % 60) .second]

/-- The parts that are told: those that are not zero, or else the seconds. -/
def told (seconds : Nat) : List Count :=
  match (shares seconds).filter (·.number ≠ 0) with
  | [] => [share 0 .second]
  | counts => counts

theorem told_ne_nil (seconds : Nat) : told seconds ≠ [] := by
  rw [told]
  split
  · nofun
  · assumption

/-- The text of a duration is written from what is told. -/
theorem describe_eq (span : Span) :
    span.describe = " ".intercalate
      ((told span.seconds).map fun count => counted count.unit.name count.number) := by
  have parts_eq : parts span.seconds =
      (shares span.seconds).map fun count => (count.number, count.unit.name) := rfl
  rw [describe, parts_eq, List.filter_map, told]
  have same : ((fun part : Nat × String => decide (part.1 ≠ 0)) ∘
      fun count : Count => (count.number, count.unit.name)) = (decide <| ·.number ≠ 0) := rfl
  rw [same]
  cases (shares span.seconds).filter (·.number ≠ 0) with
  | nil => rfl
  | cons count rest =>
    simp only [List.map_cons, List.map_map]
    rfl

theorem regular_of_mem_shares {seconds : Nat} : ∀ count ∈ shares seconds, count.Regular := by
  simp [shares, share, Count.Regular]

/-- What is told is among the parts, in their order. -/
theorem told_sublist (seconds : Nat) : (told seconds).Sublist (shares seconds) := by
  have last : share (seconds % 60) .second ∈ shares seconds := by simp [shares]
  rw [told]
  split
  · -- Where nothing is shown the seconds are zero, so the zero that is told is one of the parts.
    rename_i none
    have zero : ¬ decide ((share (seconds % 60) .second).number ≠ 0) = true :=
      List.filter_eq_nil_iff.mp none _ last
    rw [decide_eq_true_iff, Decidable.not_not] at zero
    change seconds % 60 = 0 at zero
    rw [zero] at last
    exact List.singleton_sublist.mpr last
  · exact List.filter_sublist

theorem sum_shares (seconds : Nat) : ((shares seconds).map Count.seconds).sum = seconds := by
  simp only [shares, share, Count.seconds, TimeUnit.seconds, List.map_cons, List.map_nil,
    List.sum_cons, List.sum_nil]
  omega

/-- Counts of zero add nothing. -/
theorem sum_nonzero (counts : List Count) :
    ((counts.filter (·.number ≠ 0)).map Count.seconds).sum = (counts.map Count.seconds).sum := by
  induction counts with
  | nil => rfl
  | cons count rest ih =>
    by_cases zero : count.number = 0
    · have nothing : count.seconds = 0 := by rw [Count.seconds, zero, Nat.zero_mul]
      rw [List.filter_cons_of_neg (by simpa using zero), ih, List.map_cons, List.sum_cons,
        nothing, Nat.zero_add]
    · rw [List.filter_cons_of_pos (by simpa using zero), List.map_cons, List.sum_cons, ih,
        List.map_cons, List.sum_cons]

theorem sum_told (seconds : Nat) : ((told seconds).map Count.seconds).sum = seconds := by
  have sum := (sum_nonzero (shares seconds)).trans (sum_shares seconds)
  rw [told]
  split
  · rename_i none
    rw [none] at sum
    exact sum
  · exact sum

theorem pairwise_shares (seconds : Nat) :
    (shares seconds).Pairwise fun first later => later.unit.seconds < first.unit.seconds := by
  simp [shares, share, TimeUnit.seconds]

theorem number_lt_of_mem_shares {seconds : Nat} : ∀ count ∈ shares seconds,
    (count.unit = .hour → count.number < 24) ∧
      (count.unit = .minute ∨ count.unit = .second → count.number < 60) := by
  have hours : seconds % 86400 / 3600 < 24 := by omega
  have minutes : seconds % 3600 / 60 < 60 := by omega
  have rest : seconds % 60 < 60 := Nat.mod_lt _ (by decide)
  simp [shares, share, hours, minutes, rest]

/-- The words of a duration tell what is told of its whole seconds. -/
theorem tells_describe (span : Span) : Tells (words span.describe) (told span.seconds) := by
  have regular : ∀ count ∈ told span.seconds, count.Regular := fun count member =>
    regular_of_mem_shares count ((told_sublist span.seconds).subset member)
  rw [describe_eq, words_intercalate (told_ne_nil span.seconds) regular]
  exact tells_words (told span.seconds)

/-- For every duration: it is told in the same words as another one if and only if both have
the same whole seconds. Its words tell one list of counts. The seconds of these add up to the
whole seconds; their units come from the largest to the smallest, each at most once; there are
fewer than 24 hours, 60 minutes and 60 seconds; and the singular stands for one alone. -/
theorem describe_lossless (span : Span) :
    (∀ other : Span, span.describe = other.describe ↔ span.seconds = other.seconds) ∧
    ∃ counts, Tells (words span.describe) counts ∧
      (∀ others, Tells (words span.describe) others → others = counts) ∧
      (counts.map Count.seconds).sum = span.seconds ∧
      counts.Pairwise (fun first later => later.unit.seconds < first.unit.seconds) ∧
      ∀ count ∈ counts,
        (count.unit = .hour → count.number < 24) ∧
        (count.unit = .minute ∨ count.unit = .second → count.number < 60) ∧
        (count.plural = false ↔ count.number = 1) := by
  have tells := tells_describe span
  refine ⟨fun other => ⟨fun same => ?_, fun same => ?_⟩, told span.seconds, tells,
    fun others => tells.unique, sum_told span.seconds,
    (pairwise_shares span.seconds).sublist (told_sublist span.seconds), fun count member => ?_⟩
  · have otherTells := tells_describe other
    rw [← same] at otherTells
    rw [← sum_told span.seconds, ← tells.unique otherTells, sum_told]
  · rw [describe_eq, describe_eq, same]
  · have part := (told_sublist span.seconds).subset member
    obtain ⟨hours, others⟩ := number_lt_of_mem_shares count part
    refine ⟨hours, others, ?_⟩
    rw [regular_of_mem_shares count part, decide_eq_false_iff_not, not_not]

example : describe (ofSeconds 90061) = "1 day 1 hour 1 minute 1 second" := by decide

end Span

end SessionLayer
