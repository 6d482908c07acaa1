import Mathlib.Data.Nat.Digits.Defs
import Mathlib.Data.String.Basic
import SessionLayer.Text.Template

/-!
# How a template is filled

There is one way to cut a template into ordinary characters and places, if a percent sign always
begins a place and all the digits behind it belong to it (`Template.Splits`). A filled template
is these pieces one behind the other, some of them replaced by their arguments
(`Template.Filled`). So every character of the template is looked at once, and what an argument
says is not looked at: `Template.fill_exact`.
-/

namespace SessionLayer.Template

variable {args : List String} {template rest digits : List Char} {piece : Piece}
  {cut : List Piece} {part : List Char} {n : Nat}

/-! ## The pieces -/

/-- These pieces are the template cut up: a place has all digits that stand behind its percent
sign, and no percent sign stands outside of places. -/
inductive Splits : List Char → List Piece → Prop
  | nil : Splits [] []
  | plain {c : Char} {rest : List Char} {cut : List Piece} :
    c ≠ '%' → Splits rest cut → Splits (c :: rest) (.plain c :: cut)
  | place {digits rest : List Char} {cut : List Piece} :
    (∀ c ∈ digits, c.isDigit = true) → (∀ c ∈ rest.head?, c.isDigit = false) →
    Splits rest cut → Splits ('%' :: (digits ++ rest)) (.place digits :: cut)

theorem pieces_of_ne {c : Char} (ordinary : c ≠ '%') (rest : List Char) :
    pieces (c :: rest) = .plain c :: pieces rest := by
  rw [pieces, List.foldr_cons, consPiece, if_neg ordinary]
  rfl

theorem leadingDigits_pieces (template : List Char) :
    leadingDigits (pieces template) =
      (template.takeWhile Char.isDigit, pieces (template.dropWhile Char.isDigit)) := by
  induction template with
  | nil => rfl
  | cons c rest ih =>
    by_cases sign : c = '%'
    · subst sign
      rfl
    · rw [pieces_of_ne sign, leadingDigits, ih]
      by_cases digit : c.isDigit = true
      · simp [digit]
      · rw [if_neg digit, List.takeWhile_cons_of_neg digit, List.dropWhile_cons_of_neg digit,
          pieces_of_ne sign]

/-- The first piece of a template that begins with a percent sign has all the digits behind it. -/
theorem pieces_sign (rest : List Char) :
    pieces ('%' :: rest) =
      .place (rest.takeWhile Char.isDigit) :: pieces (rest.dropWhile Char.isDigit) := by
  have taken := leadingDigits_pieces rest
  rw [pieces] at taken ⊢
  rw [List.foldr_cons, consPiece, if_pos rfl, taken]

theorem takeWhile_digits (all : ∀ c ∈ digits, c.isDigit = true)
    (last : ∀ c ∈ rest.head?, c.isDigit = false) :
    (digits ++ rest).takeWhile Char.isDigit = digits ∧
      (digits ++ rest).dropWhile Char.isDigit = rest := by
  rw [List.takeWhile_append_of_pos all, List.dropWhile_append_of_pos all]
  cases rest with
  | nil => exact ⟨List.append_nil _, rfl⟩
  | cons c behind =>
    have other : ¬ c.isDigit = true := Bool.not_eq_true _ ▸ last c rfl
    rw [List.takeWhile_cons_of_neg other, List.dropWhile_cons_of_neg other, List.append_nil]
    exact ⟨rfl, rfl⟩

/-- These are pieces that a template can be cut up into. -/
theorem splits_pieces (template : List Char) : Splits template (pieces template) := by
  -- Behind a place more than one character is gone, so the induction is on the length.
  induction size : template.length using Nat.strong_induction_on generalizing template with
  | _ size ih =>
    subst size
    cases template with
    | nil => exact .nil
    | cons c rest =>
      by_cases sign : c = '%'
      · subst sign
        have shorter : (rest.dropWhile Char.isDigit).length < ('%' :: rest).length :=
          Nat.lt_succ_of_le (List.dropWhile_sublist _).length_le
        have last : ∀ c ∈ (rest.dropWhile Char.isDigit).head?, c.isDigit = false := by
          intro c first
          have other := List.head?_dropWhile_not Char.isDigit rest
          rw [Option.mem_def.mp first] at other
          exact other
        have all : ∀ c ∈ rest.takeWhile Char.isDigit, c.isDigit = true :=
          List.all_eq_true.mp List.all_takeWhile
        have split := Splits.place all last (ih _ shorter _ rfl)
        rw [List.takeWhile_append_dropWhile] at split
        rw [pieces_sign]
        exact split
      · rw [pieces_of_ne sign]
        exact .plain sign (ih _ (Nat.lt_succ_self _) rest rfl)

/-- There is no other way to cut up a template. -/
theorem Splits.eq_pieces (splits : Splits template cut) : cut = pieces template := by
  induction splits with
  | nil => rfl
  | plain ordinary _ ih => rw [pieces_of_ne ordinary, ih]
  | place all last _ ih =>
    obtain ⟨taken, left⟩ := takeWhile_digits all last
    rw [pieces_sign, taken, left, ih]

/-- Nothing is lost where a template is cut up. -/
theorem Splits.whole (splits : Splits template cut) : cut.flatMap Piece.source = template := by
  induction splits with
  | nil => rfl
  | plain _ _ ih => rw [List.flatMap_cons, ih]; rfl
  | place _ _ _ ih => rw [List.flatMap_cons, ih]; rfl

theorem Splits.isDigit (splits : Splits template cut) (member : .place digits ∈ cut) :
    ∀ c ∈ digits, c.isDigit = true := by
  induction splits with
  | nil => cases member
  | plain _ _ ih =>
    rcases List.mem_cons.mp member with same | member
    · cases same
    · exact ih member
  | place all _ _ ih =>
    rcases List.mem_cons.mp member with same | member
    · cases same
      exact all
    · exact ih member

/-! ## The numbers of places -/

/-- These digits, of which there is at least one, read as this number. -/
structure Reads (digits : List Char) (n : Nat) : Prop where
  some : digits ≠ []
  all : ∀ c ∈ digits, c.isDigit = true
  value : n = Nat.ofDigits 10 (digits.reverse.map fun c => c.toNat - '0'.toNat)

theorem lt_ten_of_isDigit {c : Char} (digit : c.isDigit = true) : c.toNat - '0'.toNat < 10 := by
  have bounds := Char.isDigit_iff_toNat.mp digit
  have zero : '0'.toNat = 48 := rfl
  have nine : '9'.toNat = 57 := rfl
  omega

theorem value?_eq_some_iff {c : Char} {v : Nat} :
    Digits.value? 10 c = some v ↔ c.isDigit = true ∧ v = c.toNat - '0'.toNat := by
  unfold Digits.value?
  by_cases digit : c.isDigit = true
  · simp only [digit, if_true, if_pos (lt_ten_of_isDigit digit), Option.some.injEq, true_and]
    exact eq_comm
  · have large : ¬ (if 'a' ≤ c ∧ c ≤ 'z' then c.toNat - 'a'.toNat + 10
        else if 'A' ≤ c ∧ c ≤ 'Z' then c.toNat - 'A'.toNat + 10 else 10) < 10 := by
      split
      · omega
      · split <;> omega
    simp only [if_neg digit]
    rw [if_neg large]
    exact iff_of_false nofun fun both => digit both.1

/-- Reading on, with the number that the digits so far have made. -/
theorem foldlM_eq_some_iff {start : Nat} :
    digits.foldlM (fun number c => (Digits.value? 10 c).map (10 * number + ·)) start = some n ↔
      (∀ c ∈ digits, c.isDigit = true) ∧
        n = digits.foldl (fun number c => 10 * number + (c.toNat - '0'.toNat)) start := by
  induction digits generalizing start with
  | nil => exact ⟨fun same => ⟨nofun, (Option.some.inj same).symm⟩, fun both => by rw [both.2]; rfl⟩
  | cons c rest ih =>
    rw [List.foldlM_cons, List.forall_mem_cons, List.foldl_cons]
    simp only [Option.bind_eq_bind, Option.bind_eq_some_iff, Option.map_eq_some_iff,
      value?_eq_some_iff, ih]
    constructor
    · rintro ⟨_, ⟨_, ⟨digit, rfl⟩, rfl⟩, others, rfl⟩
      exact ⟨⟨digit, others⟩, rfl⟩
    · rintro ⟨⟨digit, others⟩, rfl⟩
      exact ⟨_, ⟨_, ⟨digit, rfl⟩, rfl⟩, others, rfl⟩

theorem foldl_eq_ofDigits (digits : List Char) :
    digits.foldl (fun number c => 10 * number + (c.toNat - '0'.toNat)) 0 =
      Nat.ofDigits 10 (digits.reverse.map fun c => c.toNat - '0'.toNat) := by
  rw [Nat.ofDigits_eq_foldr, List.foldr_map, List.foldr_reverse]
  simp only [Nat.cast_id, Nat.add_comm]

/-- The digits of a place are read as the number that they write. -/
theorem number?_eq_some_iff : Digits.number? 10 digits = some n ↔ Reads digits n := by
  cases digits with
  | nil => exact iff_of_false nofun fun reads => reads.some rfl
  | cons c rest =>
    rw [Digits.number?, foldlM_eq_some_iff, foldl_eq_ofDigits]
    · exact ⟨fun ⟨all, value⟩ => ⟨nofun, all, value⟩, fun reads => ⟨reads.all, reads.value⟩⟩
    · nofun

/-- What a piece becomes: a place with the number of an argument becomes this argument, and
everything else stays as it is written. -/
inductive Filled (args : List String) : Piece → List Char → Prop
  | plain (c : Char) : Filled args (.plain c) [c]
  | put {digits : List Char} {n : Nat} {arg : String} :
    Reads digits n → 1 ≤ n → n ≤ args.length → args[n - 1]? = some arg →
    Filled args (.place digits) arg.toList
  | kept {digits : List Char} :
    (∀ n, Reads digits n → ¬ (1 ≤ n ∧ n ≤ args.length)) →
    Filled args (.place digits) ('%' :: digits)

theorem argument?_eq_some_iff {arg : String} :
    argument? args digits = some arg ↔
      ∃ n, Reads digits n ∧ 1 ≤ n ∧ args[n - 1]? = some arg := by
  simp only [argument?, Option.bind_eq_bind, Option.bind_eq_some_iff, number?_eq_some_iff]
  refine exists_congr fun n => and_congr_right fun _ => ?_
  split
  · rename_i zero
    subst zero
    exact iff_of_false nofun fun both => absurd both.1 (by decide)
  · rename_i positive
    exact ⟨fun found => ⟨Nat.pos_of_ne_zero positive, found⟩, fun both => both.2⟩

theorem argument?_eq_none_iff :
    argument? args digits = none ↔
      ∀ n, Reads digits n → ¬ (1 ≤ n ∧ n ≤ args.length) := by
  rw [Option.eq_none_iff_forall_ne_some]
  constructor
  · intro absent n reads within
    have inside : n - 1 < args.length := by omega
    exact absent _ (argument?_eq_some_iff.mpr
      ⟨n, reads, within.1, List.getElem?_eq_getElem inside⟩)
  · intro outside arg found
    obtain ⟨n, reads, positive, present⟩ := argument?_eq_some_iff.mp found
    have inside := (List.getElem?_eq_some_iff.mp present).1
    exact outside n reads ⟨positive, by omega⟩

/-- There is one thing that a piece can become. -/
theorem filled_iff : Filled args piece part ↔ part = piece.fill args := by
  constructor
  · intro filled
    cases filled with
    | plain c => rfl
    | put reads positive _ present =>
      rw [Piece.fill, argument?_eq_some_iff.mpr ⟨_, reads, positive, present⟩]
    | kept outside => rw [Piece.fill, argument?_eq_none_iff.mpr outside]
  · rintro rfl
    cases piece with
    | plain c => exact .plain c
    | place digits =>
      cases found : argument? args digits with
      | some arg =>
        obtain ⟨n, reads, positive, present⟩ := argument?_eq_some_iff.mp found
        have inside := (List.getElem?_eq_some_iff.mp present).1
        rw [Piece.fill, found]
        exact .put reads positive (by omega) present
      | none =>
        rw [Piece.fill, found]
        exact .kept (argument?_eq_none_iff.mp found)

theorem forall₂_filled_iff {parts : List (List Char)} :
    List.Forall₂ (Filled args) cut parts ↔ parts = cut.map (Piece.fill args) := by
  induction cut generalizing parts with
  | nil =>
    constructor
    · rintro ⟨⟩
      rfl
    · rintro rfl
      exact .nil
  | cons piece rest ih =>
    constructor
    · rintro (_ | ⟨filled, others⟩)
      rw [filled_iff.mp filled, ih.mp others, List.map_cons]
    · rintro rfl
      exact .cons (filled_iff.mpr rfl) (ih.mpr rfl)

/-- A filled template is what its pieces become, one behind the other. -/
theorem fill_eq_iff {text template : String} :
    fill args template = text ↔
      ∃ parts, List.Forall₂ (Filled args) (pieces template.toList) parts ∧
        text.toList = parts.flatten := by
  simp only [forall₂_filled_iff, exists_eq_left, ← List.flatMap_def, fill]
  constructor
  · rintro rfl
    exact String.toList_ofList
  · intro same
    rw [← same, String.ofList_toList]

/-- Without arguments everything stays as it is written. -/
theorem fill_nil (template : String) : fill [] template = template := by
  refine fill_eq_iff.mpr ⟨(pieces template.toList).map Piece.source, ?_, ?_⟩
  · rw [forall₂_filled_iff]
    refine List.map_congr_left fun piece _ => ?_
    have kept : Filled [] piece piece.source := by
      cases piece with
      | plain c => exact .plain c
      | place digits =>
        exact .kept fun n _ within => absurd (Nat.le_trans within.1 within.2) (by decide)
    exact filled_iff.mp kept
  · rw [← List.flatMap_def, (splits_pieces _).whole]

/-! ## Where places stand -/

/-- Between these bytes of a text stands this, and neither end is inside a character. -/
structure Stands (text : String) (start stop : Nat) (part : List Char) : Prop where
  begins : String.Pos.Raw.IsValid text ⟨start⟩
  ends : String.Pos.Raw.IsValid text ⟨stop⟩
  between : String.Pos.Raw.extract text ⟨start⟩ ⟨stop⟩ = .ofList part

theorem stands_append (text : String) (front part back : List Char)
    (whole : text.toList = front ++ part ++ back) :
    Stands text (String.utf8Len front) (String.utf8Len front + String.utf8Len part) part := by
  have same : text = .ofList (front ++ part ++ back) := by rw [← whole, String.ofList_toList]
  subst same
  refine ⟨?_, ?_, String.extract_of_valid front part back⟩
  · rw [String.Pos.Raw.isValid_iff_exists_append]
    refine ⟨.ofList front, .ofList (part ++ back), ?_, ?_⟩
    · rw [← String.ofList_append, List.append_assoc]
    · rw [String.rawEndPos_ofList]
  · rw [String.Pos.Raw.isValid_iff_exists_append]
    refine ⟨.ofList (front ++ part), .ofList back, String.ofList_append, ?_⟩
    rw [String.rawEndPos_ofList, String.utf8Len_append]

/-- Digits take one byte each. -/
theorem utf8Len_digits (all : ∀ c ∈ digits, c.isDigit = true) :
    String.utf8Len digits = digits.length := by
  induction digits with
  | nil => rfl
  | cons c rest ih =>
    rw [List.forall_mem_cons] at all
    have narrow : c.utf8Size = 1 := by
      have bounds := Char.isDigit_iff_toNat.mp all.1
      have nine : '9'.toNat = 57 := rfl
      rw [Char.utf8Size_eq_one_iff, UInt32.le_iff_toNat_le]
      show c.toNat ≤ 127
      omega
    rw [String.utf8Len_cons, ih all.2, narrow, List.length_cons]

/-- A place stands where the pieces in front of it end, and its digits stand one byte later. -/
theorem Splits.stands {template : String} {before after : List Piece}
    (splits : Splits template.toList (before ++ .place digits :: after)) :
    let start := (String.ofList (before.flatMap Piece.source)).utf8ByteSize
    Stands template start (start + 1 + digits.length) ('%' :: digits) ∧
      Stands template (start + 1) (start + 1 + digits.length) digits := by
  intro start
  have begins : start = String.utf8Len (before.flatMap Piece.source) :=
    String.utf8ByteSize_ofList _
  have length : String.utf8Len digits = digits.length :=
    utf8Len_digits (splits.isDigit (List.mem_append_right before (List.mem_cons_self ..)))
  have sign : '%'.utf8Size = 1 := rfl
  have whole := splits.whole
  rw [List.flatMap_append, List.flatMap_cons, Piece.source] at whole
  have place := stands_append template (before.flatMap Piece.source) ('%' :: digits)
    (after.flatMap Piece.source) (by rw [← whole, List.append_assoc])
  have inside := stands_append template (before.flatMap Piece.source ++ ['%']) digits
    (after.flatMap Piece.source) (by rw [← whole]; simp)
  rw [String.utf8Len_cons, length, sign, ← begins, Nat.add_comm digits.length,
    ← Nat.add_assoc] at place
  rw [String.utf8Len_append, String.utf8Len_cons, String.utf8Len_nil, Nat.zero_add, sign, length,
    ← begins] at inside
  exact ⟨place, inside⟩

/-- For every template and all arguments: there is one way to cut the template into ordinary
characters and places. The filled template is these pieces one behind the other, a place with
the number of an argument replaced by the argument and everything else as it is written. The
pieces as they are written are the whole template; each place, and the digits in it, stand
between two bytes at which no character is cut. Without arguments nothing is replaced. -/
theorem fill_exact (args : List String) (template : String) :
    ∃ cut, Splits template.toList cut ∧
      (∀ other, Splits template.toList other → other = cut) ∧
      (∀ text, fill args template = text ↔
        ∃ parts, List.Forall₂ (Filled args) cut parts ∧ text.toList = parts.flatten) ∧
      cut.flatMap Piece.source = template.toList ∧
      (∀ before digits after, cut = before ++ .place digits :: after →
        let start := (String.ofList (before.flatMap Piece.source)).utf8ByteSize
        Stands template start (start + 1 + digits.length) ('%' :: digits) ∧
          Stands template (start + 1) (start + 1 + digits.length) digits) ∧
      fill [] template = template := by
  have splits := splits_pieces template.toList
  refine ⟨pieces template.toList, splits, fun _ => Splits.eq_pieces, fun _ => fill_eq_iff,
    splits.whole, ?_, fill_nil template⟩
  intro before digits after same
  rw [same] at splits
  exact splits.stands

/-- An argument that looks like a place, a number with a zero in front, a number without an
argument, and a percent sign at the end. -/
theorem fill_exact_mixed :
    ∃ parts, List.Forall₂ (Filled ["a%2", "b"])
        [.place ['1'], .plain 'é', .place ['0', '2'], .place ['9'], .place []] parts ∧
      "a%2éb%9%".toList = parts.flatten := by
  obtain ⟨cut, splits, -, filled, -⟩ := fill_exact ["a%2", "b"] "%1é%02%9%"
  have same : cut = [.place ['1'], .plain 'é', .place ['0', '2'], .place ['9'], .place []] :=
    splits.eq_pieces.trans (by decide)
  rw [same] at filled
  exact (filled "a%2éb%9%").mp (by decide)

end SessionLayer.Template
