import Autoproto.ByteEncoding

namespace Autoproto.Utf8

open List

/-!
# Lengths in UTF-16

A text in UTF-8 is cut so that at most a given number of code units in UTF-16 is
left. The number left is an unsigned counter, and a character outside of the
basic plane takes two.
-/

def isUtf8CharacterFirstCodeUnit (c : UInt8) : Bool :=
  c &&& 0xC0 ≠ 0x80

/-- The function `utf8_utf16_length`, whose sum is at most the number of bytes of a valid text. -/
def utf8Utf16Length : Bytes → Nat
  | [] => 0
  | c :: str =>
    (isUtf8CharacterFirstCodeUnit c).toNat + (c &&& 0xf8 == 0xf0).toNat + utf8Utf16Length str

/-- The function `utf8_utf16_truncate`, whose counter wraps below zero. -/
def utf8Utf16Truncate : Bytes → UInt64 → Bytes
  | [], _ => []
  | c :: str, length =>
    if isUtf8CharacterFirstCodeUnit c then
      if length ≤ 0 then
        []
      else if c ≥ 0xf0 then
        c :: utf8Utf16Truncate str (length - 1 - 1)
      else
        c :: utf8Utf16Truncate str (length - 1)
    else
      c :: utf8Utf16Truncate str length

def utf8Utf16SubstrFrom (str : Bytes) (offset : UInt64) : Bytes :=
  if offset = 0 then str else str.drop (utf8Utf16Truncate str offset).length

def utf8Utf16Substr (str : Bytes) (offset length : UInt64) : Bytes :=
  utf8Utf16Truncate (utf8Utf16SubstrFrom str offset) length

/-- The valid texts: the bytes of a list of characters. -/
def encode (chars : List Char) : Bytes :=
  chars.flatMap String.utf8EncodeChar

/-- The code units of a character in UTF-16. -/
def units (c : Char) : Nat :=
  if c.val.toNat ≤ 0xFFFF then 1 else 2

/-- The longest start with at most so many code units. -/
structure Truncated (chars : List Char) (length : Nat) (kept : List Char) : Prop where
  leads : kept <+: chars
  fits : utf8Utf16Length (encode kept) ≤ length
  longest : ∀ longer, longer <+: chars → utf8Utf16Length (encode longer) ≤ length → longer <+: kept

/-- A number of code units that ends inside of a character. -/
abbrev Splits (chars : List Char) (length : Nat) : Prop :=
  ∃ index : Fin chars.length,
    utf8Utf16Length (encode (chars.take index)) + 1 = length ∧ units (chars.get index) = 2

/-- A byte that continues a character. -/
abbrev Continues (c : UInt8) : Prop :=
  isUtf8CharacterFirstCodeUnit c = false ∧ c &&& 0xf8 ≠ 0xf0

/-- A byte that starts a character with so many code units. -/
abbrev Starts (c : UInt8) (count : Nat) : Prop :=
  isUtf8CharacterFirstCodeUnit c = true ∧
    (c ≥ 0xf0 ∧ c &&& 0xf8 = 0xf0 ∧ count = 2 ∨ ¬ c ≥ 0xf0 ∧ c &&& 0xf8 ≠ 0xf0 ∧ count = 1)

theorem exists_utf8EncodeChar (c : Char) : ∃ first rest,
      String.utf8EncodeChar c = first :: rest ∧ Starts first (units c) ∧
        ∀ byte ∈ rest, Continues byte := by
  have continues : ∀ low < 64, Continues (UInt8.ofNat (low + 128)) := by decide
  have low (number : Nat) := continues (number % 64) (Nat.mod_lt _ (by decide))
  rw [String.utf8EncodeChar, units]
  split
  case isTrue small =>
    have starts : ∀ number ≤ 127, Starts (UInt8.ofNat number) 1 := by decide
    refine ⟨_, [], rfl, ?_, forall_mem_nil _⟩
    rw [if_pos (by omega)]
    exact starts _ small
  case isFalse =>
    split
    case isTrue =>
      have starts : ∀ high < 32, Starts (UInt8.ofNat (high + 192)) 1 := by decide
      refine ⟨_, _, rfl, ?_, forall_mem_singleton.mpr (low _)⟩
      rw [if_pos (by omega)]
      exact starts _ (Nat.mod_lt _ (by decide))
    case isFalse =>
      split
      case isTrue =>
        have starts : ∀ high < 16, Starts (UInt8.ofNat (high + 224)) 1 := by decide
        refine ⟨_, _, rfl, starts _ (Nat.mod_lt _ (by decide)), ?_⟩
        simp only [forall_mem_cons]
        exact ⟨low _, low _, forall_mem_nil _⟩
      case isFalse =>
        have starts : ∀ high < 8, Starts (UInt8.ofNat (high + 240)) 2 := by decide
        refine ⟨_, _, rfl, starts _ (Nat.mod_lt _ (by decide)), ?_⟩
        simp only [forall_mem_cons]
        exact ⟨low _, low _, low _, forall_mem_nil _⟩

theorem utf8Utf16Length_append (first second : Bytes) :
    utf8Utf16Length (first ++ second) = utf8Utf16Length first + utf8Utf16Length second := by
  induction first with
  | nil => exact (Nat.zero_add _).symm
  | cons c first ih =>
    rw [cons_append, utf8Utf16Length, utf8Utf16Length, ih]
    exact (Nat.add_assoc _ _ _).symm

theorem utf8Utf16Length_cons (c : Char) (chars : List Char) :
    utf8Utf16Length (encode (c :: chars)) = units c + utf8Utf16Length (encode chars) := by
  obtain ⟨first, rest, encoded, ⟨isFirst, starts⟩, continues⟩ := exists_utf8EncodeChar c
  have none : utf8Utf16Length rest = 0 := by
    clear encoded
    induction rest with
    | nil => rfl
    | cons byte rest ih =>
      obtain ⟨⟨notFirst, notFour⟩, later⟩ := forall_mem_cons.mp continues
      rw [utf8Utf16Length, notFirst, beq_false_of_ne notFour, ih later]
      rfl
  rw [encode, flatMap_cons, utf8Utf16Length_append, encoded, utf8Utf16Length, none, isFirst]
  rcases starts with ⟨_, four, two⟩ | ⟨_, notFour, one⟩
  · rw [beq_iff_eq.mpr four, two]
    rfl
  · rw [beq_false_of_ne notFour, one]
    rfl

theorem utf8Utf16Truncate_cons (c : Char) (chars : List Char) (length : UInt64) :
    utf8Utf16Truncate (encode (c :: chars)) length =
      if length = 0 then
        []
      else
        String.utf8EncodeChar c ++
          utf8Utf16Truncate (encode chars)
            (if units c = 2 then length - 1 - 1 else length - 1) := by
  obtain ⟨first, rest, encoded, ⟨isFirst, starts⟩, continues⟩ := exists_utf8EncodeChar c
  have passes (left : UInt64) : utf8Utf16Truncate (rest ++ encode chars) left =
        rest ++ utf8Utf16Truncate (encode chars) left := by
    clear encoded
    induction rest with
    | nil => rfl
    | cons byte rest ih =>
      obtain ⟨⟨notFirst, _⟩, later⟩ := forall_mem_cons.mp continues
      rw [cons_append, utf8Utf16Truncate, notFirst, if_neg Bool.false_ne_true,
        ih later, cons_append]
  have sameText : encode (c :: chars) = first :: (rest ++ encode chars) := by
    rw [encode, flatMap_cons, encoded, cons_append, encode]
  rw [sameText, utf8Utf16Truncate, isFirst, if_pos rfl, encoded, passes, passes]
  have zero : length ≤ 0 ↔ length = 0 := UInt64.le_zero_iff
  rcases starts with ⟨large, _, two⟩ | ⟨small, _, one⟩
  · simp [zero, large, two]
  · simp [zero, small, one]

theorem length_append_chars (first second : List Char) :
    utf8Utf16Length (encode (first ++ second)) =
      utf8Utf16Length (encode first) + utf8Utf16Length (encode second) := by
  rw [encode, flatMap_append, utf8Utf16Length_append, encode, encode]

theorem units_eq_one_or_two (c : Char) : units c = 1 ∨ units c = 2 := by
  rw [units]
  split
  · exact Or.inl rfl
  · exact Or.inr rfl

theorem exists_truncated (chars : List Char) (length : Nat) :
    ∃ kept, Truncated chars length kept := by
  let Fits (count : Nat) : Prop := utf8Utf16Length (encode (chars.take count)) ≤ length
  refine ⟨chars.take (Nat.findGreatest Fits chars.length), take_prefix _ _, ?_, ?_⟩
  · exact Nat.findGreatest_spec (P := Fits) (Nat.zero_le _) (Nat.zero_le length)
  · intro longer leads fits
    rw [prefix_iff_eq_take.mp leads] at fits ⊢
    exact take_prefix_take_left (Nat.le_findGreatest leads.length_le fits)

theorem counter_spec {c : Char} {length : UInt64} (fits : units c ≤ length.toNat) :
    (if units c = 2 then length - 1 - 1 else length - 1).toNat = length.toNat - units c := by
  have positive : 1 ≤ length.toNat := by
    have := units_eq_one_or_two c
    omega
  have one : (length - 1).toNat = length.toNat - 1 :=
    UInt64.toNat_sub_of_le _ _ (UInt64.le_iff_toNat_le.mpr positive)
  split
  case isTrue two =>
    have next : (length - 1 - 1).toNat = (length - 1).toNat - 1 :=
      UInt64.toNat_sub_of_le _ _ (UInt64.le_iff_toNat_le.mpr (by rw [one]; simp; omega))
    omega
  case isFalse notTwo => rw [one, (units_eq_one_or_two c).resolve_right notTwo]

section Counter

variable {kept rest : List Char} {length : UInt64}

theorem truncate_append (fits : utf8Utf16Length (encode kept) ≤ length.toNat) :
    utf8Utf16Truncate (encode (kept ++ rest)) length = encode kept ++
      utf8Utf16Truncate (encode rest)
        (UInt64.ofNat (length.toNat - utf8Utf16Length (encode kept))) := by
  induction kept generalizing length with
  | nil => exact congrArg (utf8Utf16Truncate (encode rest)) UInt64.ofNat_toNat.symm
  | cons c kept ih =>
    rw [utf8Utf16Length_cons] at fits ⊢
    have next := @counter_spec c length (by omega)
    have notZero : length ≠ 0 := by
      rintro rfl
      have zero : units c ≤ 0 := (Nat.le_add_right _ _).trans fits
      have := units_eq_one_or_two c
      omega
    rw [cons_append, utf8Utf16Truncate_cons, if_neg notZero, ih (by omega), next,
      Nat.sub_sub]
    exact (append_assoc ..).symm

theorem truncate_eq_self (fits : utf8Utf16Length (encode kept) ≤ length.toNat) :
    utf8Utf16Truncate (encode kept) length = encode kept := by
  have all := @truncate_append kept [] length fits
  rwa [append_nil, encode, encode, flatMap_nil, utf8Utf16Truncate, append_nil] at all

variable (truncated : Truncated (kept ++ rest) length.toNat kept)

include truncated

theorem Truncated.splits_iff : Splits (kept ++ rest) length.toNat ↔ ∃ c more, rest = c :: more ∧
      units c = 2 ∧ length.toNat = utf8Utf16Length (encode kept) + 1 := by
  constructor
  · rintro ⟨⟨index, bounded⟩, ends, two⟩
    have leads := truncated.longest _ ⟨_, take_append_drop index _⟩ (ends ▸ Nat.le_succ _)
    have notAfter := leads.length_le
    rw [length_take_of_le bounded.le] at notAfter
    have notBefore : ¬ index + 1 ≤ kept.length := by
      intro before
      have next : utf8Utf16Length (encode ((kept ++ rest).take (index + 1))) =
          length.toNat + 1 := by
        rw [take_succ_eq_append_getElem bounded, length_append_chars, ← ends]
        exact congrArg _ ((utf8Utf16Length_cons _ []).trans two)
      have fits := truncated.fits
      rw [take_append_of_le_length before] at next
      rw [← take_append_drop (index + 1) kept, length_append_chars] at fits
      omega
    obtain rfl : index = kept.length := by omega
    rw [take_left] at ends
    cases rest with
    | nil => simp at bounded
    | cons c more => exact ⟨c, more, rfl, by simpa using two, ends.symm⟩
  · rintro ⟨c, more, rfl, two, ends⟩
    refine ⟨⟨kept.length, by simp⟩, ?_, by simpa using two⟩
    rw [take_left, ends]

theorem Truncated.truncate_of_splits (splits : Splits (kept ++ rest) length.toNat)
    (addressable : utf8Utf16Length (encode (kept ++ rest)) < 2 ^ 64) :
    utf8Utf16Truncate (encode (kept ++ rest)) length = encode (kept ++ rest) := by
  obtain ⟨c, more, rfl, two, ends⟩ := truncated.splits_iff.mp splits
  rw [length_append_chars, utf8Utf16Length_cons] at addressable
  have wrapped := @truncate_eq_self more (1 - 1 - 1) (show _ ≤ 2 ^ 64 - 1 by omega)
  rw [truncate_append truncated.fits, ends, Nat.add_sub_cancel_left, utf8Utf16Truncate_cons,
    if_neg (by decide), if_pos two]
  refine Eq.trans ?_ flatMap_append.symm
  exact congrArg (fun last => encode kept ++ (String.utf8EncodeChar c ++ last)) wrapped

theorem Truncated.truncate_of_not_splits (whole : ¬ Splits (kept ++ rest) length.toNat) :
    utf8Utf16Truncate (encode (kept ++ rest)) length = encode kept := by
  cases rest with
  | nil =>
    rw [append_nil]
    exact truncate_eq_self truncated.fits
  | cons c more =>
    have full : length.toNat < utf8Utf16Length (encode kept) + units c := by
      by_contra enough
      have longer := truncated.longest (kept ++ [c]) ⟨more, by rw [append_assoc]; rfl⟩ (by
        rw [length_append_chars, utf8Utf16Length_cons]
        exact Nat.le_of_not_lt enough)
      have shorter := longer.length_le
      rw [length_append, length_singleton] at shorter
      omega
    have stops : length.toNat - utf8Utf16Length (encode kept) = 0 := by
      have := units_eq_one_or_two c
      by_contra left
      exact whole (truncated.splits_iff.mpr ⟨c, more, rfl, by omega, by omega⟩)
    rw [truncate_append truncated.fits, stops, utf8Utf16Truncate_cons, if_pos (by decide),
      append_nil]

theorem Truncated.truncate_eq_iff
    (addressable : utf8Utf16Length (encode (kept ++ rest)) < 2 ^ 64) :
    utf8Utf16Truncate (encode (kept ++ rest)) length = encode kept ↔
      ¬ Splits (kept ++ rest) length.toNat := by
  refine ⟨fun cut splits => ?_, truncated.truncate_of_not_splits⟩
  rw [truncated.truncate_of_splits splits addressable] at cut
  obtain ⟨c, more, rfl, two, _⟩ := truncated.splits_iff.mp splits
  have same := congrArg utf8Utf16Length cut
  rw [length_append_chars, utf8Utf16Length_cons] at same
  omega

end Counter

/--
A text is cut to the longest prefix of characters with at most `n` code units
just if the cut is not inside of a character. A piece is the longest one behind
the offset just if neither cut is, or if it is empty anyway.
-/
theorem cut_between_characters
    (chars : List Char)
    (addressable : utf8Utf16Length (encode chars) < 2 ^ 64)
    (n : UInt64) :
    ∃ kept rest, chars = kept ++ rest ∧ Truncated chars n.toNat kept ∧
      (utf8Utf16Truncate (encode chars) n = encode kept ↔ ¬ Splits chars n.toNat) ∧
      (utf8Utf16SubstrFrom (encode chars) n = encode rest ↔ ¬ Splits chars n.toNat) ∧
      ∀ length : UInt64, ∃ piece, Truncated rest length.toNat piece ∧
        (utf8Utf16Substr (encode chars) n length = encode piece ↔
          if Splits chars n.toNat then length ≤ 1 else ¬ Splits rest length.toNat) := by
  obtain ⟨kept, truncated⟩ := exists_truncated chars n.toNat
  obtain ⟨rest, rfl⟩ := truncated.leads
  have cut := truncated.truncate_eq_iff addressable
  refine ⟨kept, rest, rfl, truncated, cut, ?_⟩
  by_cases splits : Splits (kept ++ rest) n.toNat
  · have all := truncated.truncate_of_splits splits addressable
    obtain ⟨c, more, rfl, two, ends⟩ := truncated.splits_iff.mp splits
    have notZero : n ≠ 0 := by
      rintro rfl
      exact absurd ends (Nat.succ_ne_zero _).symm
    have behind : utf8Utf16SubstrFrom (encode (kept ++ c :: more)) n = [] := by
      rw [utf8Utf16SubstrFrom, if_neg notZero, all, drop_length]
    have notEmpty (more : List Char) : [] ≠ encode (c :: more) := by
      intro nothing
      have count := utf8Utf16Length_cons c more
      rw [← nothing, utf8Utf16Length] at count
      omega
    refine ⟨iff_of_false (behind ▸ notEmpty more) (not_not.mpr splits), fun length => ?_⟩
    obtain ⟨piece, isPiece⟩ := exists_truncated (c :: more) length.toNat
    refine ⟨piece, isPiece, ?_⟩
    rw [utf8Utf16Substr, behind, utf8Utf16Truncate, if_pos splits]
    rcases prefix_cons_iff.mp isPiece.leads with rfl | ⟨later, rfl, _⟩
    · refine iff_of_true rfl (UInt64.le_iff_toNat_le.mpr (Nat.le_of_not_lt fun enough => ?_))
      have fits : utf8Utf16Length (encode [c]) ≤ length.toNat :=
        (utf8Utf16Length_cons c []).trans_le (two ▸ enough)
      exact absurd (isPiece.longest [c] ⟨more, rfl⟩ fits) (by simp)
    · refine iff_of_false (notEmpty later) fun short => ?_
      have fits : _ ≤ 1 := isPiece.fits.trans (UInt64.le_iff_toNat_le.mp short)
      rw [utf8Utf16Length_cons] at fits
      omega
  · have behind : utf8Utf16SubstrFrom (encode (kept ++ rest)) n = encode rest := by
      have split : encode (kept ++ rest) = encode kept ++ encode rest := flatMap_append
      rw [utf8Utf16SubstrFrom]
      split_ifs with zero
      · have fits := truncated.fits
        cases kept with
        | nil => rfl
        | cons c kept =>
          rw [zero, utf8Utf16Length_cons] at fits
          have := units_eq_one_or_two c
          exact absurd fits (show ¬ _ ≤ 0 by omega)
      · rw [cut.mpr splits, split, drop_left]
    refine ⟨iff_of_true behind splits, fun length => ?_⟩
    obtain ⟨piece, isPiece⟩ := exists_truncated rest length.toNat
    refine ⟨piece, isPiece, ?_⟩
    rw [utf8Utf16Substr, behind, if_neg splits]
    rw [length_append_chars] at addressable
    obtain ⟨after, rfl⟩ := isPiece.leads
    exact isPiece.truncate_eq_iff (by omega)

/-- Three code units are a face and a letter, and one is less than a face. -/
theorem face_kept :
    (∃ kept rest, ['😀', 'a', '😀'] = kept ++ rest ∧ Truncated ['😀', 'a', '😀'] 3 kept ∧
      utf8Utf16Truncate (encode ['😀', 'a', '😀']) 3 = encode kept ∧
      utf8Utf16SubstrFrom (encode ['😀', 'a', '😀']) 3 = encode rest) ∧
    ∃ kept rest, ['😀', 'a', '😀'] = kept ++ rest ∧ Truncated ['😀', 'a', '😀'] 1 kept ∧
      utf8Utf16Truncate (encode ['😀', 'a', '😀']) 1 ≠ encode kept ∧
      ∃ piece, Truncated rest 2 piece ∧
        utf8Utf16Substr (encode ['😀', 'a', '😀']) 1 2 ≠ encode piece := by
  constructor
  · obtain ⟨kept, rest, split, truncated, cut, behind, _⟩ :=
      cut_between_characters ['😀', 'a', '😀'] (by decide) 3
    exact ⟨kept, rest, split, truncated, cut.mpr (by decide), behind.mpr (by decide)⟩
  · obtain ⟨kept, rest, split, truncated, cut, _, pieces⟩ :=
      cut_between_characters ['😀', 'a', '😀'] (by decide) 1
    obtain ⟨piece, isPiece, right⟩ := pieces 2
    refine ⟨kept, rest, split, truncated, fun same => cut.mp same (by decide), piece, isPiece, ?_⟩
    intro same
    have short := right.mp same
    rw [if_pos (by decide)] at short
    exact absurd short (by decide)

/-- A face is two code units, and the counter passes zero when one is left. -/
theorem face_not_cut : utf8Utf16Truncate (encode ['😀', 'a', 'b']) 1 = encode ['😀', 'a', 'b'] ∧
      utf8Utf16Length (encode ['😀', 'a', 'b']) = 4 := by
  decide

end Autoproto.Utf8
