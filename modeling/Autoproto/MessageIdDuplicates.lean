import Mathlib.Data.List.Perm.Subperm
import Mathlib.Order.Fin.Basic
import Autoproto.ArrayAlgorithms
import Autoproto.Text

namespace Autoproto

open List ArrayAlgorithms Text ArrayAlgorithms

/-!
# Messages that were already received

A session keeps the identifiers of the messages it received last in increasing
order, in an array of twice as many cells as it has to remember. When the array
is full, its lower half is forgotten. A message that is still there, or below
all that are, is ignored.
-/

abbrev MessageId := Fin (2 ^ 64)

/-- The identifier zero stands for no message. -/
instance (priority := 1100) neZero_messageIds : NeZero (2 ^ 64) := inferInstance

/-- A random number of 32 bits can be zero. -/
instance (priority := 1100) neZero_randomNumbers : NeZero (2 ^ 32) := inferInstance

namespace MessageId

def hexDigit (digit : Nat) : UInt8 :=
  if digit < 10 then
    UInt8.ofNat (48 + digit)
  else
    UInt8.ofNat (87 + digit)

/-- The function `format::as_hex`: 16 digits. -/
def asHex (messageId : MessageId) : Bytes :=
  ascii "0x" ++ (List.range 16).map (fun place => hexDigit (messageId.val / 16 ^ (15 - place) % 16))

/-- An identifier in the text of an error. -/
def text (messageId : MessageId) : Bytes :=
  ascii "message " ++ messageId.asHex

end MessageId

inductive Verdict where
  | accepted
  | rejected (code : Nat) (message : Bytes)
  deriving Repr, DecidableEq

/-- The array of a `MessageIdDuplicateChecker` and the end of its used part. -/
structure SavedMessageIds where
  cells : List MessageId
  endPos : Nat
  deriving Repr, DecidableEq

namespace SavedMessageIds

/-- The lower half of a full array is forgotten. -/
def forgetOldest (maxSize : Nat) (saved : SavedMessageIds) : Except Fault SavedMessageIds :=
  if saved.endPos = 2 * maxSize then do
    let cells ← copyN saved.cells maxSize 0 maxSize
    return ⟨cells, maxSize⟩
  else
    .ok saved

/-- Whether an identifier is above all that are there. -/
def isNewest (messageId : MessageId) (saved : SavedMessageIds) : Except Fault Bool :=
  if saved.endPos = 0 then
    .ok true
  else do
    let newest ← read saved.cells (saved.endPos - 1)
    return decide (newest < messageId)

/-- An identifier is put behind the others. -/
def append (messageId : MessageId) (saved : SavedMessageIds) : Except Fault SavedMessageIds := do
  let cells ← write saved.cells saved.endPos messageId
  return ⟨cells, saved.endPos + 1⟩

/-- The lowest identifier, if it is above the new one and enough are there. -/
def olderThan (maxSize : Nat) (messageId : MessageId)
    (saved : SavedMessageIds) : Except Fault (Option MessageId) :=
  if maxSize ≤ saved.endPos then do
    let oldest ← read saved.cells 0
    return if messageId < oldest then some oldest else none
  else
    .ok none

/-- An identifier is put at its place and those behind it move up. -/
def insert (messageId : MessageId) (position : Nat)
    (saved : SavedMessageIds) : Except Fault SavedMessageIds := do
  let cells ←
    copyBackward saved.cells position (position + 1) (saved.endPos - position)
  let cells ← write cells position messageId
  return ⟨cells, saved.endPos + 1⟩

/-- The place of an identifier is looked up. -/
def insertNew (messageId : MessageId) (saved : SavedMessageIds) :
    Except Fault (SavedMessageIds × Verdict) := do
  let position ← lowerBound saved.cells messageId saved.endPos 0 saved.endPos
  let found ← read saved.cells position
  if found = messageId then
    return (saved, .rejected 1 (ascii "Ignore already processed " ++ messageId.text))
  else do
    let saved ← saved.insert messageId position
    return (saved, .accepted)

/-- An identifier that is not above all others. -/
def checkOlder (maxSize : Nat) (messageId : MessageId) (saved : SavedMessageIds) :
    Except Fault (SavedMessageIds × Verdict) := do
  match ← saved.olderThan maxSize messageId with
  | some oldest =>
    return (saved, .rejected 2 (ascii "Ignore very old " ++ messageId.text ++
        ascii " older than the oldest known " ++ oldest.text))
  | none => saved.insertNew messageId

/-- The second half, with room in the array. -/
def checkWithRoom (maxSize : Nat) (messageId : MessageId) (saved : SavedMessageIds) :
    Except Fault (SavedMessageIds × Verdict) := do
  if ← saved.isNewest messageId then do
    let saved ← saved.append messageId
    return (saved, .accepted)
  else
    saved.checkOlder maxSize messageId

end SavedMessageIds

def checkMessageIdDuplicates (maxSize : Nat) (messageId : MessageId) (saved : SavedMessageIds) :
    Except Fault (SavedMessageIds × Verdict) := do
  let saved ← saved.forgetOldest maxSize
  saved.checkWithRoom maxSize messageId

namespace SavedMessageIds

/-- The identifiers that are there. -/
def stored (saved : SavedMessageIds) : List MessageId :=
  saved.cells.take saved.endPos

/-- The array has its size and its used part is strictly increasing. -/
structure WellFormed (maxSize : Nat) (saved : SavedMessageIds) : Prop where
  size : saved.cells.length = 2 * maxSize
  bounded : saved.endPos ≤ 2 * maxSize
  sorted : saved.stored.Pairwise (· < ·)

/-- What is compared with: a full array is halved first. -/
def compared (maxSize : Nat) (saved : SavedMessageIds) : List MessageId :=
  if saved.endPos = 2 * maxSize then
    saved.stored.drop maxSize
  else
    saved.stored

variable {maxSize : Nat} {saved : SavedMessageIds} {messageId : MessageId}

theorem WellFormed.length_stored (wellFormed : saved.WellFormed maxSize) :
    saved.stored.length = saved.endPos := by
  rw [stored, length_take, wellFormed.size]
  exact Nat.min_eq_left wellFormed.bounded

theorem forgetOldest_spec (positive : 1 ≤ maxSize) (wellFormed : saved.WellFormed maxSize) : ∃ kept,
      saved.forgetOldest maxSize = .ok kept ∧ kept.WellFormed maxSize ∧ kept.endPos < 2 * maxSize ∧
        kept.stored = saved.compared maxSize := by
  rw [forgetOldest, compared]
  split
  · rename_i full
    have inside : maxSize + maxSize ≤ saved.cells.length := by
      rw [wellFormed.size]
      omega
    have upperHalf : (moved saved.cells maxSize 0 maxSize).take maxSize =
          saved.stored.drop maxSize := by
      have all : saved.stored = saved.cells := by
        rw [stored, full, ← wellFormed.size, take_length]
      rw [all, moved, take_zero, nil_append, take_of_length_le (l := saved.cells.drop maxSize)
          (by rw [length_drop, wellFormed.size]; omega)]
      exact take_left' (by
        rw [length_drop, wellFormed.size]
        omega)
    rw [copyN_eq (Nat.zero_le _) inside, ok_bind]
    refine ⟨_, rfl, ⟨?_, ?_, ?_⟩, ?_, upperHalf⟩
    · rw [length_moved inside (by omega), wellFormed.size]
    · exact Nat.le_mul_of_pos_left maxSize (by decide)
    · rw [stored, upperHalf]
      exact wellFormed.sorted.sublist (drop_sublist _ _)
    · change maxSize < 2 * maxSize
      omega
  · rename_i notFull
    exact ⟨saved, rfl, wellFormed, Nat.lt_of_le_of_ne wellFormed.bounded notFull, rfl⟩

/-- What an accepted identifier changes. -/
structure Added (maxSize : Nat) (messageId : MessageId) (saved after : SavedMessageIds) : Prop where
  wellFormed : after.WellFormed maxSize
  mem_stored : ∀ other, other ∈ after.stored ↔ other = messageId ∨ other ∈ saved.stored
  length_stored : after.stored.length = saved.stored.length + 1

theorem cells_eq (saved : SavedMessageIds) :
    saved.cells = saved.stored ++ saved.cells.drop saved.endPos :=
  (take_append_drop _ _).symm

theorem exists_place {stored : List MessageId} (sorted : stored.Pairwise (· < ·)) :
    ∃ lower upper, stored = lower ++ upper ∧
      (∀ other ∈ lower, other < messageId) ∧ ∀ other ∈ upper, ¬ other < messageId := by
  induction stored with
  | nil => exact ⟨[], [], rfl, forall_mem_nil _, forall_mem_nil _⟩
  | cons first rest ih =>
    obtain ⟨least, sortedRest⟩ := pairwise_cons.mp sorted
    by_cases isLower : first < messageId
    · obtain ⟨lower, upper, rfl, below, above⟩ := ih sortedRest
      exact ⟨first :: lower, upper, rfl, forall_mem_cons.mpr ⟨isLower, below⟩, above⟩
    · refine ⟨[], first :: rest, rfl, forall_mem_nil _, forall_mem_cons.mpr ⟨isLower, ?_⟩⟩
      exact fun other isOther isBelow => isLower ((least other isOther).trans isBelow)

section

variable (wellFormed : saved.WellFormed maxSize)
include wellFormed

theorem insert_spec {lower upper : List MessageId} (room : saved.endPos < 2 * maxSize)
    (split : saved.stored = lower ++ upper) (below : ∀ other ∈ lower, other < messageId)
    (above : ∀ other ∈ upper, messageId < other) : ∃ after,
      saved.insert messageId lower.length = .ok after ∧ Added maxSize messageId saved after := by
  have size := wellFormed.size
  have length := wellFormed.length_stored
  rw [split, length_append] at length
  have inside : lower.length + 1 + (saved.endPos - lower.length) ≤ saved.cells.length := by omega
  have sorted := wellFormed.sorted
  have cells := saved.cells_eq
  rw [split] at sorted cells
  -- The place is overwritten, and what was behind it stands one cell further.
  have leading : (saved.cells.take (lower.length + 1)).set lower.length messageId =
      lower ++ [messageId] := by
    rw [set_eq_take_append_cons_drop, if_pos (by rw [length_take]; omega), take_take,
      Nat.min_eq_left (Nat.le_succ _), drop_eq_nil_of_le (by simp), cells, append_assoc, take_left]
  have copied : (saved.cells.drop lower.length).take (saved.endPos - lower.length) = upper := by
    rw [cells, append_assoc, drop_left]
    exact take_left' (by omega)
  have storedAfter : ((moved saved.cells lower.length (lower.length + 1)
      (saved.endPos - lower.length)).set lower.length messageId).take (saved.endPos + 1) =
        lower ++ messageId :: upper := by
    rw [moved, append_assoc, set_append_left _ _ (by rw [length_take]; omega), leading, copied,
      ← append_assoc, append_assoc lower]
    exact take_left' (by rw [length_append, singleton_append, length_cons]; omega)
  rw [insert, copyBackward_eq (Nat.le_add_right _ 1) inside, ok_bind,
    write_eq (by rw [length_moved (by omega) inside]; omega), ok_bind]
  refine ⟨_, rfl, ⟨?_, room, ?_⟩, ?_, ?_⟩
  · rw [length_set, length_moved (by omega) inside, size]
  · rw [stored, storedAfter, pairwise_append, pairwise_cons]
    obtain ⟨lowerSorted, upperSorted, across⟩ := pairwise_append.mp sorted
    refine ⟨lowerSorted, ⟨above, upperSorted⟩, fun one isLower => forall_mem_cons.mpr ?_⟩
    exact ⟨below one isLower, across one isLower⟩
  · intro other
    rw [stored, storedAfter, split, mem_append, mem_cons, mem_append, or_left_comm]
  · rw [stored, storedAfter, split, length_append, length_cons, length_append, Nat.add_assoc]

theorem append_spec (room : saved.endPos < 2 * maxSize)
    (newest : ∀ other ∈ saved.stored, other < messageId) :
    ∃ after, saved.append messageId = .ok after ∧ Added maxSize messageId saved after := by
  have atEnd : saved.append messageId = saved.insert messageId saved.stored.length := by
    rw [append, insert, wellFormed.length_stored, Nat.sub_self, copyBackward, ok_bind]
  rw [atEnd]
  exact insert_spec wellFormed room (append_nil _).symm newest (forall_mem_nil _)

theorem isNewest_spec (messageId : MessageId) : ∃ newest, saved.isNewest messageId = .ok newest ∧
        (newest = true ↔ ∀ other ∈ saved.stored, other < messageId) := by
  have length := wellFormed.length_stored
  have sorted := wellFormed.sorted
  have cells := saved.cells_eq
  rw [isNewest]
  rcases eq_nil_or_concat' saved.stored with empty | ⟨lower, last, split⟩
  · rw [empty] at length ⊢
    rw [if_pos (show saved.endPos = 0 from length.symm)]
    exact ⟨true, rfl, iff_of_true rfl (forall_mem_nil _)⟩
  · rw [split, length_append, length_singleton] at length
    rw [split] at sorted cells ⊢
    rw [if_neg (by omega), ← length, Nat.add_sub_cancel, cells, append_assoc, singleton_append,
      read_append, ok_bind]
    refine ⟨_, rfl, decide_eq_true_iff.trans ?_⟩
    rw [forall_mem_append, forall_mem_singleton]
    have greatest := (pairwise_append.mp sorted).2.2
    exact ⟨fun isBelow => ⟨fun other isOther =>
      (greatest other isOther last (mem_singleton.mpr rfl)).trans isBelow, isBelow⟩, And.right⟩

theorem olderThan_spec (nonempty : saved.endPos ≠ 0) (messageId : MessageId) : ∃ oldest,
      saved.olderThan maxSize messageId = .ok oldest ∧ (oldest.isSome = true ↔
          maxSize ≤ saved.stored.length ∧ ∀ other ∈ saved.stored, messageId < other) := by
  have length := wellFormed.length_stored
  have sorted := wellFormed.sorted
  have cells := saved.cells_eq
  rw [olderThan, length]
  split
  · rename_i enough
    cases split : saved.stored with
    | nil =>
      rw [split] at length
      exact absurd length.symm nonempty
    | cons first rest =>
      rw [split] at sorted cells
      have least := (pairwise_cons.mp sorted).1
      rw [cells]
      refine ⟨_, rfl, ?_⟩
      have belowAll : (∀ other ∈ first :: rest, messageId < other) ↔ messageId < first :=
        forall_mem_cons.trans
          ⟨And.left, fun below => ⟨below, fun other isOther => below.trans (least other isOther)⟩⟩
      rw [belowAll]
      split
      · rename_i below
        exact iff_of_true rfl ⟨enough, below⟩
      · rename_i notBelow
        exact iff_of_false Bool.false_ne_true (fun both => notBelow both.2)
  · rename_i few
    exact ⟨none, rfl, iff_of_false Bool.false_ne_true (fun both => few both.1)⟩

end

/-- What a check does, given what is compared with. -/
inductive Checked (maxSize : Nat) (messageId : MessageId)
    (saved after : SavedMessageIds) : Verdict → Prop where
  | accepted (absent : messageId ∉ saved.stored)
      (notOld : ¬ (maxSize ≤ saved.stored.length ∧ ∀ other ∈ saved.stored, messageId < other))
      (added : Added maxSize messageId saved after) :
      Checked maxSize messageId saved after .accepted
  | processed (present : messageId ∈ saved.stored) (unchanged : after = saved) (message : Bytes) :
      Checked maxSize messageId saved after (.rejected 1 message)
  | old (enough : maxSize ≤ saved.stored.length) (below : ∀ other ∈ saved.stored, messageId < other)
      (unchanged : after = saved) (message : Bytes) :
      Checked maxSize messageId saved after (.rejected 2 message)

theorem insertNew_spec (wellFormed : saved.WellFormed maxSize) (room : saved.endPos < 2 * maxSize)
    (notNewest : ¬ ∀ other ∈ saved.stored, other < messageId)
    (notOld : ¬ (maxSize ≤ saved.stored.length ∧ ∀ other ∈ saved.stored, messageId < other)) :
    ∃ after verdict, saved.insertNew messageId = .ok (after, verdict) ∧
        Checked maxSize messageId saved after verdict := by
  obtain ⟨lower, upper, split, below, above⟩ := exists_place wellFormed.sorted
  have length := wellFormed.length_stored
  have sorted := wellFormed.sorted
  have cells := saved.cells_eq
  rw [split] at length sorted cells
  have searched : lowerBound saved.cells messageId saved.endPos 0 saved.endPos =
      .ok lower.length := by
    rw [cells, ← length]
    refine lowerBound_spec below above (Nat.zero_le _) ?_ ?_ (Nat.le_refl _)
    · rw [length_append, Nat.zero_add]
      exact Nat.le_add_right _ _
    · exact (Nat.zero_add _).le
  cases upper with
  | nil =>
    rw [split, append_nil] at notNewest
    exact absurd below notNewest
  | cons found rest =>
    obtain ⟨_, upperSorted, _⟩ := pairwise_append.mp sorted
    have above := not_lt.mp (above found mem_cons_self)
    rw [insertNew, searched, ok_bind, cells, append_assoc, cons_append, read_append, ok_bind]
    split_ifs with same
    · exact ⟨_, _, rfl, .processed (by rw [split, same]; simp) rfl _⟩
    · have isBelow := lt_of_le_of_ne above (Ne.symm same)
      have rising : ∀ other ∈ found :: rest, messageId < other :=
        forall_mem_cons.mpr ⟨isBelow, fun other isOther =>
          isBelow.trans ((pairwise_cons.mp upperSorted).1 other isOther)⟩
      have absent : messageId ∉ saved.stored := by
        rw [split, mem_append]
        rintro (isLower | isUpper)
        · exact lt_irrefl _ (below messageId isLower)
        · exact lt_irrefl _ (rising messageId isUpper)
      obtain ⟨after, inserted, added⟩ := insert_spec wellFormed room split below rising
      rw [inserted, ok_bind]
      exact ⟨_, _, rfl, .accepted absent notOld added⟩

theorem checkMessageIdDuplicates_spec (positive : 1 ≤ maxSize)
    (wellFormed : saved.WellFormed maxSize) : ∃ kept after verdict,
      checkMessageIdDuplicates maxSize messageId saved = .ok (after, verdict) ∧
        kept.WellFormed maxSize ∧ kept.stored = saved.compared maxSize ∧
        Checked maxSize messageId kept after verdict := by
  obtain ⟨kept, forgotten, keptWellFormed, room, storedKept⟩ :=
    forgetOldest_spec positive wellFormed
  obtain ⟨newest, newestRead, newestIff⟩ := isNewest_spec keptWellFormed messageId
  rw [checkMessageIdDuplicates, forgotten, ok_bind, checkWithRoom, newestRead, ok_bind]
  cases newest with
  | true =>
    have aboveAll := newestIff.mp rfl
    obtain ⟨after, appended, added⟩ := append_spec keptWellFormed room aboveAll
    refine ⟨kept, after, .accepted, ?_, keptWellFormed, storedKept, .accepted ?_ ?_ added⟩
    · rw [if_pos rfl, appended, ok_bind]
      rfl
    · intro present
      exact lt_irrefl _ (aboveAll messageId present)
    · rintro ⟨enough, belowAll⟩
      have first := getElem_mem (Nat.lt_of_lt_of_le positive enough)
      exact lt_asymm (aboveAll _ first) (belowAll _ first)
  | false =>
    have notNewest : ¬ ∀ other ∈ kept.stored, other < messageId := by
      intro aboveAll
      exact Bool.false_ne_true (newestIff.mpr aboveAll)
    have nonempty : kept.endPos ≠ 0 := by
      intro empty
      apply notNewest
      rw [stored, empty, take_zero]
      exact fun other member => absurd member not_mem_nil
    obtain ⟨oldest, oldestRead, oldestIff⟩ := olderThan_spec keptWellFormed nonempty messageId
    rw [if_neg Bool.false_ne_true, checkOlder, oldestRead, ok_bind]
    cases oldest with
    | some oldest =>
      obtain ⟨enough, belowAll⟩ := oldestIff.mp rfl
      exact ⟨kept, kept, _, rfl, keptWellFormed, storedKept, .old enough belowAll rfl _⟩
    | none =>
      have notOld := fun old => Bool.false_ne_true (oldestIff.mpr old)
      obtain ⟨after, verdict, inserted, checked⟩ :=
        insertNew_spec keptWellFormed room notNewest notOld
      exact ⟨kept, after, verdict, inserted, keptWellFormed, storedKept, checked⟩

end SavedMessageIds

/-- The array and what was accepted, the last first. -/
structure ReceivedMessages where
  saved : SavedMessageIds
  accepted : List MessageId
  deriving Repr, DecidableEq

namespace ReceivedMessages

def receive (maxSize : Nat) (received : ReceivedMessages)
    (messageId : MessageId) : Except Fault ReceivedMessages := do
  let (saved, verdict) ← checkMessageIdDuplicates maxSize messageId received.saved
  match verdict with
  | .accepted => return ⟨saved, messageId :: received.accepted⟩
  | .rejected _ _ => return ⟨saved, received.accepted⟩

def receiveAll (maxSize : Nat) (received : ReceivedMessages) :
    List MessageId → Except Fault ReceivedMessages
  | [] => .ok received
  | messageId :: later => do
      let received ← received.receive maxSize messageId
      received.receiveAll maxSize later

/-- The checker before the first message; the cells hold anything. -/
def initial (cells : List MessageId) : ReceivedMessages :=
  ⟨⟨cells, 0⟩, []⟩

/-- An identifier that has been forgotten is below at least `maxSize` others. -/
def Forgotten (maxSize : Nat) (stored : List MessageId) (messageId : MessageId) : Prop :=
  maxSize ≤ stored.length ∧ ∀ other ∈ stored, messageId < other

/-- What the array says about the identifiers that have been accepted. -/
structure Remembers (maxSize : Nat) (received : ReceivedMessages) : Prop where
  wellFormed : received.saved.WellFormed maxSize
  nodup : received.accepted.Nodup
  accepted : ∀ messageId ∈ received.saved.stored, messageId ∈ received.accepted
  forgotten : ∀ messageId ∈ received.accepted,
      messageId ∉ received.saved.stored → Forgotten maxSize received.saved.stored messageId

theorem remembers_initial {maxSize : Nat} {cells : List MessageId}
    (size : cells.length = 2 * maxSize) : (initial cells).Remembers maxSize where
  wellFormed := ⟨size, Nat.zero_le _, List.Pairwise.nil⟩
  nodup := List.nodup_nil
  accepted := fun _ member => absurd member List.not_mem_nil
  forgotten := fun _ member => absurd member List.not_mem_nil

variable {maxSize : Nat} {received : ReceivedMessages} {messageId : MessageId}

theorem mem_stored_of_mem_compared {saved : SavedMessageIds}
    (member : messageId ∈ saved.compared maxSize) : messageId ∈ saved.stored := by
  rw [SavedMessageIds.compared] at member
  split at member
  · exact mem_of_mem_drop member
  · exact member

theorem Remembers.forgotten_compared (remembers : received.Remembers maxSize)
    (wasAccepted : messageId ∈ received.accepted)
    (absent : messageId ∉ received.saved.compared maxSize) :
    Forgotten maxSize (received.saved.compared maxSize) messageId := by
  have length := remembers.wellFormed.length_stored
  rw [SavedMessageIds.compared] at absent ⊢
  split at absent
  · rename_i full
    rw [if_pos full]
    refine ⟨by rw [length_drop]; omega, ?_⟩
    intro other kept
    by_cases present : messageId ∈ received.saved.stored
    · have sorted := remembers.wellFormed.sorted
      rw [← take_append_drop maxSize received.saved.stored] at present sorted
      rcases mem_append.mp present with lower | upper
      · exact (pairwise_append.mp sorted).2.2 messageId lower other kept
      · exact absurd upper absent
    · exact (remembers.forgotten messageId wasAccepted present).2 other (mem_of_mem_drop kept)
  · rename_i notFull
    rw [if_neg notFull]
    exact remembers.forgotten messageId wasAccepted absent

/-- A message keeps what the array says. -/
theorem Remembers.receive (positive : 1 ≤ maxSize) (remembers : received.Remembers maxSize)
    (messageId : MessageId) :
    ∃ after, received.receive maxSize messageId = .ok after ∧ after.Remembers maxSize := by
  obtain ⟨kept, saved, verdict, check, keptWellFormed, storedKept, checked⟩ :=
    SavedMessageIds.checkMessageIdDuplicates_spec positive remembers.wellFormed
  have keptAccepted : ∀ other ∈ kept.stored, other ∈ received.accepted := by
    intro other member
    rw [storedKept] at member
    exact remembers.accepted other (mem_stored_of_mem_compared member)
  have keptForgotten :
      ∀ other ∈ received.accepted, other ∉ kept.stored → Forgotten maxSize kept.stored other := by
    intro other wasAccepted absent
    rw [storedKept] at absent ⊢
    exact remembers.forgotten_compared wasAccepted absent
  rw [ReceivedMessages.receive, check, ok_bind]
  cases checked with
  | processed present unchanged | old enough below unchanged =>
    subst unchanged
    exact ⟨_, rfl, keptWellFormed, remembers.nodup, keptAccepted, keptForgotten⟩
  | accepted absent notOld added =>
    refine ⟨_, rfl, added.wellFormed, ?_, ?_, ?_⟩
    · -- Had it been accepted before, it would be there or too old.
      refine nodup_cons.mpr ⟨?_, remembers.nodup⟩
      intro before
      exact notOld (keptForgotten messageId before absent)
    · intro other member
      rcases (added.mem_stored other).mp member with new | old
      · exact mem_cons.mpr (.inl new)
      · exact mem_cons_of_mem _ (keptAccepted other old)
    · intro other wasAccepted notStored
      have notNew : other ≠ messageId :=
        fun new => notStored ((added.mem_stored other).mpr (.inl new))
      have notKept : other ∉ kept.stored :=
        fun old => notStored ((added.mem_stored other).mpr (.inr old))
      have before : other ∈ received.accepted := (mem_cons.mp wasAccepted).resolve_left notNew
      obtain ⟨enough, below⟩ := keptForgotten other before notKept
      refine ⟨by rw [added.length_stored]; omega, ?_⟩
      intro stored member
      rcases (added.mem_stored stored).mp member with new | old
      · -- The new identifier is above one that is there, as it is not old.
        have notBelow : ¬ ∀ lower ∈ kept.stored, messageId < lower :=
          fun belowAll => notOld ⟨enough, belowAll⟩
        push Not at notBelow
        obtain ⟨lower, lowerMember, lowerLe⟩ := notBelow
        rw [new]
        exact lt_of_lt_of_le (below lower lowerMember) lowerLe
      · exact below stored old

theorem Remembers.receiveAll (positive : 1 ≤ maxSize) (remembers : received.Remembers maxSize)
    (messageIds : List MessageId) :
    ∃ after, received.receiveAll maxSize messageIds = .ok after ∧ after.Remembers maxSize := by
  induction messageIds generalizing received with
  | nil => exact ⟨received, rfl, remembers⟩
  | cons messageId later ih =>
    obtain ⟨next, arrived, nextRemembers⟩ := remembers.receive positive messageId
    obtain ⟨after, rest, afterRemembers⟩ := ih nextRemembers
    rw [ReceivedMessages.receiveAll, arrived, ok_bind]
    exact ⟨after, rest, afterRemembers⟩

theorem Remembers.stored_of_few_above (remembers : received.Remembers maxSize)
    (wasAccepted : messageId ∈ received.accepted)
    (few : (received.accepted.filter (fun other => messageId < other)).length < maxSize) :
    messageId ∈ received.saved.stored := by
  by_contra absent
  obtain ⟨enough, below⟩ := remembers.forgotten messageId wasAccepted absent
  have storedNodup : received.saved.stored.Nodup := remembers.wellFormed.sorted.imp ne_of_lt
  have storedAbove :
      received.saved.stored ⊆ received.accepted.filter (fun other => messageId < other) := by
    intro other member
    exact mem_filter.mpr ⟨remembers.accepted other member, decide_eq_true (below other member)⟩
  have := (subperm_of_subset storedNodup storedAbove).length_le
  omega

/--
Any messages are checked without leaving the array. Its used part stays
increasing and holds the largest accepted identifiers, none is accepted twice,
and the next verdict follows from those that are left once a full array has been
halved.
-/
theorem check_message_ids
    (maxSize : Nat)
    (cells : List MessageId)
    (positive : 1 ≤ maxSize)
    (size : cells.length = 2 * maxSize)
    (messageIds : List MessageId) :
    ∃ received,
      (initial cells).receiveAll maxSize messageIds = .ok received ∧
        received.saved.cells.length = 2 * maxSize ∧
        received.saved.endPos ≤ 2 * maxSize ∧
        received.saved.stored.Pairwise (· < ·) ∧
        received.accepted.Nodup ∧
        (∀ messageId ∈ received.saved.stored, messageId ∈ received.accepted) ∧
        (∀ messageId ∈ received.accepted,
          (received.accepted.filter (fun other => messageId < other)).length < maxSize →
          messageId ∈ received.saved.stored) ∧
        ∀ messageId, ∃ after verdict,
            checkMessageIdDuplicates maxSize messageId received.saved = .ok (after, verdict) ∧
              ((∃ message, verdict = .rejected 1 message) ↔
                messageId ∈ received.saved.compared maxSize) ∧
              ((∃ message, verdict = .rejected 2 message) ↔
                maxSize ≤ (received.saved.compared maxSize).length ∧
                  ∀ other ∈ received.saved.compared maxSize, messageId < other) ∧
              ∀ code message, verdict = .rejected code message → code = 1 ∨ code = 2 := by
  obtain ⟨received, arrived, remembers⟩ := (remembers_initial size).receiveAll positive messageIds
  refine ⟨received, arrived, remembers.wellFormed.size,
    remembers.wellFormed.bounded, remembers.wellFormed.sorted,
    remembers.nodup, remembers.accepted,
    fun _ => remembers.stored_of_few_above, ?_⟩
  intro messageId
  obtain ⟨kept, after, verdict, check, -, storedKept, checked⟩ :=
    SavedMessageIds.checkMessageIdDuplicates_spec positive remembers.wellFormed
  refine ⟨after, verdict, check, ?_⟩
  rw [← storedKept]
  cases checked with
  | accepted absent notOld added => simp [absent, notOld]
  | processed present unchanged message =>
    have notBelow : ¬ ∀ other ∈ kept.stored, messageId < other :=
      fun below => lt_irrefl _ (below messageId present)
    simp [present, notBelow]
  | old enough below unchanged message =>
    have absent : messageId ∉ kept.stored := fun present => lt_irrefl _ (below messageId present)
    simpa [absent, enough] using below

theorem check_message_ids_out_of_order : ∃ received,
      (initial [0, 0, 0, 0]).receiveAll 2 [5, 9, 7, 7] = .ok received ∧ received.accepted.Nodup ∧
        received = ⟨⟨[5, 7, 9, 0], 3⟩, [7, 9, 5]⟩ := by
  obtain ⟨received, arrived, -, -, -, nodup, -⟩ :=
    check_message_ids 2 [0, 0, 0, 0] (by decide) rfl [5, 9, 7, 7]
  have computed :
      (initial [0, 0, 0, 0]).receiveAll 2 [5, 9, 7, 7] = .ok ⟨⟨[5, 7, 9, 0], 3⟩, [7, 9, 5]⟩ := by
    decide
  exact ⟨received, arrived, nodup, Except.ok.inj (arrived.symm.trans computed)⟩

/--
With `maxSize` one and the array full, a stored message is called very old, as
its half of the array is forgotten first.
-/
theorem stored_message_id_called_old : ∃ received after message,
      (initial [0, 0]).receiveAll 1 [1, 2] = .ok received ∧
        (1 : MessageId) ∈ received.saved.stored ∧
        checkMessageIdDuplicates 1 1 received.saved = .ok (after, .rejected 2 message) := by
  exact ⟨⟨⟨[1, 2], 2⟩, [2, 1]⟩, ⟨[2, 2], 1⟩, _, by decide, by decide, rfl⟩

end ReceivedMessages

end Autoproto
