import Autoproto.MessageIdDuplicates
import Mathlib.Data.List.Pairwise

namespace Autoproto.Mtproto

/-!
# The numbers of messages

`AuthData` gives every message an identifier, made from the time of the server,
and a sequence number, which counts the messages related to content. The clock
may jump and the random bits are free: what `next_message_id` finds is an
arbitrary sequence.
-/

/-- What a call of `next_message_id` finds: the time in units of an identifier, and random bits. -/
structure Draw where
  time : MessageId
  random : Fin (2 ^ 32)

/--
The part of `AuthData` that numbers messages. The identifiers issued and whether
a counter has overflowed are not kept by the program.
-/
structure AuthData where
  lastMessageId : MessageId := 0
  seqNo : UInt32 := 0
  draws : Nat → Draw
  issued : List MessageId := []
  overflowed : Bool := false

structure Stamp where
  messageId : MessageId
  seqNo : UInt32
  isContentRelated : Bool
  deriving DecidableEq

/-- The issued identifiers, and whether they overflowed. -/
structure IssuedIds where
  lastMessageId : MessageId
  messageIds : List MessageId
  overflowed : Bool

namespace IssuedIds

/-- Some identifiers may have been taken since then. -/
structure Later (before after : IssuedIds) : Prop where
  messageIds : before.messageIds <:+ after.messageIds
  overflowed : after.overflowed = false → before.overflowed = false
  lastMessageId : after.overflowed = false → before.lastMessageId ≤ after.lastMessageId

/-- One identifier has been taken. -/
structure Takes (before : IssuedIds) (messageId : MessageId) (after : IssuedIds) : Prop where
  lastMessageId : after.lastMessageId = messageId
  messageIds : after.messageIds = messageId :: before.messageIds
  overflowed : after.overflowed = false → before.overflowed = false
  later : after.overflowed = false → before.lastMessageId < messageId

variable {before middle after : IssuedIds} {messageId : MessageId}

theorem Later.refl (before : IssuedIds) : before.Later before :=
  ⟨List.suffix_refl _, id, fun _ => le_refl _⟩

theorem Later.trans (first : before.Later middle) (second : middle.Later after) :
    before.Later after := by
  constructor
  · exact first.messageIds.trans second.messageIds
  · intro fits
    exact first.overflowed (second.overflowed fits)
  · intro fits
    exact (first.lastMessageId (second.overflowed fits)).trans (second.lastMessageId fits)

theorem Takes.isLater (takes : before.Takes messageId after) : before.Later after := by
  constructor
  · rw [takes.messageIds]
    exact List.suffix_cons _ _
  · exact takes.overflowed
  · intro fits
    rw [takes.lastMessageId]
    exact (takes.later fits).le

end IssuedIds

open IssuedIds (Later Takes)

namespace AuthData

def issuedIds (authData : AuthData) : IssuedIds :=
  ⟨authData.lastMessageId, authData.issued, authData.overflowed⟩

/-- An identifier is issued. -/
def issue (messageId : MessageId) (overflows : Bool) (authData : AuthData) : MessageId × AuthData :=
  (messageId, { authData with
      lastMessageId := messageId
      issued := messageId :: authData.issued
      overflowed := authData.overflowed || overflows })

def nextMessageId (authData : AuthData) : MessageId × AuthData :=
  let draw := authData.draws authData.issued.length
  let time := draw.time.val ^^^ draw.random.val % 2 ^ 22
  let result : MessageId := Fin.ofNat (2 ^ 64) (time / 4 * 4)
  if result ≤ authData.lastMessageId then
    let next :=
      authData.lastMessageId.val + 8 * (draw.random.val / 2 ^ 22 + 1)
    authData.issue (Fin.ofNat (2 ^ 64) next) (decide (2 ^ 64 ≤ next))
  else
    authData.issue result false

def nextSeqNo (isContentRelated : Bool) (authData : AuthData) : UInt32 × AuthData :=
  if isContentRelated then
    (authData.seqNo ||| 1, { authData with
        seqNo := authData.seqNo + 2
        overflowed := authData.overflowed || decide (2 ^ 31 ≤ authData.seqNo.toNat + 2) })
  else
    (authData.seqNo, authData)

/-- A message takes an identifier, and then a sequence number. -/
def stamp (isContentRelated : Bool) (authData : AuthData) : Stamp × AuthData :=
  let (messageId, authData) := authData.nextMessageId
  let (seqNo, authData) := authData.nextSeqNo isContentRelated
  (⟨messageId, seqNo, isContentRelated⟩, authData)

/-! ## Order -/

structure Issues (before : AuthData) (messageId : MessageId) (after : AuthData) : Prop where
  lastMessageId : after.lastMessageId = messageId
  issued : after.issued = messageId :: before.issued
  seqNo : after.seqNo = before.seqNo
  overflowed : after.overflowed = false → before.overflowed = false
  later : after.overflowed = false → before.lastMessageId < messageId
  multiple : 4 ∣ before.lastMessageId.val → 4 ∣ messageId.val

theorem nextMessageId_issues (authData : AuthData) :
    Issues authData authData.nextMessageId.1 authData.nextMessageId.2 := by
  rw [nextMessageId]
  split
  · constructor
    · rfl
    · rfl
    · rfl
    · intro fits
      exact (Bool.or_eq_false_iff.mp fits).1
    · intro fits
      have fits := (Bool.or_eq_false_iff.mp fits).2
      rw [decide_eq_false_iff_not, not_le] at fits
      rw [issue, Fin.lt_def, Fin.val_ofNat, Nat.mod_eq_of_lt fits]
      omega
    · intro multiple
      rw [issue, Fin.val_ofNat]
      omega
  · rename_i later
    constructor
    · rfl
    · rfl
    · rfl
    · intro fits
      exact (Bool.or_eq_false_iff.mp fits).1
    · intro _
      exact not_le.mp later
    · intro _
      rw [issue, Fin.val_ofNat]
      omega

theorem takes_nextMessageId (authData : AuthData) :
    authData.issuedIds.Takes authData.nextMessageId.1 authData.nextMessageId.2.issuedIds := by
  have issues := authData.nextMessageId_issues
  exact ⟨issues.lastMessageId, issues.issued, issues.overflowed, issues.later⟩

theorem later_nextSeqNo (isContentRelated : Bool) (authData : AuthData) :
    authData.issuedIds.Later (authData.nextSeqNo isContentRelated).2.issuedIds := by
  cases isContentRelated with
  | false => exact Later.refl _
  | true =>
    exact ⟨List.suffix_refl _, fun fits => (Bool.or_eq_false_iff.mp fits).1, fun _ => le_refl _⟩

theorem later_stamp (isContentRelated : Bool) (authData : AuthData) :
    authData.issuedIds.Later (authData.stamp isContentRelated).2.issuedIds :=
  authData.takes_nextMessageId.isLater.trans (later_nextSeqNo isContentRelated _)

/-- How numbers are ordered, the newest message first. -/
structure Numbered (authData : AuthData) (stamps : List Stamp) : Prop where
  multiple : 4 ∣ authData.lastMessageId.val
  issued : ∀ messageId ∈ authData.issued, messageId ≤ authData.lastMessageId ∧ 4 ∣ messageId.val
  increasing : authData.issued.Pairwise (fun newer older => older < newer)
  even : authData.seqNo.toNat % 2 = 0
  small : authData.seqNo.toNat < 2 ^ 31
  before : ∀ stamp ∈ stamps, stamp.messageId ≤ authData.lastMessageId ∧
        stamp.seqNo.toNat + stamp.isContentRelated.toNat ≤ authData.seqNo.toNat
  parity : ∀ stamp ∈ stamps, stamp.seqNo.toNat % 2 = stamp.isContentRelated.toNat
  ordered :
    stamps.Pairwise (fun newer older => older.messageId < newer.messageId ∧
        older.seqNo.toNat + older.isContentRelated.toNat ≤ newer.seqNo.toNat)

theorem numbered_new (draws : Nat → Draw) : Numbered { draws := draws } [] := by
  constructor
  · exact dvd_zero 4
  · intro messageId issued
    cases issued
  · exact List.Pairwise.nil
  · rfl
  · exact Nat.two_pow_pos 31
  · intro stamp known
    cases known
  · intro stamp known
    cases known
  · exact List.Pairwise.nil

variable {stamps : List Stamp}

/-- A new identifier keeps the order. -/
theorem Numbered.issues {before after : AuthData} {messageId : MessageId}
    (numbered : before.Numbered stamps) (issues : Issues before messageId after)
    (fits : after.overflowed = false) : after.Numbered stamps := by
  have later := issues.later fits
  constructor
  · rw [issues.lastMessageId]
    exact issues.multiple numbered.multiple
  · intro known isIssued
    rw [issues.issued] at isIssued
    rw [issues.lastMessageId]
    cases isIssued with
    | head => exact ⟨le_refl _, issues.multiple numbered.multiple⟩
    | tail _ old =>
      obtain ⟨bounded, multiple⟩ := numbered.issued known old
      exact ⟨bounded.trans later.le, multiple⟩
  · rw [issues.issued]
    refine List.Pairwise.cons ?_ numbered.increasing
    intro known isIssued
    exact (numbered.issued known isIssued).1.trans_lt later
  · rw [issues.seqNo]
    exact numbered.even
  · rw [issues.seqNo]
    exact numbered.small
  · intro stamp known
    obtain ⟨bounded, counted⟩ := numbered.before stamp known
    rw [issues.lastMessageId, issues.seqNo]
    exact ⟨bounded.trans later.le, counted⟩
  · exact numbered.parity
  · exact numbered.ordered

theorem toNat_or_one {seqNo : UInt32} (even : seqNo.toNat % 2 = 0) :
    (seqNo ||| 1).toNat = seqNo.toNat + 1 := by
  have one : 1 < 2 ^ 1 := by decide
  have split : seqNo.toNat = 2 ^ 1 * (seqNo.toNat / 2) := by omega
  rw [UInt32.toNat_or, UInt32.toNat_one, split, ← Nat.two_pow_add_eq_or_of_lt one]

theorem toNat_add_two {seqNo : UInt32} (small : seqNo.toNat + 2 < 2 ^ 31) :
    (seqNo + 2).toNat = seqNo.toNat + 2 := by
  have two : (2 : UInt32).toNat = 2 := rfl
  rw [UInt32.toNat_add, two]
  exact Nat.mod_eq_of_lt (by omega)

variable {authData : AuthData} {isContentRelated : Bool}

theorem toNat_seqNo_of_fits (fits : (authData.nextSeqNo true).2.overflowed = false) :
    authData.seqNo.toNat + 2 < 2 ^ 31 ∧ (authData.seqNo + 2).toNat = authData.seqNo.toNat + 2 := by
  have small := (Bool.or_eq_false_iff.mp fits).2
  rw [decide_eq_false_iff_not, not_le] at small
  exact ⟨small, toNat_add_two small⟩

section

variable (numbered : authData.Numbered stamps)
include numbered

theorem Numbered.skip (fits : (authData.nextSeqNo isContentRelated).2.overflowed = false) :
    (authData.nextSeqNo isContentRelated).2.Numbered stamps := by
  cases isContentRelated with
  | false => exact numbered
  | true =>
    have even := numbered.even
    obtain ⟨small, next⟩ := toNat_seqNo_of_fits fits
    constructor
    · exact numbered.multiple
    · exact numbered.issued
    · exact numbered.increasing
    · change (authData.seqNo + 2).toNat % 2 = 0
      omega
    · change (authData.seqNo + 2).toNat < 2 ^ 31
      omega
    · intro stamp known
      obtain ⟨bounded, counted⟩ := numbered.before stamp known
      refine ⟨bounded, ?_⟩
      change _ ≤ (authData.seqNo + 2).toNat
      omega
    · exact numbered.parity
    · exact numbered.ordered

theorem Numbered.add {stamp : Stamp} (bounded : stamp.messageId ≤ authData.lastMessageId ∧
        stamp.seqNo.toNat + stamp.isContentRelated.toNat ≤ authData.seqNo.toNat)
    (parity : stamp.seqNo.toNat % 2 = stamp.isContentRelated.toNat)
    (larger : ∀ older ∈ stamps, older.messageId < stamp.messageId ∧
          older.seqNo.toNat + older.isContentRelated.toNat ≤ stamp.seqNo.toNat) :
    authData.Numbered (stamp :: stamps) := by
  constructor
  · exact numbered.multiple
  · exact numbered.issued
  · exact numbered.increasing
  · exact numbered.even
  · exact numbered.small
  · rw [List.forall_mem_cons]
    exact ⟨bounded, numbered.before⟩
  · rw [List.forall_mem_cons]
    exact ⟨parity, numbered.parity⟩
  · exact List.Pairwise.cons larger numbered.ordered

theorem Numbered.nextSeqNo (unused : ∀ stamp ∈ stamps, stamp.messageId < authData.lastMessageId)
    (fits : (authData.nextSeqNo isContentRelated).2.overflowed = false) :
    (authData.nextSeqNo isContentRelated).2.Numbered
      (⟨authData.lastMessageId, (authData.nextSeqNo isContentRelated).1,
        isContentRelated⟩ :: stamps) := by
  have skipped := numbered.skip fits
  cases isContentRelated with
  | false =>
    refine skipped.add ⟨le_refl _, le_refl _⟩ numbered.even ?_
    intro older known
    exact ⟨unused older known, (numbered.before older known).2⟩
  | true =>
    have odd := toNat_or_one numbered.even
    have even := numbered.even
    obtain ⟨small, next⟩ := toNat_seqNo_of_fits fits
    refine skipped.add ⟨le_refl _, ?_⟩ ?_ ?_
    · change (authData.seqNo ||| 1).toNat + 1 ≤ (authData.seqNo + 2).toNat
      omega
    · change (authData.seqNo ||| 1).toNat % 2 = 1
      omega
    · intro older known
      refine ⟨unused older known, ?_⟩
      have counted := (numbered.before older known).2
      change _ ≤ (authData.seqNo ||| 1).toNat
      omega

end

theorem Numbered.stamp (numbered : authData.Numbered stamps)
    (fits : (authData.stamp isContentRelated).2.overflowed = false) :
    (authData.stamp isContentRelated).2.Numbered
      ((authData.stamp isContentRelated).1 :: stamps) := by
  have issues := authData.nextMessageId_issues
  have issuedFits := (later_nextSeqNo isContentRelated _).overflowed fits
  have stamped := (numbered.issues issues issuedFits).nextSeqNo (fun stamp known => by
        rw [issues.lastMessageId]
        exact (numbered.before stamp known).1.trans_lt (issues.later issuedFits))
      fits
  rw [issues.lastMessageId] at stamped
  exact stamped

theorem Numbered.seqNo_le (numbered : authData.Numbered stamps) {first second : Stamp}
    (firstKnown : first ∈ stamps) (secondKnown : second ∈ stamps)
    (earlier : first.messageId < second.messageId) :
    first.seqNo.toNat + first.isContentRelated.toNat ≤ second.seqNo.toNat := by
  have backwards : stamps.Pairwise (fun first second => first.messageId < second.messageId →
          first.seqNo.toNat + first.isContentRelated.toNat ≤ second.seqNo.toNat) :=
    numbered.ordered.imp fun ordered reversed => absurd reversed ordered.1.not_gt
  exact backwards.forall_of_forall_of_flip (fun _ _ same => absurd same (lt_irrefl _))
      (numbered.ordered.imp fun ordered _ => ordered.2)
      firstKnown secondKnown earlier

end AuthData

end Autoproto.Mtproto
