import Autoproto.StoreDeserialization

namespace Autoproto

open List ByteEncoding LengthPrefixed InMemoryKeyValue

/-!
# Exporting and importing a session

A session is the contents of two stores.  It travels as one byte string: the
size of the first store in four bytes, the records of the first store and the
records of the second, which has no size of its own.
-/

/-- The two stores of a client. -/
structure TdDb (traits : TableTraits Bytes) where
  binlogPmc : InMemoryKeyValue traits
  configPmc : InMemoryKeyValue traits

namespace TdDb

variable {traits : TableTraits Bytes}

def fresh : TdDb traits :=
  ⟨InMemoryKeyValue.fresh, InMemoryKeyValue.fresh⟩

/-- The session as a byte string. -/
def exportSession (binlogRandom configRandom : UInt32) (db : TdDb traits) :
    Except Fault (TdDb traits × Bytes) := do
  let (binlogPmc, binlogData) ← db.binlogPmc.serializeAll binlogRandom
  let (configPmc, configData) ← db.configPmc.serializeAll configRandom
  return (⟨binlogPmc, configPmc⟩, leOfNat 4 binlogData.length ++ binlogData ++ configData)

/--
Replace both stores by those of a byte string. The sum that is compared with its
size is one of 32-bit numbers, the size of the second store is a difference of
64-bit numbers.
-/
def importSession (raw : Buffer) (db : TdDb traits) : Except Fault (TdDb traits × Bool) :=
  if raw.bytes.length < 4 then
    .ok (db, false)
  else do
    let binlogLen ← BufferSlice.readUint32 0 ⟨⟨0, raw.bytes.length⟩, raw⟩
    if (4 + binlogLen) % 2 ^ 32 > raw.bytes.length then
      return (db, false)
    else
      match ← db.binlogPmc.deserializeAll ⟨⟨4, binlogLen⟩, raw⟩ with
      | (binlogPmc, false) => return (⟨binlogPmc, db.configPmc⟩, false)
      | (binlogPmc, true) =>
        let configLen :=
          word (raw.bytes.length + 2 ^ 64 - 4 - binlogLen)
        let (configPmc, accepted) ← db.configPmc.deserializeAll ⟨⟨4 + binlogLen, configLen⟩, raw⟩
        return (⟨binlogPmc, configPmc⟩, accepted)

end TdDb

namespace Buffer

/-- The size that a session announces for its first store. -/
def binlogLen (raw : Buffer) : Nat :=
  fieldLength raw.bytes

/-- The bytes of the first store, as far as they are there. -/
def binlogBytes (raw : Buffer) : Bytes :=
  (raw.bytes.drop 4).take raw.binlogLen

/-- The bytes of the second store. -/
def configBytes (raw : Buffer) : Bytes :=
  raw.bytes.drop (4 + raw.binlogLen)

/--
A session without a size for the first store, or whose size plus four, as a
32-bit number, is too large.
-/
def HeaderRejected (raw : Buffer) : Prop :=
  raw.bytes.length < 4 ∨ raw.bytes.length < (4 + raw.binlogLen) % 2 ^ 32

instance (raw : Buffer) : Decidable raw.HeaderRejected :=
  inferInstanceAs (Decidable (_ ∨ _))

end Buffer

namespace TdDb

variable {traits : TableTraits Bytes} {raw : Buffer} {records configRecords : List Record}
  {rest configRest : Bytes}

theorem readUint32_header (enough : 4 ≤ raw.bytes.length) :
    BufferSlice.readUint32 0 ⟨⟨0, raw.bytes.length⟩, raw⟩ = .ok raw.binlogLen := by
  have whole : BufferSlice.remaining 0 ⟨⟨0, raw.bytes.length⟩, raw⟩ = raw.bytes := by
    simp [BufferSlice.remaining]
  rw [BufferSlice.readUint32_eq (Nat.zero_le _) enough, whole, if_pos enough]
  rfl

theorem importSession_rejected (rejected : raw.HeaderRejected) (db : TdDb traits) :
    db.importSession raw = .ok (db, false) := by
  rw [importSession]
  by_cases short : raw.bytes.length < 4
  · rw [if_pos short]
  · have tooLong : raw.bytes.length < (4 + raw.binlogLen) % 2 ^ 32 := rejected.resolve_left short
    rw [if_neg short, readUint32_header (Nat.le_of_not_lt short), ok_bind, if_pos tooLong]
    rfl

theorem deserializeAll_config (enough : 4 ≤ raw.bytes.length)
    (all : (encode records).length = raw.binlogLen) (splits : Splits raw.binlogBytes records rest)
    (configSplits : Splits raw.configBytes configRecords configRest)
    (store : InMemoryKeyValue traits) : store.deserializeAll
        ⟨⟨4 + raw.binlogLen, word (raw.bytes.length + 2 ^ 64 - 4 - raw.binlogLen)⟩, raw⟩ =
      storeRecords configRecords FlatHashMap.empty >>= fun config =>
        .ok (⟨config, store.seqNo⟩, decide (configRest = [])) := by
  have addressable := raw.addressable
  -- all bytes of the first store have been read, so they are there
  have there : 4 + raw.binlogLen ≤ raw.bytes.length := by
    have length := congrArg length splits.whole
    rw [Buffer.binlogBytes, length_take, length_drop, length_append] at length
    omega
  have configLength : raw.configBytes.length = raw.bytes.length - (4 + raw.binlogLen) := by
    rw [Buffer.configBytes, length_drop]
  have configLen :
      word (raw.bytes.length + 2 ^ 64 - 4 - raw.binlogLen) = raw.configBytes.length := by
    rw [word, configLength]
    omega
  have configWindow : BufferSlice.remaining 0
      ⟨⟨4 + raw.binlogLen, raw.configBytes.length⟩, raw⟩ = raw.configBytes := by
    simp [BufferSlice.remaining, Buffer.configBytes]
  have accepted : decide ((encode configRecords).length = raw.configBytes.length) =
        decide (configRest = []) := by
    rw [decide_eq_decide]
    have length := congrArg length configSplits.whole
    rw [length_append] at length
    rw [length, ← length_eq_zero_iff]
    omega
  rw [configLen, deserializeAll_eq (show raw.configBytes.length < 2 ^ 63 by omega) there
      (configWindow.symm ▸ configSplits)]
  simp only [if_pos (overruns_of_splits configSplits), accepted]

section

variable (notRejected : ¬ raw.HeaderRejected)
include notRejected

section

variable (splits : Splits raw.binlogBytes records rest)
include splits

theorem importSession_eq
    (configSplits : Splits raw.configBytes configRecords configRest) (db : TdDb traits) :
    db.importSession raw =
      storeRecords records FlatHashMap.empty >>= fun binlog =>
        if ¬ Overruns raw.binlogLen (encode records).length rest then
          .error .outOfBounds
        else if (encode records).length ≠ raw.binlogLen then
          .ok (⟨⟨binlog, db.binlogPmc.seqNo⟩, db.configPmc⟩, false)
        else
          storeRecords configRecords FlatHashMap.empty >>= fun config =>
            .ok (⟨⟨binlog, db.binlogPmc.seqNo⟩, ⟨config, db.configPmc.seqNo⟩⟩,
              decide (configRest = [])) := by
  obtain ⟨long, fits⟩ := not_or.mp notRejected
  have enough : 4 ≤ raw.bytes.length := Nat.le_of_not_lt long
  have addressable := raw.addressable
  have short : raw.binlogLen < 2 ^ 32 := fieldLength_lt raw.bytes
  have binlogWindow : BufferSlice.remaining 0 ⟨⟨4, raw.binlogLen⟩, raw⟩ = raw.binlogBytes := rfl
  rw [importSession, if_neg long, readUint32_header enough, ok_bind, if_neg fits,
    deserializeAll_eq (show raw.binlogLen < 2 ^ 63 by omega) enough (binlogWindow ▸ splits)]
  cases storeRecords records (FlatHashMap.empty : FlatHashMap traits Bytes) with
  | error fault => rfl
  | ok binlog =>
    simp only [ok_bind]
    by_cases overruns : Overruns raw.binlogLen (encode records).length rest
    · rw [if_pos overruns, if_neg (not_not.mpr overruns), ok_bind]
      by_cases all : (encode records).length = raw.binlogLen
      · rw [if_neg (not_not.mpr all), decide_eq_true all]
        simp only
        rw [deserializeAll_config enough all splits configSplits]
        cases storeRecords configRecords (FlatHashMap.empty : FlatHashMap traits Bytes) with
        | error | ok => rfl
      · rw [if_pos all, decide_eq_false all]
        rfl
    · rw [if_neg overruns, if_pos overruns, error_bind]

theorem importSession_binlog_refused
    (storable : Storable traits records)
    (overruns : Overruns raw.binlogLen (encode records).length rest)
    (partly : (encode records).length ≠ raw.binlogLen) (db : TdDb traits) : ∃ imported,
      db.importSession raw = .ok (imported, false) ∧
        imported.binlogPmc.contents = mapOfRecords records ∧ imported.configPmc = db.configPmc := by
  obtain ⟨configRecords, configRest, configSplits⟩ := exists_splits raw.configBytes
  obtain ⟨binlog, stored, contents⟩ := storeRecords_empty storable
  refine ⟨⟨⟨binlog, db.binlogPmc.seqNo⟩, db.configPmc⟩, ?_, contents, rfl⟩
  rw [importSession_eq notRejected splits configSplits, stored, ok_bind,
    if_neg (not_not.mpr overruns), if_pos partly]

theorem importSession_binlog_accepted
    (configSplits : Splits raw.configBytes configRecords configRest)
    (storable : Storable traits records) (configStorable : Storable traits configRecords)
    (all : (encode records).length = raw.binlogLen) (db : TdDb traits) : ∃ imported,
      db.importSession raw = .ok (imported, decide (configRest = [])) ∧
        imported.binlogPmc.contents = mapOfRecords records ∧
        imported.configPmc.contents = mapOfRecords configRecords := by
  obtain ⟨binlog, stored, contents⟩ := storeRecords_empty storable
  obtain ⟨config, configStored, configContents⟩ := storeRecords_empty configStorable
  have overruns : Overruns raw.binlogLen (encode records).length rest := Or.inl (by omega)
  refine ⟨⟨⟨binlog, db.binlogPmc.seqNo⟩, ⟨config, db.configPmc.seqNo⟩⟩,
    ?_, contents, configContents⟩
  rw [importSession_eq notRejected splits configSplits, stored, ok_bind,
    if_neg (not_not.mpr overruns), if_neg (not_not.mpr all),
    configStored, ok_bind]

theorem importSession_binlog_aborts
    (notStorable : ¬ Storable traits records) (db : TdDb traits) :
    db.importSession raw = .error .check := by
  obtain ⟨configRecords, configRest, configSplits⟩ := exists_splits raw.configBytes
  rw [importSession_eq notRejected splits configSplits,
    storeRecords_empty_aborts notStorable, error_bind]

theorem importSession_binlog_outOfBounds
    (storable : Storable traits records)
    (within : ¬ Overruns raw.binlogLen (encode records).length rest) (db : TdDb traits) :
    db.importSession raw = .error .outOfBounds := by
  obtain ⟨configRecords, configRest, configSplits⟩ := exists_splits raw.configBytes
  obtain ⟨binlog, stored, _⟩ := storeRecords_empty storable
  rw [importSession_eq notRejected splits configSplits, stored, ok_bind, if_pos within]

theorem importSession_config_aborts
    (configSplits : Splits raw.configBytes configRecords configRest)
    (storable : Storable traits records) (configNotStorable : ¬ Storable traits configRecords)
    (all : (encode records).length = raw.binlogLen) (db : TdDb traits) :
    db.importSession raw = .error .check := by
  obtain ⟨binlog, stored, _⟩ := storeRecords_empty storable
  have overruns : Overruns raw.binlogLen (encode records).length rest := Or.inl (by omega)
  rw [importSession_eq notRejected splits configSplits, stored, ok_bind,
    if_neg (not_not.mpr overruns), if_neg (not_not.mpr all),
    storeRecords_empty_aborts configNotStorable, error_bind]

end

end

theorem overruns_of_honest (honest : 4 + raw.binlogLen ≤ raw.bytes.length)
    (splits : Splits raw.binlogBytes records rest) :
    Overruns raw.binlogLen (encode records).length rest := by
  have length : raw.binlogBytes.length = raw.binlogLen := by
    rw [Buffer.binlogBytes, length_take, length_drop]
    omega
  rw [← length]
  exact overruns_of_splits splits

/--
The sessions whose import returns: those with a bad header, and those whose
complete records can be stored, where an announced size beyond the byte string,
which is at least `2 ^ 32 - 4`, is exceeded by the first incomplete record in
turn.
-/
def Importable (traits : TableTraits Bytes) (raw : Buffer) : Prop :=
  raw.HeaderRejected ∨
    ∃ records rest, Splits raw.binlogBytes records rest ∧
        Storable traits records ∧
        (raw.bytes.length < 4 + raw.binlogLen →
          Overruns raw.binlogLen (encode records).length rest) ∧
        ((encode records).length = raw.binlogLen → ∃ configRecords configRest,
            Splits raw.configBytes configRecords configRest ∧ Storable traits configRecords)

/--
An import returns, without a read outside the byte string and without an
abort, exactly for the importable sessions.
-/
theorem importSession_returns_iff (raw : Buffer) (db : TdDb traits) :
    (∃ imported accepted, db.importSession raw = .ok (imported, accepted)) ↔
      Importable traits raw := by
  constructor
  · intro returns
    obtain ⟨imported, accepted, returned⟩ := returns
    by_cases rejected : raw.HeaderRejected
    · exact Or.inl rejected
    · obtain ⟨records, rest, splits⟩ := exists_splits raw.binlogBytes
      obtain ⟨configRecords, configRest, configSplits⟩ := exists_splits raw.configBytes
      have storable : Storable traits records := by
        by_contra notStorable
        rw [importSession_binlog_aborts rejected splits notStorable] at returned
        cases returned
      have overruns : Overruns raw.binlogLen (encode records).length rest := by
        by_contra within
        rw [importSession_binlog_outOfBounds rejected splits storable within] at returned
        cases returned
      refine Or.inr ⟨records, rest, splits, storable, fun _ => overruns, fun all => ?_⟩
      refine ⟨configRecords, configRest, configSplits, ?_⟩
      by_contra configNotStorable
      rw [importSession_config_aborts rejected splits configSplits
        storable configNotStorable all] at returned
      cases returned
  · intro importable
    by_cases rejected : raw.HeaderRejected
    · exact ⟨db, false, importSession_rejected rejected db⟩
    · obtain ⟨records, rest, splits, storable, overlong, config⟩ := importable.resolve_left rejected
      by_cases all : (encode records).length = raw.binlogLen
      · obtain ⟨configRecords, configRest, configSplits, configStorable⟩ := config all
        obtain ⟨imported, returned, _⟩ :=
          importSession_binlog_accepted rejected splits configSplits storable configStorable all db
        exact ⟨imported, _, returned⟩
      · have overruns : Overruns raw.binlogLen (encode records).length rest := by
          by_cases honest : 4 + raw.binlogLen ≤ raw.bytes.length
          · exact overruns_of_honest honest splits
          · exact overlong (Nat.lt_of_not_le honest)
        obtain ⟨imported, returned, _⟩ :=
          importSession_binlog_refused rejected splits storable overruns all db
        exact ⟨imported, false, returned⟩

/-- A session that announces `2 ^ 32 - 1` bytes and has none. -/
def overlongSession : Buffer :=
  ⟨[255, 255, 255, 255], by decide⟩

def emptyKeySession : Buffer :=
  ⟨[8, 0, 0, 0, 0, 0, 0, 0, 0, 0, 0, 0], by decide⟩

/--
The 32-bit sum of the overlong session is three, so a length is read behind the
last byte. The empty key aborts in the hash table.
-/
theorem importSession_faults :
    (TdDb.fresh : TdDb collidingTraits).importSession overlongSession = .error .outOfBounds ∧
      (TdDb.fresh : TdDb collidingTraits).importSession emptyKeySession = .error .check :=
  ⟨rfl, rfl⟩

/--
The stores survive a refused session: it has a bad header, or it is refused in
its first store after records that this store already has, or in its second one
when both stores already hold what it has.
-/
def Harmless (raw : Buffer) (db : TdDb traits) : Prop :=
  raw.HeaderRejected ∨
    ∀ records rest configRecords configRest, Splits raw.binlogBytes records rest →
      Splits raw.configBytes configRecords configRest →
      Storable traits records →
      (Overruns raw.binlogLen (encode records).length rest →
        (encode records).length ≠ raw.binlogLen →
        db.binlogPmc.contents = mapOfRecords records) ∧
      ((encode records).length = raw.binlogLen → Storable traits configRecords → configRest ≠ [] →
        db.binlogPmc.contents = mapOfRecords records ∧
          db.configPmc.contents = mapOfRecords configRecords)

/-- A refused import leaves both stores alone exactly for harmless sessions. -/
theorem importSession_refused_unchanged_iff (raw : Buffer) (db : TdDb traits) :
    (∀ imported, db.importSession raw = .ok (imported, false) →
        imported.binlogPmc.contents = db.binlogPmc.contents ∧
          imported.configPmc.contents = db.configPmc.contents) ↔ Harmless raw db := by
  constructor
  · intro unchanged
    by_cases rejected : raw.HeaderRejected
    · exact Or.inl rejected
    · right
      intro records rest configRecords configRest splits configSplits storable
      constructor
      · intro overruns partly
        obtain ⟨imported, returned, contents, _⟩ :=
          importSession_binlog_refused rejected splits storable overruns partly db
        rw [← contents]
        exact (unchanged imported returned).1.symm
      · intro all configStorable leftOver
        obtain ⟨imported, returned, contents, configContents⟩ :=
          importSession_binlog_accepted rejected splits configSplits storable configStorable all db
        rw [decide_eq_false leftOver] at returned
        rw [← contents, ← configContents]
        exact ⟨(unchanged imported returned).1.symm, (unchanged imported returned).2.symm⟩
  · intro harmless imported returned
    by_cases rejected : raw.HeaderRejected
    · rw [importSession_rejected rejected] at returned
      cases returned
      exact ⟨rfl, rfl⟩
    · obtain ⟨records, rest, splits⟩ := exists_splits raw.binlogBytes
      obtain ⟨configRecords, configRest, configSplits⟩ := exists_splits raw.configBytes
      have asked :=
        harmless.resolve_left rejected records rest configRecords configRest splits configSplits
      by_cases storable : Storable traits records
      · by_cases all : (encode records).length = raw.binlogLen
        · by_cases configStorable : Storable traits configRecords
          · obtain ⟨expected, expectedReturned, contents, configContents⟩ :=
              importSession_binlog_accepted rejected splits configSplits
                storable configStorable all db
            rw [expectedReturned] at returned
            injection returned with same
            injection same with sameImported notEmpty
            have leftOver : configRest ≠ [] := of_decide_eq_false notEmpty
            obtain ⟨sameBinlog, sameConfig⟩ := (asked storable).2 all configStorable leftOver
            rw [← sameImported, contents, configContents, sameBinlog, sameConfig]
            exact ⟨rfl, rfl⟩
          · rw [importSession_config_aborts rejected splits configSplits
              storable configStorable all] at returned
            cases returned
        · by_cases overruns : Overruns raw.binlogLen (encode records).length rest
          · obtain ⟨expected, expectedReturned, contents, sameConfig⟩ :=
              importSession_binlog_refused rejected splits storable overruns all db
            rw [expectedReturned] at returned
            cases returned
            rw [contents, sameConfig, (asked storable).1 overruns all]
            exact ⟨rfl, rfl⟩
          · rw [importSession_binlog_outOfBounds rejected splits storable overruns] at returned
            cases returned
      · rw [importSession_binlog_aborts rejected splits storable] at returned
        cases returned

/-- A session with the record `A ↦ B` and one more byte. -/
def truncatedSession : Buffer :=
  ⟨[10, 0, 0, 0, 1, 0, 0, 0, 65, 1, 0, 0, 0, 66, 5], by decide⟩

/-- A refused session leaves its first record in a store that was empty. -/
theorem importSession_refused_changes : ∃ imported : TdDb collidingTraits,
      TdDb.fresh.importSession truncatedSession = .ok (imported, false) ∧
        imported.binlogPmc.contents [65] = some [66] ∧
        (TdDb.fresh : TdDb collidingTraits).binlogPmc.contents [65] = none := by
  have storable : Storable collidingTraits [([65], [66])] :=
    ⟨by decide, FlatHashTable.maxNodeCount_pos collidingTraits⟩
  have configStorable : Storable collidingTraits [] := ⟨by simp, by simp [recordKeys]⟩
  have splits : Splits truncatedSession.binlogBytes [([65], [66])] [] :=
    ⟨by decide, by decide, by decide⟩
  have configSplits : Splits truncatedSession.configBytes [] [5] :=
    ⟨by decide, by decide, by decide⟩
  obtain ⟨imported, returned, contents, _⟩ :=
    importSession_binlog_accepted (by decide) splits configSplits
      storable configStorable rfl TdDb.fresh
  refine ⟨imported, returned, ?_, rfl⟩
  rw [contents]
  rfl

/-- The byte string of two sequences of records. -/
def sessionBytes (records configRecords : List Record) : Bytes :=
  leOfNat 4 (encode records).length ++ encode records ++ encode configRecords

theorem sections_sessionBytes (rawBytes : raw.bytes = sessionBytes records configRecords)
    (small : (encode records).length < 2 ^ 32) : raw.binlogLen = (encode records).length ∧
      raw.binlogBytes = encode records ∧ raw.configBytes = encode configRecords := by
  have asField : raw.bytes = encodeField (encode records) ++ encode configRecords := by
    rw [rawBytes, sessionBytes, encodeField]
  have length : raw.binlogLen = (encode records).length := by
    rw [Buffer.binlogLen, asField]
    exact fieldLength_encodeField small _
  refine ⟨length, ?_, ?_⟩
  · rw [Buffer.binlogBytes, length, asField, encodeField,
      append_assoc, drop_left' (length_leOfNat ..)]
    exact take_left' rfl
  · rw [Buffer.configBytes, length, asField]
    exact drop_left' (length_encodeField _)

theorem exportSession_spec (binlogRandom configRandom : UInt32) (db : TdDb traits) :
    ∃ exported records configRecords, db.exportSession binlogRandom configRandom =
          .ok (exported, sessionBytes records configRecords) ∧
        FlatHashMap.Enumerates records db.binlogPmc.contents ∧
        FlatHashMap.Enumerates configRecords db.configPmc.contents ∧
        (encode records).length = db.binlogPmc.serializedSize ∧
        (encode configRecords).length = db.configPmc.serializedSize := by
  obtain ⟨binlog, records, binlogDone, _, enumerates, size⟩ :=
    db.binlogPmc.serializeAll_spec binlogRandom
  obtain ⟨config, configRecords, configDone, _, configEnumerates, configSize⟩ :=
    db.configPmc.serializeAll_spec configRandom
  refine ⟨⟨binlog, config⟩, records, configRecords, ?_, enumerates,
    configEnumerates, size, configSize⟩
  rw [exportSession, binlogDone, ok_bind]
  simp only
  rw [configDone, ok_bind]
  rfl

theorem importSession_of_exported {source exported : TdDb traits}
    {binlogRandom configRandom : UInt32}
    (exportDone : source.exportSession binlogRandom configRandom = .ok (exported, raw.bytes))
    (binlogSmall : source.binlogPmc.serializedSize < 2 ^ 32)
    (configSmall : source.configPmc.serializedSize < 2 ^ 32) (target : TdDb traits) : ∃ imported,
      target.importSession raw = .ok (imported, true) ∧
        imported.binlogPmc.contents = source.binlogPmc.contents ∧
        imported.configPmc.contents = source.configPmc.contents := by
  obtain ⟨_, records, configRecords, specDone, enumerates, configEnumerates, size, configSize⟩ :=
    source.exportSession_spec binlogRandom configRandom
  have rawBytes : raw.bytes = sessionBytes records configRecords :=
    congrArg Prod.snd (Except.ok.inj (exportDone.symm.trans specDone))
  obtain ⟨binlogLen, binlogBytes, configBytes⟩ := sections_sessionBytes rawBytes (by omega)
  have notRejected : ¬ raw.HeaderRejected := by
    have reduced := Nat.mod_le (4 + raw.binlogLen) (2 ^ 32)
    rw [Buffer.HeaderRejected, rawBytes, sessionBytes, length_append, length_append, length_leOfNat]
    omega
  have splits : Splits raw.binlogBytes records [] := by
    rw [binlogBytes]
    exact splits_encode (representable_of_length (by omega))
  have configSplits : Splits raw.configBytes configRecords [] := by
    rw [configBytes]
    exact splits_encode (representable_of_length (by omega))
  obtain ⟨imported, returned, contents, configContents⟩ :=
    importSession_binlog_accepted notRejected splits configSplits
      (storable_of_enumerates enumerates)
      (storable_of_enumerates configEnumerates) binlogLen.symm target
  refine ⟨imported, returned, ?_, ?_⟩
  · rw [contents, mapOfRecords_of_enumerates enumerates]
  · rw [configContents, mapOfRecords_of_enumerates configEnumerates]

theorem exportSession_addressable (source : TdDb traits) (binlogRandom configRandom : UInt32)
    (binlogSmall : source.binlogPmc.serializedSize < 2 ^ 32)
    (configSmall : source.configPmc.serializedSize < 2 ^ 32) : ∃ exported raw,
      source.exportSession binlogRandom configRandom = .ok (exported, Buffer.bytes raw) := by
  obtain ⟨exported, records, configRecords, exportDone, _, _, size, configSize⟩ :=
    source.exportSession_spec binlogRandom configRandom
  have addressable : (sessionBytes records configRecords).length < 2 ^ 63 := by
    rw [sessionBytes, length_append, length_append, length_leOfNat]
    omega
  exact ⟨exported, ⟨_, addressable⟩, exportDone⟩

/--
An exported session is accepted by any client, and its stores are then those
that were exported, whatever the hash function and wherever the iterations
started.
-/
theorem importSession_exportSession
    (source target : TdDb traits)
    (binlogRandom configRandom : UInt32)
    (binlogSmall : source.binlogPmc.serializedSize < 2 ^ 32)
    (configSmall : source.configPmc.serializedSize < 2 ^ 32) :
    ∃ exported raw imported,
      source.exportSession binlogRandom configRandom = .ok (exported, Buffer.bytes raw) ∧
        target.importSession raw = .ok (imported, true) ∧
        imported.binlogPmc.contents = source.binlogPmc.contents ∧
        imported.configPmc.contents = source.configPmc.contents := by
  obtain ⟨exported, raw, exportDone⟩ :=
    source.exportSession_addressable binlogRandom configRandom binlogSmall configSmall
  obtain ⟨imported, returned, contents, configContents⟩ :=
    importSession_of_exported exportDone binlogSmall configSmall target
  exact ⟨exported, raw, imported, exportDone, returned, contents, configContents⟩

/-- Two stores with several pairs, whose keys collide, moved to another client. -/
theorem importSession_exportSession_pairs :
    ∃ (source exported : TdDb collidingTraits) (raw : Buffer) (imported : TdDb collidingTraits),
      source.binlogPmc.serializedSize < 2 ^ 32 ∧ source.configPmc.serializedSize < 2 ^ 32 ∧
        source.exportSession 3 7 = .ok (exported, raw.bytes) ∧
        TdDb.fresh.importSession raw = .ok (imported, true) ∧
        imported.binlogPmc.contents = mapOfRecords [([65], [66]), ([67], [68, 69]), ([70], [])] ∧
        imported.configPmc.contents = mapOfRecords [([65], [1]), ([72, 73], [2, 3])] := by
  have tested : (storeRecords [([65], [66]), ([67], [68, 69]), ([70], [])] FlatHashMap.empty :
        Except Fault (FlatHashMap collidingTraits Bytes)).toOption.any
          (fun binlog => (⟨binlog, 3⟩ : InMemoryKeyValue _).serializedSize < 2 ^ 32) := by
    decide +kernel
  have configTested : (storeRecords [([65], [1]), ([72, 73], [2, 3])] FlatHashMap.empty :
        Except Fault (FlatHashMap collidingTraits Bytes)).toOption.any
          (fun config => (⟨config, 2⟩ : InMemoryKeyValue _).serializedSize < 2 ^ 32) := by
    decide +kernel
  obtain ⟨binlog, stored, small⟩ := exists_of_any tested
  obtain ⟨config, configStored, configSmall⟩ := exists_of_any configTested
  obtain ⟨exported, raw, imported, exportDone, importDone, sameBinlog, sameConfig⟩ :=
    importSession_exportSession ⟨⟨binlog, 3⟩, ⟨config, 2⟩⟩ TdDb.fresh 3 7
      (of_decide_eq_true small) (of_decide_eq_true configSmall)
  exact ⟨_, exported, raw, imported, of_decide_eq_true small, of_decide_eq_true configSmall,
    exportDone, importDone, sameBinlog.trans (contents_of_stored stored),
    sameConfig.trans (contents_of_stored configStored)⟩

end TdDb

end Autoproto
