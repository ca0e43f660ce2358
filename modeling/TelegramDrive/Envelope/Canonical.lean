import TelegramDrive.Envelope.Words

namespace TelegramDrive
namespace Envelope

open Crypto ArrayAccess

/-!
# What a header is read from

A header is read from exactly one text of its length: its fields, one behind the other.
So the reader is described by the writer.  It returns a header when the fields of that
header stand at the beginning of the bytes and obey the policy; what stands behind them is
not looked at, and no access is out of bounds.
-/

/-! ## The core -/

/-- The policy of a core. -/
structure CoreHeader.Valid (core : CoreHeader) : Prop where
  version : core.formatVersion = Envelope.formatVersion
  suite : core.cipherSuite = cipherSuiteXchacha20Poly1305
  within : coreHeaderSize ≤ core.headerLength.toNat ∧ core.headerLength.toNat ≤ maxHeaderLength
  chunk : minChunkSize ≤ core.chunkSize ∧ core.chunkSize ≤ maxChunkSize
  slots : ¬ (core.keySlotTableLength = 0 ∨ core.keySlotTableLength.toNat % keySlotSize ≠ 0 ∨
    maxKeySlots * keySlotSize < core.keySlotTableLength.toNat)
  metadata : ¬ (core.encryptedMetadataLength ≠ 0 ∧ (core.encryptedMetadataLength.toNat < aeadTagLength ∨
    maxMetadataLength + aeadTagLength < core.encryptedMetadataLength.toNat))
  sum : coreHeaderSize + core.keySlotTableLength.toNat + core.encryptedMetadataLength.toNat =
    core.headerLength.toNat

/-- The core that stands at the beginning of the bytes, its magic apart. -/
def coreAt (data : Bytes) (long : coreHeaderSize ≤ data.length) : CoreHeader where
  formatVersion := UInt16.ofNat (fromLeBytes (part data 6 2))
  fileUuid := ⟨part data 8 16, part_length (Nat.le_trans (by decide) long)⟩
  cipherSuite := UInt16.ofNat (fromLeBytes (part data 24 2))
  headerLength := UInt32.ofNat (fromLeBytes (part data 26 4))
  chunkSize := UInt32.ofNat (fromLeBytes (part data 30 4))
  keySlotTableLength := UInt32.ofNat (fromLeBytes (part data 34 4))
  encryptedMetadataLength := UInt32.ofNat (fromLeBytes (part data 38 4))
  totalPlaintextLength := UInt64.ofNat (fromLeBytes (part data 42 8))
  noncePrefix := ⟨part data 50 16, part_length (Nat.le_trans (by decide) long)⟩
  headerAuthenticator := ⟨part data 66 32, part_length (Nat.le_trans (by decide) long)⟩

theorem validateChunkSize_ok {size found : UInt32} :
    validateChunkSize size = .ok found ↔ (minChunkSize ≤ size ∧ size ≤ maxChunkSize) ∧ size = found := by
  unfold validateChunkSize
  split
  next holds => exact ⟨fun done => ⟨holds, Except.ok.inj done⟩, fun both => congrArg Except.ok both.2⟩
  next fails =>
    constructor
    · intro done
      cases done
    · intro both
      exact (fails both.1).elim

theorem checkedSum (first second : UInt32) :
    ((checkedAdd coreHeaderSize first.toNat).bind fun value => checkedAdd value second.toNat) =
      some (coreHeaderSize + first.toNat + second.toNat) := by
  have firstBound := first.toNat_lt
  have secondBound := second.toNat_lt
  have size : coreHeaderSize = 98 := rfl
  unfold checkedAdd
  rw [if_pos (by omega), Option.bind_some, if_pos (by omega)]

variable {data : Bytes}

/-- With the fixed part of a header there, every access of the core is within the bytes. -/
theorem CoreHeader.parse_long (long : coreHeaderSize ≤ data.length) :
    CoreHeader.parse data = do
      Checked.require (part data 0 6 ≠ experimentalTdenc1Magic) (unsupportedVersion 1)
      Checked.require (part data 0 6 = magic) (headerInvalid "Invalid envelope magic")
      Checked.require ((coreAt data long).formatVersion = Envelope.formatVersion)
        (unsupportedVersion (coreAt data long).formatVersion)
      Checked.require ((coreAt data long).cipherSuite = cipherSuiteXchacha20Poly1305)
        (headerInvalid "Unsupported cipher suite")
      Checked.require (coreHeaderSize ≤ (coreAt data long).headerLength.toNat ∧
        (coreAt data long).headerLength.toNat ≤ maxHeaderLength) (headerInvalid "Header length is outside policy")
      let chunkSize <- Checked.ofExcept (validateChunkSize (coreAt data long).chunkSize)
      Checked.require (¬ ((coreAt data long).keySlotTableLength = 0 ∨
        (coreAt data long).keySlotTableLength.toNat % keySlotSize ≠ 0 ∨
        maxKeySlots * keySlotSize < (coreAt data long).keySlotTableLength.toNat))
        (headerInvalid "Invalid key-slot table length")
      Checked.require (¬ ((coreAt data long).encryptedMetadataLength ≠ 0 ∧
        ((coreAt data long).encryptedMetadataLength.toNat < aeadTagLength ∨
        maxMetadataLength + aeadTagLength < (coreAt data long).encryptedMetadataLength.toNat)))
        (headerInvalid "Invalid encrypted metadata length")
      Checked.require (coreHeaderSize + (coreAt data long).keySlotTableLength.toNat +
        (coreAt data long).encryptedMetadataLength.toNat = (coreAt data long).headerLength.toNat)
        (headerInvalid "Header component lengths do not match complete header length")
      return { coreAt data long with chunkSize := chunkSize } := by
  have bound : 98 ≤ data.length := long
  unfold CoreHeader.parse
  rw [Checked.require_of long, Checked.returned_bind]
  simp (disch := omega) only [slice_of_le, u16At_of_le, u32At_of_le, u64At_of_le, copyFromSlice_part,
    Checked.returned_bind, checkedSum, Checked.ofOption_some]
  rfl

/-- The core is read without an access out of bounds. -/
theorem CoreHeader.parse_safe (data : Bytes) : (CoreHeader.parse data).Safe := by
  by_cases long : coreHeaderSize ≤ data.length
  · rw [CoreHeader.parse_long long]
    refine Checked.safe_bind (Checked.safe_require _ _) fun _ _ => ?_
    refine Checked.safe_bind (Checked.safe_require _ _) fun _ _ => ?_
    refine Checked.safe_bind (Checked.safe_require _ _) fun _ _ => ?_
    refine Checked.safe_bind (Checked.safe_require _ _) fun _ _ => ?_
    refine Checked.safe_bind (Checked.safe_require _ _) fun _ _ => ?_
    refine Checked.safe_bind (Checked.safe_ofExcept _) fun _ _ => ?_
    refine Checked.safe_bind (Checked.safe_require _ _) fun _ _ => ?_
    refine Checked.safe_bind (Checked.safe_require _ _) fun _ _ => ?_
    refine Checked.safe_bind (Checked.safe_require _ _) fun _ _ => ?_
    exact Checked.safe_returned _
  · unfold CoreHeader.parse Checked.require
    rw [if_neg long]
    exact Checked.safe_failed _

theorem CoreHeader.parse_returned {core : CoreHeader} :
    CoreHeader.parse data = .returned core ↔
      (Exists fun long : coreHeaderSize ≤ data.length => core = coreAt data long) ∧
        part data 0 6 = magic ∧ core.Valid := by
  constructor
  · intro parsed
    have long : coreHeaderSize ≤ data.length := (Checked.require_bind_returned.mp parsed).1
    rw [CoreHeader.parse_long long] at parsed
    simp only [Checked.require_bind_returned, Checked.ofExcept_bind_returned, validateChunkSize_ok] at parsed
    rcases parsed with ⟨-, magic, version, suite, within, chunkSize, ⟨chunk, rfl⟩, slots, metadata, sum, same⟩
    cases same
    exact ⟨⟨long, rfl⟩, magic, version, suite, within, chunk, slots, metadata, sum⟩
  · rintro ⟨⟨long, rfl⟩, magicHere, valid⟩
    have other : part data 0 6 ≠ experimentalTdenc1Magic := by
      rw [magicHere]
      decide
    rw [CoreHeader.parse_long long]
    simp only [Checked.require_bind_returned, Checked.ofExcept_bind_returned, validateChunkSize_ok]
    exact ⟨other, magicHere, valid.version, valid.suite, valid.within, _, ⟨valid.chunk, rfl⟩, valid.slots,
      valid.metadata, valid.sum, rfl⟩

/-! ## The core, written -/

/-- The whole core: the prefix and the authenticator. -/
def CoreHeader.fields (core : CoreHeader) : List Bytes := core.prefixFields ++ [core.headerAuthenticator.toList]

theorem CoreHeader.fields_flatten (core : CoreHeader) :
    core.fields.flatten = core.encodePrefix ++ core.headerAuthenticator.toList := by
  unfold CoreHeader.fields CoreHeader.encodePrefix
  rw [List.flatten_append, List.flatten_singleton]

theorem CoreHeader.prefixFields_widths (core : CoreHeader) :
    core.prefixFields.map List.length = [6, 2, 16, 2, 4, 4, 4, 4, 8, 16] := by
  unfold CoreHeader.prefixFields
  simp only [List.map_cons, List.map_nil, toLeBytes_length, List.Vector.toList_length]
  rfl

theorem CoreHeader.fields_widths (core : CoreHeader) :
    core.fields.map List.length = [6, 2, 16, 2, 4, 4, 4, 4, 8, 16, 32] := by
  unfold CoreHeader.fields
  rw [List.map_append, CoreHeader.prefixFields_widths, List.map_cons, List.map_nil, List.Vector.toList_length]
  rfl

theorem CoreHeader.fields_length (core : CoreHeader) : core.fields.flatten.length = coreHeaderSize := by
  rw [List.length_flatten, CoreHeader.fields_widths]
  rfl

/-- What is read is written as it stood there. -/
theorem fields_coreAt (long : coreHeaderSize ≤ data.length) (magicHere : part data 0 6 = magic) :
    (coreAt data long).fields.flatten = data.take coreHeaderSize := by
  have bound : 98 ≤ data.length := long
  have fields : (coreAt data long).fields = cut data 0 [6, 2, 16, 2, 4, 4, 4, 4, 8, 16, 32] := by
    unfold CoreHeader.fields CoreHeader.prefixFields
    simp only [coreAt, cut]
    rw [write_read16 (part_length (by omega)), write_read16 (part_length (by omega)),
      write_read32 (part_length (by omega)), write_read32 (part_length (by omega)),
      write_read32 (part_length (by omega)), write_read32 (part_length (by omega)),
      write_read64 (part_length (by omega)), magicHere]
    rfl
  rw [fields, cut_flatten]
  rfl

/-- What is written is read, whatever comes behind it. -/
theorem coreAt_fields (core : CoreHeader) (rest : Bytes)
    (long : coreHeaderSize ≤ (core.fields.flatten ++ rest).length) :
    coreAt (core.fields.flatten ++ rest) long = core := by
  have field := part_flatten core.fields_widths rest
  have version : part (core.fields.flatten ++ rest) 6 2 = _ := field 1 rfl rfl rfl
  have suite : part (core.fields.flatten ++ rest) 24 2 = _ := field 3 rfl rfl rfl
  have length : part (core.fields.flatten ++ rest) 26 4 = _ := field 4 rfl rfl rfl
  have chunk : part (core.fields.flatten ++ rest) 30 4 = _ := field 5 rfl rfl rfl
  have slots : part (core.fields.flatten ++ rest) 34 4 = _ := field 6 rfl rfl rfl
  have metadata : part (core.fields.flatten ++ rest) 38 4 = _ := field 7 rfl rfl rfl
  have total : part (core.fields.flatten ++ rest) 42 8 = _ := field 8 rfl rfl rfl
  unfold coreAt
  apply CoreHeader.ext
  · show UInt16.ofNat (fromLeBytes (part _ 6 2)) = _
    rw [version, read_write16]
  · exact List.Vector.eq _ _ (field 2 rfl rfl rfl)
  · show UInt16.ofNat (fromLeBytes (part _ 24 2)) = _
    rw [suite, read_write16]
  · show UInt32.ofNat (fromLeBytes (part _ 26 4)) = _
    rw [length, read_write32]
  · show UInt32.ofNat (fromLeBytes (part _ 30 4)) = _
    rw [chunk, read_write32]
  · show UInt32.ofNat (fromLeBytes (part _ 34 4)) = _
    rw [slots, read_write32]
  · show UInt32.ofNat (fromLeBytes (part _ 38 4)) = _
    rw [metadata, read_write32]
  · show UInt64.ofNat (fromLeBytes (part _ 42 8)) = _
    rw [total, read_write64]
  · exact List.Vector.eq _ _ (field 9 rfl rfl rfl)
  · exact List.Vector.eq _ _ (field 10 rfl rfl rfl)

theorem CoreHeader.parse_iff {core : CoreHeader} :
    CoreHeader.parse data = .returned core ↔ core.Valid ∧ data.take coreHeaderSize = core.fields.flatten := by
  constructor
  · intro parsed
    rcases CoreHeader.parse_returned.mp parsed with ⟨⟨long, rfl⟩, magicHere, valid⟩
    exact ⟨valid, (fields_coreAt long magicHere).symm⟩
  · rintro ⟨valid, written⟩
    have whole : data = core.fields.flatten ++ data.drop coreHeaderSize := by
      rw [← written, List.take_append_drop]
    have long : coreHeaderSize ≤ data.length := by
      have counted := congrArg List.length whole
      rw [List.length_append, core.fields_length] at counted
      omega
    refine CoreHeader.parse_returned.mpr ⟨⟨long, ?_⟩, ?_, valid⟩
    · have longer : coreHeaderSize ≤ (core.fields.flatten ++ data.drop coreHeaderSize).length := whole ▸ long
      have same : coreAt data long = coreAt (core.fields.flatten ++ data.drop coreHeaderSize) longer := by
        congr 1
      rw [same, coreAt_fields]
    · rw [whole]
      exact part_flatten core.fields_widths _ 0 rfl rfl rfl

/-! ## Key slots -/

namespace KeySlotEntry

/-- The parameters a kind of slot may have. -/
def FollowsPolicy (slot : KeySlotEntry) : Prop :=
  ((slot.kind = SlotKind.vault.byte ∨ slot.kind = SlotKind.recoveryKey.byte) ∧
      slot.kdfAlgorithm = KdfAlgorithm.hkdfSha256.word ∧
      slot.argon2MemoryKib = 0 ∧ slot.argon2Iterations = 0 ∧ slot.argon2Parallelism = 0) ∨
    (slot.kind = SlotKind.passphrase.byte ∧ slot.kdfAlgorithm = KdfAlgorithm.argon2id.word ∧
      (argon2MemoryFloor ≤ slot.argon2MemoryKib.toNat ∧ slot.argon2MemoryKib.toNat ≤ argon2MemoryCeiling) ∧
      (argon2IterationsFloor ≤ slot.argon2Iterations.toNat ∧
        slot.argon2Iterations.toNat ≤ argon2IterationsCeiling) ∧
      (argon2ParallelismFloor ≤ slot.argon2Parallelism.toNat ∧
        slot.argon2Parallelism.toNat ≤ argon2ParallelismCeiling))

theorem withoutArgon2_ok {slot : KeySlotEntry} {unexpected : String} :
    slot.withoutArgon2 unexpected = .ok () ↔
      slot.argon2MemoryKib = 0 ∧ slot.argon2Iterations = 0 ∧ slot.argon2Parallelism = 0 := by
  unfold withoutArgon2
  split
  next some =>
    constructor
    · intro done
      cases done
    · rintro ⟨memory, iterations, parallelism⟩
      rcases some with other | other | other
      · exact (other memory).elim
      · exact (other iterations).elim
      · exact (other parallelism).elim
  next none =>
    refine ⟨fun _ => ?_, fun _ => rfl⟩
    rw [not_or, not_or, Decidable.not_not, Decidable.not_not, Decidable.not_not] at none
    exact none

theorem validateArgon2Params_ok {memory iterations parallelism : Nat} :
    validateArgon2Params memory iterations parallelism = .ok () ↔
      (argon2MemoryFloor ≤ memory ∧ memory ≤ argon2MemoryCeiling) ∧
        (argon2IterationsFloor ≤ iterations ∧ iterations ≤ argon2IterationsCeiling) ∧
        (argon2ParallelismFloor ≤ parallelism ∧ parallelism ≤ argon2ParallelismCeiling) := by
  unfold validateArgon2Params
  split
  next outside =>
    constructor
    · intro done
      cases done
    · rintro ⟨memory, iterations, parallelism⟩
      omega
  next inside =>
    refine ⟨fun _ => ?_, fun _ => rfl⟩
    omega

/-- The check of a slot accepts exactly what its kind allows. -/
theorem validate_ok {slot : KeySlotEntry} : slot.validate = .ok () ↔ slot.FollowsPolicy := by
  have kinds : SlotKind.vault.byte ≠ SlotKind.passphrase.byte ∧
      SlotKind.recoveryKey.byte ≠ SlotKind.passphrase.byte := by decide
  unfold validate FollowsPolicy
  split
  next vault =>
    rw [withoutArgon2_ok]
    constructor
    · intro none
      exact Or.inl ⟨Or.inl vault.1, vault.2, none⟩
    · rintro (⟨-, -, none⟩ | ⟨other, -⟩)
      · exact none
      · exact (kinds.1 (vault.1.symm.trans other)).elim
  next notVault =>
    split
    next passphrase =>
      rw [validateArgon2Params_ok]
      constructor
      · intro allowed
        exact Or.inr ⟨passphrase.1, passphrase.2, allowed⟩
      · rintro (⟨vault | recovery, -⟩ | ⟨-, -, allowed⟩)
        · exact (kinds.1 (vault.symm.trans passphrase.1)).elim
        · exact (kinds.2 (recovery.symm.trans passphrase.1)).elim
        · exact allowed
    next notPassphrase =>
      split
      next recovery =>
        rw [withoutArgon2_ok]
        constructor
        · intro none
          exact Or.inl ⟨Or.inr recovery.1, recovery.2, none⟩
        · rintro (⟨-, -, none⟩ | ⟨other, -⟩)
          · exact none
          · exact (kinds.2 (recovery.1.symm.trans other)).elim
      next notRecovery =>
        constructor
        · intro done
          cases done
        · rintro (⟨vault | recovery, kdf, -⟩ | ⟨passphrase, kdf, -⟩)
          · exact (notVault ⟨vault, kdf⟩).elim
          · exact (notRecovery ⟨recovery, kdf⟩).elim
          · exact (notPassphrase ⟨passphrase, kdf⟩).elim

/-- The slot that so many bytes stand for. -/
def slotAt (slot : Bytes) (long : slot.length = keySlotSize) : KeySlotEntry where
  kind := slot.get ⟨0, long ▸ by decide⟩
  slotId := slot.get ⟨1, long ▸ by decide⟩
  kdfAlgorithm := UInt16.ofNat (fromLeBytes (part slot 2 2))
  argon2MemoryKib := UInt32.ofNat (fromLeBytes (part slot 4 4))
  argon2Iterations := UInt32.ofNat (fromLeBytes (part slot 8 4))
  argon2Parallelism := UInt32.ofNat (fromLeBytes (part slot 12 4))
  salt := ⟨part slot 16 16, part_length (long ▸ by decide)⟩
  wrapNonce := ⟨part slot 32 24, part_length (long ▸ by decide)⟩
  wrappedDek := ⟨part slot 56 48, part_length (long ▸ by decide)⟩

theorem fields_widths (slot : KeySlotEntry) :
    slot.fields.map List.length = [1, 1, 2, 4, 4, 4, 16, 24, 48] := by
  unfold fields
  simp only [List.map_cons, List.map_nil, toLeBytes_length, List.Vector.toList_length, List.length_singleton]

theorem fields_length (slot : KeySlotEntry) : slot.fields.flatten.length = keySlotSize := by
  rw [List.length_flatten, fields_widths]
  rfl

theorem fields_slotAt {slot : Bytes} (long : slot.length = keySlotSize) :
    (slotAt slot long).fields.flatten = slot := by
  have bound : slot.length = 104 := long
  have fields : (slotAt slot long).fields = cut slot 0 [1, 1, 2, 4, 4, 4, 16, 24, 48] := by
    unfold KeySlotEntry.fields
    simp only [slotAt, cut]
    rw [write_read16 (part_length (by omega)), write_read32 (part_length (by omega)),
      write_read32 (part_length (by omega)), write_read32 (part_length (by omega)),
      part_one (by omega), part_one (by omega)]
    rfl
  rw [fields, cut_flatten]
  exact List.take_of_length_le (Nat.le_of_eq long)

theorem slotAt_fields (slot : KeySlotEntry) (long : slot.fields.flatten.length = keySlotSize) :
    slotAt slot.fields.flatten long = slot := by
  have field := part_flatten slot.fields_widths []
  rw [List.append_nil] at field
  have kdf : part slot.fields.flatten 2 2 = _ := field 2 rfl rfl rfl
  have memory : part slot.fields.flatten 4 4 = _ := field 3 rfl rfl rfl
  have iterations : part slot.fields.flatten 8 4 = _ := field 4 rfl rfl rfl
  have parallelism : part slot.fields.flatten 12 4 = _ := field 5 rfl rfl rfl
  unfold slotAt
  apply KeySlotEntry.ext
  · rfl
  · rfl
  · show UInt16.ofNat (fromLeBytes (part _ 2 2)) = _
    rw [kdf, read_write16]
  · show UInt32.ofNat (fromLeBytes (part _ 4 4)) = _
    rw [memory, read_write32]
  · show UInt32.ofNat (fromLeBytes (part _ 8 4)) = _
    rw [iterations, read_write32]
  · show UInt32.ofNat (fromLeBytes (part _ 12 4)) = _
    rw [parallelism, read_write32]
  · exact List.Vector.eq _ _ (field 6 rfl rfl rfl)
  · exact List.Vector.eq _ _ (field 7 rfl rfl rfl)
  · exact List.Vector.eq _ _ (field 8 rfl rfl rfl)

theorem parse_long {data : Bytes} {offset : Nat} (small : offset + keySlotSize < 2 ^ 64)
    (long : offset + keySlotSize ≤ data.length) :
    KeySlotEntry.parse data offset = do
      let _ <- Checked.ofExcept (slotAt (part data offset keySlotSize) (part_length long)).validate
      return slotAt (part data offset keySlotSize) (part_length long) := by
  have length : (part data offset keySlotSize).length = 104 := part_length long
  have size : keySlotSize = 104 := rfl
  have sum : checkedAdd offset keySlotSize = some (offset + keySlotSize) := if_pos small
  have whole : (slice data offset (offset + keySlotSize) : Reading Bytes) =
      .returned (part data offset keySlotSize) := by
    rw [slice_of_le (by omega) long, Nat.add_sub_cancel_left]
  unfold KeySlotEntry.parse
  rw [sum, Checked.ofOption_some, Checked.returned_bind, Checked.require_of long, Checked.returned_bind, whole,
    Checked.returned_bind]
  simp (disch := omega) only [slice_of_le, u16At_of_le, u32At_of_le, copyFromSlice_part, element_of_lt,
    Checked.returned_bind]
  rfl

theorem parse_iff {data : Bytes} {offset : Nat} {slot : KeySlotEntry} (small : offset + keySlotSize < 2 ^ 64) :
    KeySlotEntry.parse data offset = .returned slot ↔
      slot.validate = .ok () ∧ part data offset keySlotSize = slot.fields.flatten := by
  constructor
  · intro parsed
    have long : offset + keySlotSize ≤ data.length := by
      unfold KeySlotEntry.parse at parsed
      rw [checkedAdd, if_pos small, Checked.ofOption_some, Checked.returned_bind] at parsed
      exact (Checked.require_bind_returned.mp parsed).1
    rw [parse_long small long] at parsed
    rcases Checked.bind_returned parsed with ⟨_, valid, same⟩
    cases same
    exact ⟨Checked.ofExcept_returned.mp valid, (fields_slotAt _).symm⟩
  · rintro ⟨valid, written⟩
    have counted := congrArg List.length written
    rw [slot.fields_length] at counted
    have long : offset + keySlotSize ≤ data.length := by
      unfold part at counted
      rw [List.length_take, List.length_drop] at counted
      have size : keySlotSize = 104 := rfl
      omega
    have same : slotAt (part data offset keySlotSize) (part_length long) = slot := by
      have other : slotAt (part data offset keySlotSize) (part_length long) =
          slotAt slot.fields.flatten slot.fields_length := by
        congr 1
      rw [other, slotAt_fields]
    rw [parse_long small long, same, valid]
    rfl

theorem parse_safe {data : Bytes} {offset : Nat} (small : offset + keySlotSize < 2 ^ 64) :
    (KeySlotEntry.parse data offset).Safe := by
  by_cases long : offset + keySlotSize ≤ data.length
  · rw [parse_long small long]
    exact Checked.safe_bind (Checked.safe_ofExcept _) fun _ _ => Checked.safe_returned _
  · unfold KeySlotEntry.parse Checked.require
    rw [checkedAdd, if_pos small, Checked.ofOption_some, Checked.returned_bind, if_neg long]
    exact Checked.safe_failed _

end KeySlotEntry

/-! ## The table of slots -/

/-- The bytes of a table. -/
def tableBytes (keySlots : List KeySlotEntry) : Bytes := (keySlots.map fun slot => slot.fields.flatten).flatten

theorem tableBytes_length (keySlots : List KeySlotEntry) :
    (tableBytes keySlots).length = keySlots.length * keySlotSize := by
  induction keySlots with
  | nil => rfl
  | cons slot others ih =>
    unfold tableBytes at ih ⊢
    rw [List.map_cons, List.flatten_cons, List.length_append, ih, slot.fields_length,
      List.length_cons, Nat.succ_mul, Nat.add_comm]

/-- Slots that a table may have behind slots with these identifiers. -/
structure Allowed (slotIds : List UInt8) (keySlots : List KeySlotEntry) : Prop where
  valid : forall slot, slot ∈ keySlots -> slot.validate = .ok ()
  distinct : (keySlots.map KeySlotEntry.slotId).Nodup
  fresh : forall slot, slot ∈ keySlots -> slot.slotId ∉ slotIds

theorem allowed_nil (slotIds : List UInt8) : Allowed slotIds [] := by
  constructor
  · intro slot member
    cases member
  · exact List.nodup_nil
  · intro slot member
    cases member

theorem allowed_cons {slotIds : List UInt8} {slot : KeySlotEntry} {others : List KeySlotEntry} :
    Allowed slotIds (slot :: others) ↔
      slot.validate = .ok () ∧ slot.slotId ∉ slotIds ∧ Allowed (slot.slotId :: slotIds) others := by
  constructor
  · intro allowed
    have distinct := allowed.distinct
    rw [List.map_cons, List.nodup_cons] at distinct
    refine ⟨allowed.valid slot List.mem_cons_self, allowed.fresh slot List.mem_cons_self, ?_⟩
    constructor
    · exact fun other member => allowed.valid other (List.mem_cons_of_mem _ member)
    · exact distinct.2
    · intro other member among
      rcases List.mem_cons.mp among with same | earlier
      · exact distinct.1 (same ▸ List.mem_map_of_mem member)
      · exact allowed.fresh other (List.mem_cons_of_mem _ member) earlier
  · rintro ⟨valid, fresh, allowed⟩
    constructor
    · intro other member
      rcases List.mem_cons.mp member with rfl | later
      · exact valid
      · exact allowed.valid other later
    · rw [List.map_cons, List.nodup_cons]
      refine ⟨?_, allowed.distinct⟩
      intro among
      rcases List.mem_map.mp among with ⟨other, later, same⟩
      exact allowed.fresh other later (same ▸ List.mem_cons_self)
    · intro other member among
      rcases List.mem_cons.mp member with rfl | later
      · exact fresh among
      · exact allowed.fresh other later (List.mem_cons_of_mem _ among)

theorem parseSlots_safe (count : Nat) {index : Nat} (slotIds : List UInt8)
    (keySlots : List KeySlotEntry) (small : coreHeaderSize + (index + count) * keySlotSize < 2 ^ 64) :
    (parseSlots data count index slotIds keySlots).Safe := by
  induction count generalizing index slotIds keySlots with
  | zero => exact Checked.safe_returned _
  | succ count ih =>
    have size : keySlotSize = 104 := rfl
    refine Checked.safe_bind (KeySlotEntry.parse_safe (by rw [size] at small ⊢; omega)) fun slot _ => ?_
    refine Checked.safe_bind (Checked.safe_require _ _) fun _ _ => ?_
    exact ih _ _ (by rw [size] at small ⊢; omega)

/-- The loop returns the slots whose bytes are the table, behind those it had. -/
theorem parseSlots_iff (count : Nat) {index : Nat} {slotIds : List UInt8}
    {keySlots all : List KeySlotEntry} (small : coreHeaderSize + (index + count) * keySlotSize < 2 ^ 64) :
    parseSlots data count index slotIds keySlots = .returned all ↔
      Exists fun more => all = keySlots ++ more ∧ more.length = count ∧ Allowed slotIds more ∧
        part data (coreHeaderSize + index * keySlotSize) (count * keySlotSize) = tableBytes more := by
  have size : keySlotSize = 104 := rfl
  induction count generalizing index slotIds keySlots with
  | zero =>
    constructor
    · intro done
      cases done
      refine ⟨[], (List.append_nil _).symm, rfl, allowed_nil _, ?_⟩
      rw [Nat.zero_mul]
      exact List.take_zero
    · rintro ⟨more, rfl, none, -, -⟩
      rw [List.length_eq_zero_iff.mp none, List.append_nil]
      rfl
  | succ count ih =>
    have here : coreHeaderSize + index * keySlotSize + keySlotSize < 2 ^ 64 := by
      rw [size] at small ⊢
      omega
    have later : coreHeaderSize + (index + 1 + count) * keySlotSize < 2 ^ 64 := by
      rw [size] at small ⊢
      omega
    have behind : coreHeaderSize + index * keySlotSize + keySlotSize = coreHeaderSize + (index + 1) * keySlotSize := by
      rw [size]
      omega
    have split : forall (slot : KeySlotEntry) (more : List KeySlotEntry), more.length = count ->
        (part data (coreHeaderSize + index * keySlotSize) ((count + 1) * keySlotSize) = tableBytes (slot :: more) ↔
          part data (coreHeaderSize + index * keySlotSize) keySlotSize = slot.fields.flatten ∧
            part data (coreHeaderSize + (index + 1) * keySlotSize) (count * keySlotSize) = tableBytes more) := by
      intro slot more counted
      rw [← behind, Nat.succ_mul, Nat.add_comm (count * keySlotSize)]
      exact part_eq_append slot.fields_length ((tableBytes_length more).trans (by rw [counted]))
    rw [parseSlots, Checked.bind_returned_iff]
    constructor
    · rintro ⟨slot, parsed, done⟩
      rcases (KeySlotEntry.parse_iff here).mp parsed with ⟨valid, written⟩
      rcases Checked.require_bind_returned.mp done with ⟨fresh, rest⟩
      rcases (ih later).mp rest with ⟨more, rfl, counted, allowed, others⟩
      refine ⟨slot :: more, ?_, ?_, allowed_cons.mpr ⟨valid, fresh, allowed⟩, ?_⟩
      · rw [List.append_assoc, List.singleton_append]
      · rw [List.length_cons, counted]
      · exact (split slot more counted).mpr ⟨written, others⟩
    · rintro ⟨more, rfl, counted, allowed, written⟩
      cases more with
      | nil => cases counted
      | cons slot more =>
        have rest : more.length = count := Nat.succ_inj.mp counted
        rcases allowed_cons.mp allowed with ⟨valid, fresh, others⟩
        rcases (split slot more rest).mp written with ⟨one, behindIt⟩
        refine ⟨slot, (KeySlotEntry.parse_iff here).mpr ⟨valid, one⟩, ?_⟩
        refine Checked.require_bind_returned.mpr ⟨fresh, ?_⟩
        refine (ih later).mpr ⟨more, ?_, rest, others, behindIt⟩
        rw [List.append_assoc, List.singleton_append]

/-! ## The complete header -/

namespace EnvelopeHeader

/-- A header that may be written: its parts obey the policy, and its lengths are those of its parts. -/
structure Valid (header : EnvelopeHeader) : Prop where
  core : header.core.Valid
  table : header.keySlots.length * keySlotSize = header.core.keySlotTableLength.toNat
  metadata : header.encryptedMetadata.length = header.core.encryptedMetadataLength.toNat
  slots : Allowed [] header.keySlots

/-- The core, the slots and the metadata, one behind the other. -/
def bytes (header : EnvelopeHeader) : Bytes :=
  header.core.fields.flatten ++ (tableBytes header.keySlots ++ header.encryptedMetadata)

theorem bytes_length {header : EnvelopeHeader} (valid : header.Valid) :
    header.bytes.length = header.core.headerLength.toNat := by
  unfold bytes
  rw [List.length_append, List.length_append, header.core.fields_length, tableBytes_length, valid.table,
    valid.metadata, ← Nat.add_assoc, valid.core.sum]

theorem take_eq_bytes {data : Bytes} {header : EnvelopeHeader} (valid : header.Valid) :
    data.take header.core.headerLength.toNat = header.bytes ↔
      data.take coreHeaderSize = header.core.fields.flatten ∧
        part data coreHeaderSize header.core.keySlotTableLength.toNat = tableBytes header.keySlots ∧
        part data (coreHeaderSize + header.core.keySlotTableLength.toNat)
          header.core.encryptedMetadataLength.toNat = header.encryptedMetadata := by
  have table : (tableBytes header.keySlots).length = header.core.keySlotTableLength.toNat := by
    rw [tableBytes_length, valid.table]
  have behind : (tableBytes header.keySlots ++ header.encryptedMetadata).length =
      header.core.keySlotTableLength.toNat + header.core.encryptedMetadataLength.toNat := by
    rw [List.length_append, table, valid.metadata]
  unfold bytes
  rw [← part_zero, ← part_zero, ← valid.core.sum, Nat.add_assoc, part_eq_append header.core.fields_length behind,
    Nat.zero_add, part_eq_append table valid.metadata]

/-- The table of a core is made of whole slots. -/
theorem slotCount_mul {core : CoreHeader} (valid : core.Valid) :
    core.keySlotTableLength.toNat / keySlotSize * keySlotSize = core.keySlotTableLength.toNat := by
  refine Nat.div_mul_cancel (Nat.dvd_of_mod_eq_zero ?_)
  by_contra other
  exact valid.slots (Or.inr (Or.inl other))

theorem slots_small (core : CoreHeader) :
    coreHeaderSize + (0 + core.keySlotTableLength.toNat / keySlotSize) * keySlotSize < 2 ^ 64 := by
  have table := core.keySlotTableLength.toNat_lt
  have size : coreHeaderSize = 98 ∧ keySlotSize = 104 := ⟨rfl, rfl⟩
  rw [size.1, size.2]
  omega

theorem metadata_small (core : CoreHeader) :
    checkedAdd (coreHeaderSize + core.keySlotTableLength.toNat) core.encryptedMetadataLength.toNat =
      some (coreHeaderSize + core.keySlotTableLength.toNat + core.encryptedMetadataLength.toNat) := by
  have table := core.keySlotTableLength.toNat_lt
  have metadata := core.encryptedMetadataLength.toNat_lt
  have size : coreHeaderSize = 98 := rfl
  exact if_pos (by omega)

theorem parse_safe (data : Bytes) : (EnvelopeHeader.parse data).Safe := by
  refine Checked.safe_bind (CoreHeader.parse_safe data) fun core parsed => ?_
  have valid := (CoreHeader.parse_iff.mp parsed).1
  refine Checked.safe_require_bind fun enough => ?_
  refine Checked.safe_bind (parseSlots_safe _ _ _ (slots_small core)) fun keySlots _ => ?_
  dsimp only
  rw [metadata_small, Checked.ofOption_some, Checked.returned_bind]
  refine Checked.safe_require_bind fun checked => ?_
  rw [valid.sum, slice_of_le (by rw [← valid.sum]; omega) enough, Checked.returned_bind,
    slice_of_le (Nat.zero_le _) enough]
  exact Checked.safe_returned _

/-- A header is returned when it obeys the policy and its fields stand at the beginning. -/
theorem parse_iff {data : Bytes} {header : EnvelopeHeader} :
    EnvelopeHeader.parse data = .returned header ↔
      header.Valid ∧ data.take header.core.headerLength.toNat = header.bytes ∧ header.rawHeader = header.bytes := by
  constructor
  · intro parsed
    rcases Checked.bind_returned parsed with ⟨core, coreParsed, rest⟩
    rcases CoreHeader.parse_iff.mp coreParsed with ⟨valid, coreHere⟩
    rcases Checked.require_bind_returned.mp rest with ⟨enough, rest⟩
    rcases Checked.bind_returned rest with ⟨keySlots, slotsParsed, rest⟩
    rcases (parseSlots_iff _ (slots_small core)).mp slotsParsed with ⟨_, rfl, counted, allowed, tableHere⟩
    dsimp only at rest
    rw [metadata_small, Checked.ofOption_some, Checked.returned_bind] at rest
    rcases Checked.require_bind_returned.mp rest with ⟨-, rest⟩
    rw [valid.sum, slice_of_le (by rw [← valid.sum]; omega) enough, Checked.returned_bind,
      slice_of_le (Nat.zero_le _) enough, Checked.returned_bind] at rest
    cases rest
    have metadataLength : core.headerLength.toNat - (coreHeaderSize + core.keySlotTableLength.toNat) =
        core.encryptedMetadataLength.toNat := by
      rw [← valid.sum, Nat.add_sub_cancel_left]
    rw [Nat.zero_mul, Nat.add_zero, slotCount_mul valid] at tableHere
    rw [metadataLength]
    have whole : EnvelopeHeader.Valid ⟨core, keySlots, part data (coreHeaderSize + core.keySlotTableLength.toNat)
        core.encryptedMetadataLength.toNat, part data 0 (core.headerLength.toNat - 0)⟩ := by
      constructor
      · exact valid
      · show keySlots.length * keySlotSize = _
        rw [counted, slotCount_mul valid]
      · exact part_length (by rw [valid.sum]; exact enough)
      · exact allowed
    have here := (take_eq_bytes whole).mpr ⟨coreHere, tableHere, rfl⟩
    exact ⟨whole, here, here⟩
  · rintro ⟨valid, here, raw⟩
    rcases (take_eq_bytes valid).mp here with ⟨coreHere, tableHere, metadataHere⟩
    have enough : header.core.headerLength.toNat ≤ data.length := by
      have counted := congrArg List.length here
      rw [bytes_length valid, List.length_take] at counted
      omega
    have slotsParsed : parseSlots data (header.core.keySlotTableLength.toNat / keySlotSize) 0 [] [] =
        .returned header.keySlots := by
      refine (parseSlots_iff _ (slots_small header.core)).mpr ⟨header.keySlots, rfl, ?_, valid.slots, ?_⟩
      · rw [← valid.table]
        exact (Nat.mul_div_cancel _ (by decide)).symm
      · rw [Nat.zero_mul, Nat.add_zero, slotCount_mul valid.core]
        exact tableHere
    have metadataLength : header.core.headerLength.toNat - (coreHeaderSize + header.core.keySlotTableLength.toNat) =
        header.core.encryptedMetadataLength.toNat := by
      rw [← valid.core.sum, Nat.add_sub_cancel_left]
    have rawHere : part data 0 (header.core.headerLength.toNat - 0) = header.rawHeader := here.trans raw.symm
    unfold EnvelopeHeader.parse
    rw [CoreHeader.parse_iff.mpr ⟨valid.core, coreHere⟩, Checked.returned_bind]
    dsimp only
    rw [Checked.require_of enough, Checked.returned_bind, slotsParsed, Checked.returned_bind, metadata_small,
      Checked.ofOption_some, Checked.returned_bind, valid.core.sum, Checked.require_of (by omega),
      Checked.returned_bind, slice_of_le (by rw [← valid.core.sum]; omega) enough, Checked.returned_bind,
      slice_of_le (Nat.zero_le _) enough, Checked.returned_bind, metadataLength, metadataHere, rawHere]
    rfl

end EnvelopeHeader

/-! ## A header that was built -/

theorem validate_encode {slot : KeySlotEntry} {encoded : Bytes} :
    slot.encode = .ok encoded ↔ slot.validate = .ok () ∧ encoded = slot.fields.flatten := by
  unfold KeySlotEntry.encode
  constructor
  · intro done
    rcases bind_eq_ok done with ⟨_, valid, same⟩
    exact ⟨valid, (Except.ok.inj same).symm⟩
  · rintro ⟨valid, rfl⟩
    rw [valid]
    rfl

/-- The loop over the slots writes the table of slots that may stand there. -/
theorem encodeSlots_ok {keySlots : List KeySlotEntry} {slotIds : List UInt8} {before slotBytes : Bytes} :
    encodeSlots keySlots slotIds before = .ok slotBytes ↔
      Allowed slotIds keySlots ∧ slotBytes = before ++ tableBytes keySlots := by
  induction keySlots generalizing slotIds before with
  | nil =>
    constructor
    · intro done
      cases done
      exact ⟨allowed_nil _, (List.append_nil _).symm⟩
    · rintro ⟨-, rfl⟩
      rw [show tableBytes [] = [] from rfl, List.append_nil]
      rfl
  | cons slot others ih =>
    have table : forall before : Bytes, before ++ slot.fields.flatten ++ tableBytes others =
        before ++ tableBytes (slot :: others) := fun before => List.append_assoc _ _ _
    rw [encodeSlots, allowed_cons]
    constructor
    · intro done
      split at done
      · cases done
      next fresh =>
        rcases bind_eq_ok done with ⟨encoded, one, rest⟩
        rcases validate_encode.mp one with ⟨valid, rfl⟩
        rcases ih.mp rest with ⟨allowed, rfl⟩
        exact ⟨⟨valid, fresh, allowed⟩, table before⟩
    · rintro ⟨⟨valid, fresh, allowed⟩, rfl⟩
      rw [if_neg fresh, validate_encode.mpr ⟨valid, rfl⟩]
      exact ih.mpr ⟨allowed, (table before).symm⟩

/-- Every slot of a table is written by its own writer. -/
theorem mapM_encode {keySlots : List KeySlotEntry} (valid : forall slot, slot ∈ keySlots -> slot.validate = .ok ()) :
    keySlots.mapM KeySlotEntry.encode = .ok (keySlots.map fun slot => slot.fields.flatten) := by
  induction keySlots with
  | nil => rfl
  | cons slot others ih =>
    rw [List.mapM_cons, validate_encode.mpr ⟨valid slot List.mem_cons_self, rfl⟩,
      ih fun other member => valid other (List.mem_cons_of_mem _ member)]
    rfl

theorem metadataCiphertextLength_ok {metadataPlaintext : Bytes} {length : Nat}
    (done : metadataCiphertextLength metadataPlaintext = .ok length) :
    length = 0 ∨ length = metadataPlaintext.length + aeadTagLength := by
  unfold metadataCiphertextLength at done
  split at done
  · exact Or.inl (Except.ok.inj done).symm
  · split at done
    next summed =>
      unfold checkedAdd at summed
      split at summed
      · exact Or.inr ((Except.ok.inj done).symm.trans (Option.some.inj summed).symm)
      · cases summed
    · cases done

/-- The lengths of a header and of its parts fit their fields. -/
theorem toNat_ofNat_small {length : Nat} (small : length ≤ maxHeaderLength) : (UInt32.ofNat length).toNat = length := by
  have size : maxHeaderLength = 65536 := rfl
  rw [UInt32.toNat_ofNat', Nat.mod_eq_of_lt (by omega)]

theorem core_valid {inputs : HeaderInputs} {completeHeaderLength metadataLength : Nat}
    (chunk : minChunkSize ≤ inputs.chunkSize ∧ inputs.chunkSize ≤ maxChunkSize)
    (some : inputs.keySlots ≠ []) (few : inputs.keySlots.length ≤ maxKeySlots)
    (metadata : metadataLength = 0 ∨ metadataLength = inputs.metadataPlaintext.length + aeadTagLength)
    (short : inputs.metadataPlaintext.length ≤ maxMetadataLength)
    (sum : completeHeaderLength = coreHeaderSize + inputs.keySlots.length * keySlotSize + metadataLength)
    (small : completeHeaderLength ≤ maxHeaderLength) (authenticator : List.Vector UInt8 32) :
    { inputs.core completeHeaderLength (inputs.keySlots.length * keySlotSize) metadataLength with
      headerAuthenticator := authenticator }.Valid := by
  have sizes : coreHeaderSize = 98 ∧ keySlotSize = 104 ∧ maxHeaderLength = 65536 ∧ maxKeySlots = 8 ∧
    maxMetadataLength = 65536 ∧ aeadTagLength = 16 := ⟨rfl, rfl, rfl, rfl, rfl, rfl⟩
  have counted : 0 < inputs.keySlots.length := List.length_pos_iff.mpr some
  have complete := toNat_ofNat_small small
  have table : (UInt32.ofNat (inputs.keySlots.length * keySlotSize)).toNat =
      inputs.keySlots.length * keySlotSize := toNat_ofNat_small (by omega)
  have metadataBytes : (UInt32.ofNat metadataLength).toNat = metadataLength := toNat_ofNat_small (by omega)
  constructor
  · rfl
  · rfl
  · show coreHeaderSize ≤ (UInt32.ofNat completeHeaderLength).toNat ∧
      (UInt32.ofNat completeHeaderLength).toNat ≤ maxHeaderLength
    rw [complete]
    omega
  · exact chunk
  · show ¬ (UInt32.ofNat _ = 0 ∨ (UInt32.ofNat _).toNat % keySlotSize ≠ 0 ∨ _ < (UInt32.ofNat _).toNat)
    rw [← UInt32.toNat_inj, table]
    rintro (none | whole | many)
    · have empty : inputs.keySlots.length * keySlotSize = 0 := none
      rw [sizes.2.1] at empty
      omega
    · exact whole (Nat.mul_mod_left _ _)
    · rw [sizes.2.1, sizes.2.2.2.1] at many
      omega
  · show ¬ (UInt32.ofNat _ ≠ 0 ∧ ((UInt32.ofNat _).toNat < aeadTagLength ∨ _ < (UInt32.ofNat _).toNat))
    rw [Ne, ← UInt32.toNat_inj, metadataBytes]
    rintro ⟨other, tooFew | tooMany⟩
    · rcases metadata with none | tagged
      · exact other none
      · omega
    · omega
  · show coreHeaderSize + (UInt32.ofNat _).toNat + (UInt32.ofNat _).toNat = (UInt32.ofNat _).toNat
    rw [complete, table, metadataBytes, sum]

/-- A header with an authenticator and metadata of its own. -/
def HeaderInputs.header (inputs : HeaderInputs) (authenticator : List.Vector UInt8 32) (encryptedMetadata : Bytes) :
    EnvelopeHeader :=
  let table := tableBytes inputs.keySlots
  let core := { inputs.core (coreHeaderSize + table.length + encryptedMetadata.length) table.length
      encryptedMetadata.length with
    headerAuthenticator := authenticator }
  ⟨core, inputs.keySlots, encryptedMetadata, core.fields.flatten ++ (table ++ encryptedMetadata)⟩

section Build

variable {library : EnvelopeLibrary}

theorem EnvelopeHeader.build_ok {inputs : HeaderInputs} {data : Bytes}
    (built : EnvelopeHeader.build library inputs = .ok data) :
    Exists fun authenticator => Exists fun encryptedMetadata =>
      (inputs.header authenticator encryptedMetadata).Valid ∧
        data = (inputs.header authenticator encryptedMetadata).bytes ∧
        encryptMetadata library inputs.dek inputs.noncePrefix
          (inputs.header authenticator encryptedMetadata).core.encodePrefix (tableBytes inputs.keySlots)
          inputs.metadataPlaintext = .ok encryptedMetadata ∧
        headerMac library inputs.dek (inputs.header authenticator encryptedMetadata).core.encodePrefix
          (tableBytes inputs.keySlots) encryptedMetadata = .ok authenticator := by
  unfold EnvelopeHeader.build at built
  rcases bind_eq_ok built with ⟨size, chunkValid, rest⟩
  have chunk := (validateChunkSize_ok.mp chunkValid).1
  split at rest
  · cases rest
  next counted =>
    rw [not_or, Nat.not_lt] at counted
    split at rest
    · cases rest
    next short =>
      rcases bind_eq_ok rest with ⟨slotBytes, slotsWritten, rest⟩
      rcases encodeSlots_ok.mp slotsWritten with ⟨allowed, same⟩
      rw [List.nil_append] at same
      subst same
      rcases bind_eq_ok rest with ⟨metadataLength, lengthFound, rest⟩
      split at rest
      · cases rest
      next completeHeaderLength summed =>
        have sum : coreHeaderSize + (tableBytes inputs.keySlots).length + metadataLength =
            completeHeaderLength := by
          rcases Option.bind_eq_some_iff.mp summed with ⟨value, first, second⟩
          unfold checkedAdd at first second
          split at first
          · cases first
            split at second
            · exact Option.some.inj second
            · cases second
          · cases first
        split at rest
        · cases rest
        next small =>
          rcases bind_eq_ok rest with ⟨encryptedMetadata, encrypted, rest⟩
          split at rest
          · cases rest
          next sized =>
            rw [Decidable.not_not] at sized
            rcases bind_eq_ok rest with ⟨authenticator, authenticated, done⟩
            subst sized
            subst sum
            have bytes : data = (inputs.header authenticator encryptedMetadata).bytes := by
              rw [← Except.ok.inj done]
              unfold EnvelopeHeader.bytes
              rw [CoreHeader.fields_flatten, List.append_assoc, List.append_assoc, List.append_assoc]
              rfl
            refine ⟨authenticator, encryptedMetadata, ?_, bytes, encrypted, authenticated⟩
            have small := Nat.le_of_not_lt small
            rw [tableBytes_length] at small
            have core := core_valid chunk counted.1 counted.2 (metadataCiphertextLength_ok lengthFound)
              (Nat.le_of_not_lt short) rfl small authenticator
            rw [← tableBytes_length] at core small
            have tableSmall : (tableBytes inputs.keySlots).length ≤ maxHeaderLength := by omega
            have metadataSmall : encryptedMetadata.length ≤ maxHeaderLength := by omega
            constructor
            · exact core
            · exact (tableBytes_length _).symm.trans (toNat_ofNat_small tableSmall).symm
            · exact (toNat_ofNat_small metadataSmall).symm
            · exact allowed

end Build

/-! ## The format is canonical -/

/-- A header written again, each slot by its own writer. -/
def EnvelopeHeader.encode (header : EnvelopeHeader) : CryptoResult Bytes := do
  let slots <- header.keySlots.mapM KeySlotEntry.encode
  return header.core.encodePrefix ++ header.core.headerAuthenticator.toList ++ slots.flatten ++
    header.encryptedMetadata

theorem EnvelopeHeader.encode_valid {header : EnvelopeHeader} (valid : header.Valid) :
    header.encode = .ok header.bytes := by
  unfold EnvelopeHeader.encode EnvelopeHeader.bytes
  rw [mapM_encode valid.slots.valid, CoreHeader.fields_flatten, List.append_assoc _ (tableBytes _) _ |>.symm]
  rfl

/-- What a header says of its inputs. -/
structure EnvelopeHeader.BuiltFrom (library : EnvelopeLibrary) (inputs : HeaderInputs) (header : EnvelopeHeader) :
    Prop where
  fileUuid : header.core.fileUuid = inputs.fileUuid
  chunkSize : header.core.chunkSize = inputs.chunkSize
  total : header.core.totalPlaintextLength = inputs.totalPlaintextLength
  noncePrefix : header.core.noncePrefix = inputs.noncePrefix
  keySlots : header.keySlots = inputs.keySlots
  metadata : encryptMetadata library inputs.dek inputs.noncePrefix header.core.encodePrefix
    (tableBytes inputs.keySlots) inputs.metadataPlaintext = .ok header.encryptedMetadata
  authenticator : headerMac library inputs.dek header.core.encodePrefix (tableBytes inputs.keySlots)
    header.encryptedMetadata = .ok header.core.headerAuthenticator

/-- A header that was built is read back, with the fields it was built from. -/
theorem EnvelopeHeader.parse_built {library : EnvelopeLibrary} {inputs : HeaderInputs}
    (built : EnvelopeHeader.build library inputs = .ok data) :
    Exists fun header => EnvelopeHeader.parse data = .returned header ∧ header.Valid ∧ header.rawHeader = data ∧
      header.BuiltFrom library inputs := by
  rcases EnvelopeHeader.build_ok built with ⟨authenticator, encryptedMetadata, valid, rfl, encrypted, authenticated⟩
  refine ⟨_, EnvelopeHeader.parse_iff.mpr ⟨valid, ?_, rfl⟩, valid, rfl, rfl, rfl, rfl, rfl, rfl, encrypted, authenticated⟩
  rw [← EnvelopeHeader.bytes_length valid, List.take_length]

/-- The format of headers is canonical: no access of the reader is out of bounds, what is
read is written again as the bytes it was read from and depends on no others, and a header
that was built is read with the fields it was built from. -/
theorem envelope_header_is_canonical (library : EnvelopeLibrary) :
    (forall data, EnvelopeHeader.parse data ≠ .panicked) ∧
    (forall data header, EnvelopeHeader.parse data = .returned header ->
      header.core.headerLength.toNat ≤ data.length ∧
        header.encode = .ok (data.take header.core.headerLength.toNat) ∧
        (header.keySlots.map KeySlotEntry.slotId).Nodup ∧
        (forall slot, slot ∈ header.keySlots -> slot.FollowsPolicy) ∧
        forall other, other.take header.core.headerLength.toNat = data.take header.core.headerLength.toNat ->
          EnvelopeHeader.parse other = .returned header) ∧
    forall inputs data, EnvelopeHeader.build library inputs = .ok data ->
      Exists fun header => EnvelopeHeader.parse data = .returned header ∧ header.rawHeader = data ∧
        header.BuiltFrom library inputs := by
  refine ⟨EnvelopeHeader.parse_safe, ?_, ?_⟩
  · intro data header parsed
    rcases EnvelopeHeader.parse_iff.mp parsed with ⟨valid, here, raw⟩
    have counted := congrArg List.length here
    rw [EnvelopeHeader.bytes_length valid, List.length_take] at counted
    refine ⟨by omega, ?_, valid.slots.distinct, ?_, ?_⟩
    · rw [EnvelopeHeader.encode_valid valid, here]
    · intro slot member
      exact KeySlotEntry.validate_ok.mp (valid.slots.valid slot member)
    · intro other same
      exact EnvelopeHeader.parse_iff.mpr ⟨valid, same.trans here, raw⟩
  · intro inputs data built
    rcases EnvelopeHeader.parse_built built with ⟨header, parsed, -, raw, same⟩
    exact ⟨header, parsed, raw, same⟩

/-! ## A header that is built -/

/-- Encryption that adds an empty tag, and authenticators and hashes that are all the same. -/
def plainEnvelopeLibrary : EnvelopeLibrary where
  encrypt _ _ _ message := some (message ++ List.replicate aeadTagLength 0)
  decrypt _ _ _ ciphertext :=
    if aeadTagLength ≤ ciphertext.length then some (ciphertext.take (ciphertext.length - aeadTagLength)) else none
  hmacSha256 _ _ := List.Vector.replicate 32 0
  sha256 _ := List.Vector.replicate 32 0
  deriveDomainKey32 key _ := .ok key

/-- One recovery slot, and metadata of a single byte. -/
def plainHeaderInputs : HeaderInputs where
  fileUuid := List.Vector.replicate 16 7
  chunkSize := 65536
  keySlots := [⟨3, 0, 2, 0, 0, 0, List.Vector.replicate 16 0, List.Vector.replicate 24 0, List.Vector.replicate 48 0⟩]
  metadataPlaintext := [1]
  totalPlaintextLength := 5
  noncePrefix := List.Vector.replicate 16 9
  dek := ⟨List.replicate 32 0, zeros_length⟩

example : (EnvelopeHeader.build plainEnvelopeLibrary plainHeaderInputs).toOption.any
    (fun data => decide (data.length = 98 + 104 + 17)) = true := by decide +kernel

end Envelope
end TelegramDrive
