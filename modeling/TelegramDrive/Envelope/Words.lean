import TelegramDrive.Envelope.Header

namespace TelegramDrive
namespace Envelope

open Crypto ArrayAccess

/-!
# Numbers as bytes

So many bytes stand for a number of that width, and for no other.
-/

theorem fromLeBytes_lt (bytes : Bytes) : fromLeBytes bytes < 256 ^ bytes.length := by
  induction bytes with
  | nil => exact Nat.one_pos
  | cons byte rest ih =>
    have low := byte.toNat_lt
    rw [fromLeBytes, List.length_cons, Nat.pow_succ]
    omega

theorem toLeBytes_fromLeBytes (bytes : Bytes) : toLeBytes bytes.length (fromLeBytes bytes) = bytes := by
  induction bytes with
  | nil => rfl
  | cons byte rest ih =>
    have low := byte.toNat_lt
    have first : UInt8.ofNat (fromLeBytes (byte :: rest)) = byte := by
      apply UInt8.toNat_inj.mp
      rw [fromLeBytes, UInt8.toNat_ofNat']
      omega
    have others : fromLeBytes (byte :: rest) / 256 = fromLeBytes rest := by
      rw [fromLeBytes]
      omega
    rw [List.length_cons, toLeBytes, first, others, ih]

/-! ## Words of two, four and eight bytes -/

variable {bytes data : Bytes}

theorem write_read16 (wide : bytes.length = 2) :
    toLeBytes 2 (UInt16.ofNat (fromLeBytes bytes)).toNat = bytes := by
  have bound := fromLeBytes_lt bytes
  rw [wide] at bound
  rw [UInt16.toNat_ofNat', Nat.mod_eq_of_lt (by omega), ← wide, toLeBytes_fromLeBytes]

theorem write_read32 (wide : bytes.length = 4) :
    toLeBytes 4 (UInt32.ofNat (fromLeBytes bytes)).toNat = bytes := by
  have bound := fromLeBytes_lt bytes
  rw [wide] at bound
  rw [UInt32.toNat_ofNat', Nat.mod_eq_of_lt (by omega), ← wide, toLeBytes_fromLeBytes]

theorem write_read64 (wide : bytes.length = 8) :
    toLeBytes 8 (UInt64.ofNat (fromLeBytes bytes)).toNat = bytes := by
  have bound := fromLeBytes_lt bytes
  rw [wide] at bound
  rw [UInt64.toNat_ofNat', Nat.mod_eq_of_lt (by omega), ← wide, toLeBytes_fromLeBytes]

theorem read_write16 (word : UInt16) : UInt16.ofNat (fromLeBytes (toLeBytes 2 word.toNat)) = word := by
  rw [fromLeBytes_toLeBytes 2 _ word.toNat_lt, UInt16.ofNat_toNat]

theorem read_write32 (word : UInt32) : UInt32.ofNat (fromLeBytes (toLeBytes 4 word.toNat)) = word := by
  rw [fromLeBytes_toLeBytes 4 _ word.toNat_lt, UInt32.ofNat_toNat]

theorem read_write64 (word : UInt64) : UInt64.ofNat (fromLeBytes (toLeBytes 8 word.toNat)) = word := by
  rw [fromLeBytes_toLeBytes 8 _ word.toNat_lt, UInt64.ofNat_toNat]

/-! ## Numbers within the bounds -/

theorem u16At_of_le {offset : Nat} (within : offset + 2 ≤ data.length) :
    u16At data offset = .returned (UInt16.ofNat (fromLeBytes (part data offset 2))) := by
  unfold u16At
  rw [elements_of_le within]
  rfl

theorem u32At_of_le {offset : Nat} (within : offset + 4 ≤ data.length) :
    u32At data offset = .returned (UInt32.ofNat (fromLeBytes (part data offset 4))) := by
  unfold u32At
  rw [elements_of_le within]
  rfl

theorem u64At_of_le {offset : Nat} (within : offset + 8 ≤ data.length) :
    u64At data offset = .returned (UInt64.ofNat (fromLeBytes (part data offset 8))) := by
  unfold u64At
  rw [elements_of_le within]
  rfl

theorem part_one {index : Nat} (inside : index < data.length) :
    part data index 1 = [data[index]] := by
  unfold part
  rw [List.drop_eq_getElem_cons inside, List.take_succ_cons, List.take_zero]

end Envelope
end TelegramDrive
