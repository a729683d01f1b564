import Edid.Byte

/-!
# Halves of bytes

A byte is put together from its halves, and halves that are put together are read back.
-/

set_option autoImplicit false

namespace Edid.Byte

theorem high_lt (byte : Byte) : byte.high < 16 :=
  Nat.div_lt_of_lt_mul byte.toNat_lt

theorem low_lt (byte : Byte) : byte.low < 16 :=
  Nat.mod_lt _ (by decide)

/-- Two numbers of four bits in one byte. -/
def ofHalves (high low : Nat) : Byte :=
  UInt8.ofNat (16 * high + low)

@[simp] theorem ofHalves_high_low (byte : Byte) : ofHalves byte.high byte.low = byte := by
  rw [ofHalves, high, low, Nat.div_add_mod, UInt8.ofNat_toNat]

theorem toNat_ofHalves {high low : Nat} (highSmall : high < 16) (lowSmall : low < 16) :
    (ofHalves high low).toNat = 16 * high + low := by
  rw [ofHalves, UInt8.toNat_ofNat']
  exact Nat.mod_eq_of_lt (by omega)

theorem high_ofHalves {high low : Nat} (highSmall : high < 16) (lowSmall : low < 16) :
    (ofHalves high low).high = high := by
  rw [Byte.high, toNat_ofHalves highSmall lowSmall]
  omega

theorem low_ofHalves {high low : Nat} (highSmall : high < 16) (lowSmall : low < 16) :
    (ofHalves high low).low = low := by
  rw [Byte.low, toNat_ofHalves highSmall lowSmall]
  omega

end Edid.Byte
