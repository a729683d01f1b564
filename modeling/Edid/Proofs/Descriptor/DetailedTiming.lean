import Edid.Proofs.Byte
import Edid.Proofs.Machine.Descriptor
import Mathlib.Data.Fintype.Basic
import Mathlib.Tactic.FinCases

/-!
# Detailed timings and their bytes

Every timing whose fields stay within their widths can be stored, and is read back from what is
stored. A detailed timing descriptor is stored from what is read of it and its border bytes, so
nothing but the borders is left out.
-/

set_option autoImplicit false

namespace Edid

theorem Descriptor.eq_of_byte {first second : Descriptor}
    (same : ∀ position, first.byte position = second.byte position) : first = second :=
  Vector.ext fun position inside => same ⟨position, inside⟩

/-- A descriptor is a timing if its clock is not zero. -/
theorem Descriptor.isTiming_iff {descriptor : Descriptor} :
    descriptor.isTiming = true ↔ 0 < Byte.word (descriptor.byte 0) (descriptor.byte 1) := by
  simp only [isTiming, Bool.or_eq_true, bne_iff_ne, ne_eq, ← UInt8.toNat_inj, Byte.word]
  change ¬ _ = 0 ∨ ¬ _ = 0 ↔ _
  omega

namespace DetailedTiming

/-- A timing that can be stored: its fields stay within their widths, and its clock is not zero. -/
structure Storable (timing : DetailedTiming) : Prop extends timing.Fits where
  pixelClock_pos : 0 < timing.pixelClock
  widthMm : timing.widthMm < 0x1000
  heightMm : timing.heightMm < 0x1000

/-- The upper two bits of the four sync fields, in one byte. -/
def syncTops (timing : DetailedTiming) : Byte :=
  UInt8.ofNat (64 * (timing.hsyncOffset / 256) + 16 * (timing.hsyncWidth / 256) +
    4 * (timing.vsyncOffset / 16) + timing.vsyncWidth / 16)

/-- The descriptor of a timing, with its two border bytes. -/
def toDescriptor (timing : DetailedTiming) (horizontalBorder verticalBorder : Byte) :
    Descriptor :=
  #v[UInt8.ofNat timing.pixelClock, UInt8.ofNat (timing.pixelClock / 256),
    UInt8.ofNat timing.hactive, UInt8.ofNat timing.hblank,
    Byte.ofHalves (timing.hactive / 256) (timing.hblank / 256),
    UInt8.ofNat timing.vactive, UInt8.ofNat timing.vblank,
    Byte.ofHalves (timing.vactive / 256) (timing.vblank / 256),
    UInt8.ofNat timing.hsyncOffset, UInt8.ofNat timing.hsyncWidth,
    Byte.ofHalves (timing.vsyncOffset % 16) (timing.vsyncWidth % 16),
    timing.syncTops, UInt8.ofNat timing.widthMm, UInt8.ofNat timing.heightMm,
    Byte.ofHalves (timing.widthMm / 256) (timing.heightMm / 256),
    horizontalBorder, verticalBorder, timing.misc]

/-! ## Split numbers -/

theorem word_ofNat {value : Nat} (small : value < 0x10000) :
    Byte.word (UInt8.ofNat value) (UInt8.ofNat (value / 256)) = value := by
  simp only [Byte.word, UInt8.toNat_ofNat']
  omega

/-- Two numbers of twelve bits whose upper bits share a byte. -/
theorem add_halves {first second : Nat} (firstSmall : first < 0x1000)
    (secondSmall : second < 0x1000) :
    (UInt8.ofNat first).toNat + 256 * (Byte.ofHalves (first / 256) (second / 256)).high = first ∧
      (UInt8.ofNat second).toNat + 256 * (Byte.ofHalves (first / 256) (second / 256)).low =
        second := by
  have firstUpper : first / 256 < 16 := by omega
  have secondUpper : second / 256 < 16 := by omega
  rw [Byte.high_ofHalves firstUpper secondUpper, Byte.low_ofHalves firstUpper secondUpper,
    UInt8.toNat_ofNat', UInt8.toNat_ofNat']
  omega

theorem Fits.toNat_syncTops {timing : DetailedTiming} (fits : timing.Fits) :
    timing.syncTops.toNat = 64 * (timing.hsyncOffset / 256) + 16 * (timing.hsyncWidth / 256) +
      4 * (timing.vsyncOffset / 16) + timing.vsyncWidth / 16 := by
  obtain ⟨_, _, _, _, _, _, _, _, _⟩ := fits
  rw [syncTops, UInt8.toNat_ofNat']
  exact Nat.mod_eq_of_lt (by omega)

/-- The horizontal sync fields have ten bits. -/
theorem Fits.hsync_parts {timing : DetailedTiming} (fits : timing.Fits) :
    (UInt8.ofNat timing.hsyncOffset).toNat + 256 * (timing.syncTops.toNat / 64) =
        timing.hsyncOffset ∧
      (UInt8.ofNat timing.hsyncWidth).toNat + 256 * (timing.syncTops.toNat / 16 % 4) =
        timing.hsyncWidth := by
  have tops := fits.toNat_syncTops
  obtain ⟨_, _, _, _, _, _, _, _, _⟩ := fits
  rw [tops, UInt8.toNat_ofNat', UInt8.toNat_ofNat']
  omega

/-- The vertical sync fields have six bits. -/
theorem Fits.vsync_parts {timing : DetailedTiming} (fits : timing.Fits) :
    let shared := Byte.ofHalves (timing.vsyncOffset % 16) (timing.vsyncWidth % 16)
    shared.high + 16 * (timing.syncTops.toNat / 4 % 4) = timing.vsyncOffset ∧
      shared.low + 16 * (timing.syncTops.toNat % 4) = timing.vsyncWidth := by
  have tops := fits.toNat_syncTops
  have offset : timing.vsyncOffset % 16 < 16 := Nat.mod_lt _ (by decide)
  have width : timing.vsyncWidth % 16 < 16 := Nat.mod_lt _ (by decide)
  obtain ⟨_, _, _, _, _, _, _, _, _⟩ := fits
  dsimp only
  rw [Byte.high_ofHalves offset width, Byte.low_ofHalves offset width, tops]
  omega

/-! ## Reading what is stored -/

theorem ofDescriptor?_toDescriptor {timing : DetailedTiming} (storable : timing.Storable)
    (horizontalBorder verticalBorder : Byte) :
    ofDescriptor? (timing.toDescriptor horizontalBorder verticalBorder) = some timing := by
  have clock := word_ofNat storable.pixelClock
  have running : (timing.toDescriptor horizontalBorder verticalBorder).isTiming = true :=
    Descriptor.isTiming_iff.mpr (clock.symm ▸ storable.pixelClock_pos)
  obtain ⟨hactive, hblank⟩ := add_halves storable.hactive storable.hblank
  obtain ⟨vactive, vblank⟩ := add_halves storable.vactive storable.vblank
  obtain ⟨width, height⟩ := add_halves storable.widthMm storable.heightMm
  obtain ⟨hsyncOffset, hsyncWidth⟩ := storable.hsync_parts
  obtain ⟨vsyncOffset, vsyncWidth⟩ := storable.vsync_parts
  rw [ofDescriptor?, if_pos running]
  refine congrArg some ?_
  cases timing
  rw [mk.injEq]
  exact ⟨clock, hactive, hblank, vactive, vblank, hsyncOffset, hsyncWidth, vsyncOffset, vsyncWidth,
    width, height, rfl⟩

/-! ## Storing what is read -/

/-- A clock of zero marks a display descriptor. -/
theorem pixelClock_pos_of_ofDescriptor? {descriptor : Descriptor} {timing : DetailedTiming}
    (read : ofDescriptor? descriptor = some timing) : 0 < timing.pixelClock := by
  rw [ofDescriptor?] at read
  split at read
  · next running =>
      cases read
      exact Descriptor.isTiming_iff.mp running
  · contradiction

theorem storable_of_ofDescriptor? {descriptor : Descriptor} {timing : DetailedTiming}
    (read : ofDescriptor? descriptor = some timing) : timing.Storable := by
  have fits := fits_ofDescriptor? read
  have running := pixelClock_pos_of_ofDescriptor? read
  rw [ofDescriptor?] at read
  split at read
  · cases read
    have width := (descriptor.byte 12).toNat_lt
    have height := (descriptor.byte 13).toNat_lt
    have widthTop := (descriptor.byte 14).high_lt
    have heightTop := (descriptor.byte 14).low_lt
    refine ⟨fits, running, ?_, ?_⟩ <;> dsimp only <;> omega
  · contradiction

theorem ofNat_add (low : Byte) (top : Nat) : UInt8.ofNat (low.toNat + 256 * top) = low := by
  apply UInt8.toNat_inj.mp
  have small := low.toNat_lt
  rw [UInt8.toNat_ofNat']
  omega

theorem ofNat_word_div (first second : Byte) :
    UInt8.ofNat (Byte.word first second / 256) = second := by
  have small := first.toNat_lt
  have top : Byte.word first second / 256 = second.toNat := by
    rw [Byte.word]
    omega
  rw [top, UInt8.ofNat_toNat]

theorem ofHalves_add (first second shared : Byte) :
    Byte.ofHalves ((first.toNat + 256 * shared.high) / 256)
      ((second.toNat + 256 * shared.low) / 256) = shared := by
  have firstSmall := first.toNat_lt
  have secondSmall := second.toNat_lt
  have high : (first.toNat + 256 * shared.high) / 256 = shared.high := by omega
  have low : (second.toNat + 256 * shared.low) / 256 = shared.low := by omega
  rw [high, low, Byte.ofHalves_high_low]

theorem ofHalves_mod (shared : Byte) (first second : Nat) :
    Byte.ofHalves ((shared.high + 16 * first) % 16) ((shared.low + 16 * second) % 16) = shared := by
  have highSmall := shared.high_lt
  have lowSmall := shared.low_lt
  have high : (shared.high + 16 * first) % 16 = shared.high := by omega
  have low : (shared.low + 16 * second) % 16 = shared.low := by omega
  rw [high, low, Byte.ofHalves_high_low]

theorem syncTops_of_ofDescriptor? {descriptor : Descriptor} {timing : DetailedTiming}
    (read : ofDescriptor? descriptor = some timing) : timing.syncTops = descriptor.byte 11 := by
  have fits := fits_ofDescriptor? read
  apply UInt8.toNat_inj.mp
  rw [fits.toNat_syncTops]
  rw [ofDescriptor?] at read
  split at read
  · cases read
    have offset := (descriptor.byte 8).toNat_lt
    have width := (descriptor.byte 9).toNat_lt
    have lines := (descriptor.byte 10).high_lt
    have height := (descriptor.byte 10).low_lt
    have tops := (descriptor.byte 11).toNat_lt
    dsimp only
    omega
  · contradiction

/-- A detailed timing descriptor is stored from its timing and its borders. -/
theorem toDescriptor_of_ofDescriptor? {descriptor : Descriptor} {timing : DetailedTiming}
    (read : ofDescriptor? descriptor = some timing) :
    timing.toDescriptor (descriptor.byte 15) (descriptor.byte 16) = descriptor := by
  have tops := syncTops_of_ofDescriptor? read
  rw [ofDescriptor?] at read
  split at read
  · cases read
    apply Descriptor.eq_of_byte
    intro position
    fin_cases position
    · exact ofNat_add _ _
    · exact ofNat_word_div _ _
    · exact ofNat_add _ _
    · exact ofNat_add _ _
    · exact ofHalves_add _ _ _
    · exact ofNat_add _ _
    · exact ofNat_add _ _
    · exact ofHalves_add _ _ _
    · exact ofNat_add _ _
    · exact ofNat_add _ _
    · exact ofHalves_mod _ _ _
    · exact tops
    · exact ofNat_add _ _
    · exact ofNat_add _ _
    · exact ofHalves_add _ _ _
    -- The borders, which are taken as they are, and the flags.
    all_goals rfl
  · contradiction

/-- The borders are stored in two bytes of their own. -/
theorem byte_toDescriptor (timing : DetailedTiming) {position : Fin 18} (notFirst : position ≠ 15)
    (notSecond : position ≠ 16) (horizontalBorder verticalBorder : Byte) :
    (timing.toDescriptor horizontalBorder verticalBorder).byte position =
      (timing.toDescriptor 0 0).byte position := by
  have stored : timing.toDescriptor horizontalBorder verticalBorder =
      ((timing.toDescriptor 0 0).set 15 horizontalBorder).set 16 verticalBorder := rfl
  have behindFirst : 15 ≠ position.val := fun same => notFirst (Fin.ext same.symm)
  have behindSecond : 16 ≠ position.val := fun same => notSecond (Fin.ext same.symm)
  rw [stored, Descriptor.byte, Vector.getElem_set_ne _ _ behindSecond,
    Vector.getElem_set_ne _ _ behindFirst, Descriptor.byte]

theorem exists_ofDescriptor? {descriptor : Descriptor} (running : descriptor.isTiming = true) :
    ∃ timing, ofDescriptor? descriptor = some timing := by
  rw [ofDescriptor?, if_pos running]
  exact ⟨_, rfl⟩

/-- Where only the borders differ, the same timing is read. -/
theorem ofDescriptor?_of_same_bytes {first second : Descriptor} {timing : DetailedTiming}
    (read : ofDescriptor? first = some timing)
    (same : ∀ position, position ≠ 15 → position ≠ 16 →
      first.byte position = second.byte position) : ofDescriptor? second = some timing := by
  have moved : timing.toDescriptor (second.byte 15) (second.byte 16) = second := by
    apply Descriptor.eq_of_byte
    intro position
    by_cases horizontal : position = 15
    · rw [horizontal]
      rfl
    · by_cases vertical : position = 16
      · rw [vertical]
        rfl
      · rw [← same _ horizontal vertical, byte_toDescriptor timing horizontal vertical,
          ← byte_toDescriptor timing horizontal vertical (first.byte 15) (first.byte 16),
          toDescriptor_of_ofDescriptor? read]
  rw [← moved]
  exact ofDescriptor?_toDescriptor (storable_of_ofDescriptor? read) _ _

/-- What can be stored is read back, whatever the borders are. Every detailed timing descriptor is
read, and two of them say the same exactly if they agree in all bytes but those of the borders. -/
theorem ofDescriptor?_separates :
    (∀ timing : DetailedTiming, timing.Storable → ∀ horizontalBorder verticalBorder : Byte,
      ofDescriptor? (timing.toDescriptor horizontalBorder verticalBorder) = some timing) ∧
      ∀ first second : Descriptor, first.isTiming = true → second.isTiming = true →
        ∃ one other, ofDescriptor? first = some one ∧ ofDescriptor? second = some other ∧
          (one = other ↔ ∀ position, position ≠ 15 → position ≠ 16 →
            first.byte position = second.byte position) := by
  refine ⟨fun timing storable => ofDescriptor?_toDescriptor storable,
    fun first second firstRuns secondRuns => ?_⟩
  obtain ⟨one, firstRead⟩ := exists_ofDescriptor? firstRuns
  obtain ⟨other, secondRead⟩ := exists_ofDescriptor? secondRuns
  refine ⟨one, other, firstRead, secondRead, ?_, fun same => ?_⟩
  · rintro rfl position notFirst notSecond
    rw [← toDescriptor_of_ofDescriptor? firstRead, ← toDescriptor_of_ofDescriptor? secondRead,
      byte_toDescriptor one notFirst notSecond,
      byte_toDescriptor one notFirst notSecond (second.byte 15)]
  · exact Option.some.inj ((ofDescriptor?_of_same_bytes firstRead same).symm.trans secondRead)

/-- Every field as large as it can be, so that every bit of the shared bytes is set. -/
def fullest : DetailedTiming where
  pixelClock := 0xffff
  hactive := 0xfff
  hblank := 0xfff
  vactive := 0xfff
  vblank := 0xfff
  hsyncOffset := 0x3ff
  hsyncWidth := 0x3ff
  vsyncOffset := 0x3f
  vsyncWidth := 0x3f
  widthMm := 0xfff
  heightMm := 0xfff
  misc := 0xff

theorem ofDescriptor?_separates_fullest :
    fullest.Storable ∧ ofDescriptor? (fullest.toDescriptor 1 2) = some fullest ∧
      (fullest.toDescriptor 1 2).isTiming = true ∧
      ofDescriptor? ((fullest.toDescriptor 1 2).set 11 0xdf) ≠ some fullest := by
  have storable : fullest.Storable := by
    refine ⟨⟨?_, ?_, ?_, ?_, ?_, ?_, ?_, ?_, ?_⟩, ?_, ?_, ?_⟩ <;> decide
  obtain ⟨stored, separates⟩ := ofDescriptor?_separates
  have running : (fullest.toDescriptor 1 2).isTiming = true := by decide
  obtain ⟨one, other, firstRead, secondRead, same⟩ :=
    separates (fullest.toDescriptor 1 2) ((fullest.toDescriptor 1 2).set 11 0xdf) running
      (by decide)
  refine ⟨storable, stored fullest storable 1 2, running, fun equal => ?_⟩
  cases firstRead.symm.trans (stored fullest storable 1 2)
  cases secondRead.symm.trans equal
  exact absurd (same.mp rfl 11 (by decide) (by decide)) (by decide)

end DetailedTiming

end Edid
