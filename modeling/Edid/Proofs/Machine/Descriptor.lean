import Edid.Descriptor.Codes
import Edid.Descriptor.DetailedTiming
import Edid.Descriptor.RangeLimits
import Edid.Proofs.Machine.Gtf

/-!
# Descriptors in machine words

The fields of a detailed timing have at most twelve bits each, so that three of them add up to
less than a word of 16 bits holds. Limits and codes are scaled in words of 32 bits.
-/

set_option autoImplicit false

namespace Edid

open Machine

section Timings

/-- What the fields of a detailed timing stay below. -/
structure DetailedTiming.Fits (timing : DetailedTiming) : Prop where
  pixelClock : timing.pixelClock < 0x10000
  hactive : timing.hactive < 0x1000
  hblank : timing.hblank < 0x1000
  vactive : timing.vactive < 0x1000
  vblank : timing.vblank < 0x1000
  hsyncOffset : timing.hsyncOffset < 0x400
  hsyncWidth : timing.hsyncWidth < 0x400
  vsyncOffset : timing.vsyncOffset < 0x40
  vsyncWidth : timing.vsyncWidth < 0x40

theorem DetailedTiming.fits_ofDescriptor? {d : Descriptor} {timing : DetailedTiming}
    (found : ofDescriptor? d = some timing) : timing.Fits := by
  rw [ofDescriptor?] at found
  split at found
  · cases found
    have small (position : Fin 18) := (d.byte position).toNat_lt
    have := small 0
    have := small 1
    have := small 2
    have := small 3
    have := small 4
    have := small 5
    have := small 6
    have := small 7
    have := small 8
    have := small 9
    have := small 10
    have := small 11
    constructor <;> simp only [Byte.word, Byte.high, Byte.low] <;> omega
  · contradiction

end Timings

section Ranges

namespace RangeKind

def checkedOfDescriptor (d : Descriptor) : Checked RangeKind := do
  match (d.byte 10).toNat with
  | 0 => return .defaultGtf
  | 1 => return .limitsOnly
  | 2 =>
      return .secondaryGtf (← u32 ((d.byte 12).toNat * 2))
        { m := Byte.word (d.byte 14) (d.byte 15)
          twoC := (d.byte 13).toNat
          k := (d.byte 16).toNat
          twoJ := (d.byte 17).toNat }
  | 4 => return .cvt
  | _ => return .other (d.byte 10)

theorem checkedOfDescriptor_eq (d : Descriptor) :
    checkedOfDescriptor d = .ok (ofDescriptor d) := by
  have start := (d.byte 12).toNat_lt
  rw [checkedOfDescriptor, ofDescriptor]
  generalize (d.byte 10).toNat = code
  match code with
  | 0 => rfl
  | 1 => rfl
  | 2 => exact below_bind (by omega) (pure_eq _)
  | 3 => rfl
  | 4 => rfl
  | _ + 5 => rfl

theorem fits_ofDescriptor {d : Descriptor} {start : Nat} {curve : Gtf.Curve}
    (found : (ofDescriptor d).curve? = some (start, curve)) : curve.Fits := by
  have low := (d.byte 14).toNat_lt
  have high := (d.byte 15).toNat_lt
  rw [ofDescriptor] at found
  split at found
  · contradiction
  · contradiction
  · cases found
    constructor
    · dsimp only [Byte.word]
      omega
    · exact (d.byte 13).toNat_lt
    · exact (d.byte 16).toNat_lt
    · exact (d.byte 17).toNat_lt
  · contradiction
  · contradiction

end RangeKind

namespace RangeLimits

def checkedRate (d : Descriptor) (revision : Nat) (value : Byte) (offsetBit : Nat) :
    Checked Nat :=
  u16 (value.toNat + if 4 ≤ revision && (d.byte 4).bit offsetBit then 255 else 0)

def checkedClockLimit (d : Descriptor) (refined : Bool) : Checked Nat := do
  let step := (d.byte 9).toNat
  if step = 0 ∨ step = 255 then
    return 0
  else
    let coarse ← u32 (step * 10000)
    if refined then
      -- The difference of the two stops at zero.
      return coarse - (← u32 ((d.byte 12).toNat / 4 * 250))
    else
      u32 (coarse + 5001)

def checkedMaxWidth (d : Descriptor) (refined : Bool) : Checked Nat := do
  if refined && d.byte 13 != 0 then
    let high ← u32 (256 * (d.byte 12 % 4).toNat)
    u32 (8 * (← u32 ((d.byte 13).toNat + high)))
  else
    return 0

def checkedOfDescriptor? (d : Descriptor) (revision : Nat) : Checked (Option RangeLimits) := do
  if d.isKind .rangeLimits then
    let kind ← RangeKind.checkedOfDescriptor d
    let refined := decide (4 ≤ revision) && decide (kind = .cvt)
    return some
      { minRefresh := ← checkedRate d revision (d.byte 5) 0
        maxRefresh := ← checkedRate d revision (d.byte 6) 1
        minLineRate := ← checkedRate d revision (d.byte 7) 2
        maxLineRate := ← checkedRate d revision (d.byte 8) 3
        maxClock := ← checkedClockLimit d refined
        maxWidth := ← checkedMaxWidth d refined
        kind := kind }
  else
    return none

theorem checkedRate_eq (d : Descriptor) (revision : Nat) (value : Byte) (offsetBit : Nat) :
    checkedRate d revision value offsetBit = .ok (rate d revision value offsetBit) := by
  have small := value.toNat_lt
  refine below_eq ?_
  split <;> omega

theorem checkedClockLimit_eq (d : Descriptor) (refined : Bool) :
    checkedClockLimit d refined = .ok (clockLimit d refined) := by
  have step := (d.byte 9).toNat_lt
  have fine := (d.byte 12).toNat_lt
  rw [checkedClockLimit, clockLimit]
  split
  · rfl
  · refine below_bind (by omega) ?_
    cases refined with
    | false =>
        rw [if_neg Bool.false_ne_true, if_neg Bool.false_ne_true]
        exact below_eq (by omega)
    | true =>
        rw [if_pos rfl, if_pos rfl]
        exact below_bind (by omega) (pure_eq _)

theorem checkedMaxWidth_eq (d : Descriptor) (refined : Bool) :
    checkedMaxWidth d refined =
      .ok (if refined && d.byte 13 != 0 then 8 * Byte.word (d.byte 13) (d.byte 12 % 4) else 0) := by
  have low := (d.byte 13).toNat_lt
  have high := (d.byte 12 % 4).toNat_lt
  rw [checkedMaxWidth]
  split
  · exact below_bind (by omega) (below_bind (by omega) (below_eq (by omega)))
  · rfl

theorem checkedOfDescriptor?_eq (d : Descriptor) (revision : Nat) :
    checkedOfDescriptor? d revision = .ok (ofDescriptor? d revision) := by
  rw [checkedOfDescriptor?, ofDescriptor?]
  split
  · refine ok_step (RangeKind.checkedOfDescriptor_eq d) ?_
    refine ok_step (checkedRate_eq d revision _ _) (ok_step (checkedRate_eq d revision _ _) ?_)
    refine ok_step (checkedRate_eq d revision _ _) (ok_step (checkedRate_eq d revision _ _) ?_)
    exact ok_step (checkedClockLimit_eq d _) (ok_step (checkedMaxWidth_eq d _) (pure_eq _))
  · rfl

theorem kind_ofDescriptor? {d : Descriptor} (tagged : d.isKind .rangeLimits = true)
    (revision : Nat) :
    (ofDescriptor? d revision).map (·.kind) = some (RangeKind.ofDescriptor d) := by
  rw [ofDescriptor?, if_pos tagged]
  rfl

end RangeLimits

end Ranges

section Codes

namespace CvtCode

def checkedWidthFor (height aspect : Nat) : Checked Nat := do
  match aspect with
  | 0 => return (← u32 (height * 4)) / 3
  | 1 => return (← u32 (height * 16)) / 9
  | 2 => return (← u32 (height * 16)) / 10
  | _ => return (← u32 (height * 15)) / 9

def checkedOfBytes? (code : Byte × Byte × Byte) : Checked (Option CvtCode) := do
  let (first, second, third) := code
  if first = 0 ∧ second = 0 ∧ third = 0 then
    return none
  else
    let lines ← u32 (first.toNat + 256 * second.high)
    let height ← u32 ((← u32 (lines + 1)) * 2)
    let width ← checkedWidthFor height (second.toNat / 4 % 4)
    -- Sizes that do not fit 16 bits are refused, but there are none.
    if width < 0x10000 ∧ height < 0x10000 then
      return some
        { width := width
          height := height
          rates := (rateBits.filter fun (position, _) => third.bit position).map (·.2) }
    else
      return none

theorem checkedWidthFor_eq {height : Nat} (small : height ≤ 0x2000) (aspect : Nat) :
    checkedWidthFor height aspect = .ok (widthFor height aspect) := by
  match aspect with
  | 0 => exact below_bind (by omega) (pure_eq _)
  | 1 => exact below_bind (by omega) (pure_eq _)
  | 2 => exact below_bind (by omega) (pure_eq _)
  | _ + 3 => exact below_bind (by omega) (pure_eq _)

/-- A width is between four thirds and sixteen ninths of the height. -/
theorem widthFor_bounds (height aspect : Nat) :
    4 * height ≤ 3 * widthFor height aspect + 2 ∧ 9 * widthFor height aspect ≤ 16 * height := by
  match aspect with
  | 0 | 1 | 2 | _ + 3 =>
      simp only [widthFor]
      omega

theorem checkedOfBytes?_eq (code : Byte × Byte × Byte) :
    checkedOfBytes? code = .ok (ofBytes? code) := by
  obtain ⟨first, second, third⟩ := code
  have low := first.toNat_lt
  have high : second.high < 16 := Nat.div_lt_of_lt_mul second.toNat_lt
  rw [checkedOfBytes?, ofBytes?]
  dsimp only
  split
  · rfl
  · have small : (first.toNat + 256 * second.high + 1) * 2 ≤ 0x2000 := by omega
    have narrow :=
      (widthFor_bounds ((first.toNat + 256 * second.high + 1) * 2) (second.toNat / 4 % 4)).2
    refine below_bind (by omega) (below_bind (by omega) (below_bind (by omega) ?_))
    refine ok_step (checkedWidthFor_eq small _) ?_
    rw [if_pos (by omega)]
    rfl

/-- The aspect ratio that a code names. -/
def aspectOf (bytes : Byte × Byte × Byte) : Nat :=
  bytes.2.1.toNat / 4 % 4

/-- What is known of a code that is read. -/
structure Reads (bytes : Byte × Byte × Byte) (code : CvtCode) : Prop where
  width : code.width = widthFor code.height (aspectOf bytes)
  even : code.height % 2 = 0
  least : 2 ≤ code.height
  most : code.height ≤ 0x2000
  rates : ∀ rate ∈ code.rates, rate ∈ [85, 75, 60, 50]

theorem reads_of_ofBytes? {bytes : Byte × Byte × Byte} {code : CvtCode}
    (read : ofBytes? bytes = some code) : Reads bytes code := by
  obtain ⟨first, second, third⟩ := bytes
  have low := first.toNat_lt
  have high : second.high < 16 := Nat.div_lt_of_lt_mul second.toNat_lt
  rw [ofBytes?] at read
  dsimp only at read
  split at read
  · contradiction
  · cases read
    refine ⟨rfl, by dsimp only; omega, by dsimp only; omega, by dsimp only; omega, ?_⟩
    intro rate member
    obtain ⟨⟨position, value⟩, kept, rfl⟩ := List.mem_map.mp member
    have listed := (List.mem_filter.mp kept).1
    simp only [rateBits, List.mem_cons, Prod.mk.injEq, List.not_mem_nil, or_false] at listed ⊢
    omega

namespace Reads

variable {bytes : Byte × Byte × Byte} {code : CvtCode} (reads : Reads bytes code)
include reads

theorem width_bounds : 4 * code.height ≤ 3 * code.width + 2 ∧ 9 * code.width ≤ 16 * code.height :=
  reads.width ▸ widthFor_bounds code.height (aspectOf bytes)

theorem rate_bounds {rate : Nat} (listed : rate ∈ code.rates) : 50 ≤ rate ∧ rate ≤ 85 := by
  have usual := reads.rates rate listed
  simp only [List.mem_cons, List.not_mem_nil, or_false] at usual
  omega

end Reads

end CvtCode

namespace Descriptor

def checkedStandardCodes (descriptor : Descriptor) : Checked (List (Byte × Byte)) := do
  return pairs (← slice descriptor.toList 5 17)

def checkedCvtCodes (descriptor : Descriptor) : Checked (List CvtCode) := do
  (triples (← slice descriptor.toList 6 18)).filterMapM CvtCode.checkedOfBytes?

/-- The positions of the bits that are set in six bytes, most significant bits first. -/
def checkedEstablishedIndices (descriptor : Descriptor) (tableLength : Nat) :
    Checked (List Nat) := do
  (← slice descriptor.toList 6 12).zipIdx.flatMapM fun (byte, index) =>
    (List.range 8).reverse.filterMapM fun bit => do
      let _ ← bitOf 8 bit
      if byte.bit bit then
        let position ← minus (← size ((← size (index * 8)) + 7)) bit
        return if position < tableLength then some position else none
      else
        return none

theorem checkedStandardCodes_eq (descriptor : Descriptor) :
    descriptor.checkedStandardCodes = .ok descriptor.standardCodes := by
  refine ok_step (slice_eq (by simp)) ?_
  rw [List.drop_take, standardCodes]
  rfl

theorem checkedCvtCodes_eq (descriptor : Descriptor) :
    descriptor.checkedCvtCodes = .ok descriptor.cvtCodes := by
  have whole : descriptor.toList.take 18 = descriptor.toList :=
    List.take_of_length_le (by simp)
  refine ok_step (slice_eq (by simp)) ?_
  rw [whole]
  exact filterMapM_ok fun code _ => CvtCode.checkedOfBytes?_eq code

private theorem finRange_48 :
    List.finRange 48 = (List.finRange 6).flatMap fun index =>
      (List.finRange 8).map fun bit => ⟨8 * index.val + bit.val, by omega⟩ := by
  decide

private theorem zipIdx_bitmap (descriptor : Descriptor) :
    ((descriptor.toList.take 12).drop 6).zipIdx =
      (List.finRange 6).map fun index => (descriptor[6 + index.val], index.val) := by
  refine List.ext_getElem (by simp) fun position inside _ => ?_
  simp

/-- The positions of one byte of the bitmap. -/
private theorem filter_bits (descriptor : Descriptor) (tableLength : Nat) (index : Fin 6) :
    ((List.range 8).reverse.filterMap fun bit =>
      if descriptor[6 + index.val].bit bit then
        if index.val * 8 + 7 - bit < tableLength then some (index.val * 8 + 7 - bit) else none
      else none) =
    ((((List.finRange 8).map fun bit => (⟨8 * index.val + bit.val, by omega⟩ : Fin 48)).filter
      fun position =>
        position.val < tableLength && descriptor.establishedBit position).map (·.val)) := by
  have reversed : (List.range 8).reverse = (List.finRange 8).map fun bit => 7 - bit.val := by
    decide
  rw [reversed, List.filterMap_map, ← List.filterMap_eq_map', List.filterMap_filter,
    List.filterMap_map]
  congr 1
  funext bit
  have position : index.val * 8 + 7 - (7 - bit.val) = 8 * index.val + bit.val := by omega
  have byte : (8 * index.val + bit.val) / 8 = index.val := by omega
  have place : 7 - (8 * index.val + bit.val) % 8 = 7 - bit.val := by omega
  simp only [Function.comp_apply, establishedBit, position, byte, place, Bool.and_eq_true,
    decide_eq_true_eq]
  split
  · next set => simp only [set, and_true]
  · next clear => rw [if_neg fun both => clear both.2]

theorem checkedEstablishedIndices_eq (descriptor : Descriptor) (tableLength : Nat) :
    descriptor.checkedEstablishedIndices tableLength =
      .ok (descriptor.establishedIndices tableLength) := by
  have each (entry : Byte × Nat)
      (member : entry ∈ ((descriptor.toList.take 12).drop 6).zipIdx) :
      ((List.range 8).reverse.filterMapM fun bit => do
        let _ ← bitOf 8 bit
        if entry.1.bit bit then
          let position ← minus (← size ((← size (entry.2 * 8)) + 7)) bit
          return if position < tableLength then some position else none
        else
          return none) =
      .ok ((List.range 8).reverse.filterMap fun bit =>
        if entry.1.bit bit then
          if entry.2 * 8 + 7 - bit < tableLength then some (entry.2 * 8 + 7 - bit) else none
        else none) := by
    have few : entry.2 < 6 := by
      rw [zipIdx_bitmap] at member
      obtain ⟨index, _, rfl⟩ := List.mem_map.mp member
      exact index.isLt
    refine filterMapM_ok fun bit inside => ?_
    have small : bit < 8 := List.mem_range.mp (List.mem_reverse.mp inside)
    refine bitOf_bind small ?_
    split
    · exact below_bind (by omega) (below_bind (by omega) (minus_bind (by omega) (pure_eq _)))
    · rfl
  refine ok_step (slice_eq (by simp)) ((flatMapM_ok each).trans ?_)
  rw [zipIdx_bitmap, List.flatMap_map, establishedIndices, finRange_48, List.filter_flatMap,
    List.map_flatMap]
  simp only [filter_bits]

end Descriptor

end Codes

end Edid
