import Edid.Modes.Listed
import Edid.Proofs.Formula.Edges
import Edid.Proofs.Machine.Descriptor
import Edid.Proofs.Parse

/-!
# Modes of CVT codes

A CVT code names a height, an aspect ratio and rates, and every code gives a mode for each of its
rates. The formula asks that the size is not zero before it rounds the width down to eight pixels, and
it rounds the clock down to steps of 250 kHz. So codes of few lines give modes whose clock is zero,
and the smallest ones modes without a picture, or with a pulse that ends before it begins. A clock
that is not zero is enough for all the rest, and from 54 lines upward there is one.
-/

set_option autoImplicit false

namespace Edid

namespace Axis

/-- No edge is before the one in front of it. The pulse may be of no length. -/
@[mk_iff]
structure Ascending (axis : Axis) : Prop where
  front : axis.active ≤ axis.syncStart
  pulse : axis.syncStart ≤ axis.syncEnd
  back : axis.syncEnd ≤ axis.total

instance (axis : Axis) : Decidable axis.Ascending :=
  decidable_of_iff _ axis.ascending_iff.symm

theorem Spaced.ascending {axis : Axis} (spaced : axis.Spaced) : axis.Ascending :=
  ⟨spaced.front.le, spaced.pulse.le, spaced.back.le⟩

end Axis

/-- The mode runs, it has a picture, and its edges are in order. -/
@[mk_iff]
structure Mode.Displayable (mode : Mode) : Prop where
  clock : 0 < mode.clock
  width : 0 < mode.width
  height : 0 < mode.height
  horizontal : mode.horizontal.Ascending
  vertical : mode.vertical.Ascending

instance (mode : Mode) : Decidable mode.Displayable :=
  decidable_of_iff _ mode.displayable_iff.symm

namespace CvtCode

/-- What the formula is asked for at one of the rates of a code. -/
def request (code : CvtCode) (rate : Nat) : Formula.Request where
  width := code.width
  height := code.height
  refresh := rate

/-- The least height at which the clock of a code reaches a step of 250 kHz, by aspect ratio and rate. -/
def leastHeight (aspect rate : Nat) : Nat :=
  match aspect with
  | 0 => if rate = 50 then 54 else 48
  | 1 => if rate = 50 then 48 else if rate = 60 then 44 else if rate = 75 then 38 else 36
  | 2 => if rate = 50 then 50 else if rate = 60 then 46 else 40
  | _ => if rate = 50 then 48 else if rate = 60 then 44 else 40

theorem leastHeight_le (aspect rate : Nat) : leastHeight aspect rate ≤ 54 := by
  unfold leastHeight
  repeat' split
  all_goals decide

end CvtCode

namespace Cvt

open Formula

section Progressive

variable {request : Request} (progressive : request.Progressive)
include progressive

/-- With 54 lines a line lasts at most 341228 nanoseconds, and it has 88 pixels, which is enough for a
step of the clock. -/
theorem Yields.displayable {blanking : Blanking} {mode : Mode}
    (yields : Yields request false blanking mode) (wide : 72 ≤ request.width)
    (tall : 54 ≤ request.height) (usual : 50 ≤ request.refresh) : mode.Displayable := by
  obtain ⟨positive, spent, _⟩ := ordinary_bounds progressive (by omega) yields.blanking_eq
  obtain ⟨width, height⟩ := yields.size progressive (by omega)
  rw [Mode.width] at width
  obtain ⟨cells, ⟨syncEnd, total⟩, least, _, syncStart⟩ := yields.ordinary_edges
  have rows : 57 * 50 ≤ (request.height + 3) * request.refresh :=
    Nat.mul_le_mul (by omega) usual
  have short := Nat.mul_le_mul_left blanking.period rows
  have fast := (Blanking.clock_bounds positive).2
  rw [← yields.clock, ← yields.total] at fast
  refine ⟨?_, show 0 < mode.horizontal.active by omega, show 0 < mode.height by omega,
    ⟨by omega, by omega, by omega⟩, yields.vertical_spaced.ascending⟩
  by_contra stopped
  rw [Nat.eq_zero_of_not_pos stopped] at fast
  omega

end Progressive

end Cvt

namespace CvtCode

section Rates

variable {bytes : Byte × Byte × Byte} {code : CvtCode} {rate : Nat}

theorem progressive_request (code : CvtCode) (rate : Nat) : (code.request rate).Progressive :=
  ⟨rfl, rfl⟩

/-- Every rate of a code leaves time for its lines, and what comes of it fits. -/
theorem Reads.exists_mode? (reads : Reads bytes code) (listed : rate ∈ code.rates) :
    ∃ mode, Cvt.mode? (code.request rate) false = some mode := by
  obtain ⟨slow, fast⟩ := reads.rate_bounds listed
  obtain ⟨wide, narrow⟩ := reads.width_bounds
  have least := reads.least
  have most := reads.most
  exact Cvt.exists_mode? (code.progressive_request rate) (show code.width ≤ 16384 by omega) most
    (show rate ≠ 0 by omega) fast ⟨show code.width ≠ 0 by omega, show code.height ≠ 0 by omega⟩

/-- The pictures of fewer than 54 lines, one by one. -/
theorem displayable_of_low : ∀ half ∈ List.range 27, ∀ aspect ∈ List.range 4,
    ∀ rate ∈ [85, 75, 60, 50],
    ∀ mode ∈ Cvt.mode? ⟨widthFor (2 * half) aspect, 2 * half, rate, false, false⟩ false,
      (mode.Displayable ↔ 0 < mode.clock) ∧
        (mode.Displayable ↔ leastHeight aspect rate ≤ 2 * half) := by
  decide +kernel

variable {mode : Mode}

theorem Reads.lines_of_mode? (reads : Reads bytes code) (listed : rate ∈ code.rates)
    (found : Cvt.mode? (code.request rate) false = some mode) :
    mode.height = code.height ∧ mode.vertical.Ascending := by
  obtain ⟨slow, _⟩ := reads.rate_bounds listed
  obtain ⟨blanking, yields⟩ := Cvt.exists_yields_of_mode? found
  have size := yields.size (code.progressive_request rate) (show rate ≠ 0 by omega)
  exact ⟨size.2, yields.vertical_spaced.ascending⟩

theorem Reads.displayable_iff (reads : Reads bytes code) (listed : rate ∈ code.rates)
    (found : Cvt.mode? (code.request rate) false = some mode) :
    (mode.Displayable ↔ 0 < mode.clock) ∧
      (mode.Displayable ↔ leastHeight (aspectOf bytes) rate ≤ code.height) := by
  obtain ⟨width, height, rates⟩ := code
  have even : height % 2 = 0 := reads.even
  have wide : width = widthFor height (aspectOf bytes) := reads.width
  -- In small pictures rounding decides, one by one; from 54 lines upward bounds are enough.
  rcases Nat.lt_or_ge height 54 with low | tall
  · have half : height = 2 * (height / 2) := by omega
    have aspect : aspectOf bytes < 4 := Nat.mod_lt _ (by decide)
    have known := displayable_of_low (height / 2) (List.mem_range.mpr (by omega)) (aspectOf bytes)
      (List.mem_range.mpr aspect) rate (reads.rates rate listed) mode
    rw [← half, ← wide] at known
    exact known found
  · obtain ⟨blanking, yields⟩ := Cvt.exists_yields_of_mode? found
    have bounds : 4 * height ≤ 3 * width + 2 := reads.width_bounds.1
    have shown : mode.Displayable := yields.displayable (progressive_request _ rate)
      (show 72 ≤ width by omega) tall (reads.rate_bounds listed).1
    exact ⟨iff_of_true shown shown.clock,
      iff_of_true shown ((leastHeight_le _ _).trans tall)⟩

end Rates

end CvtCode

/-! ## The codes of a blob -/

/-- The bytes of all CVT codes, used or not. -/
def Blob.cvtBytes (blob : Blob) : List (Byte × Byte × Byte) :=
  (blob.descriptors.filter (·.isKind .cvtCodes)).flatMap fun descriptor =>
    triples (descriptor.toList.drop 6)

/-- The blob lists a code that asks for a rate. -/
structure Blob.Asks (blob : Blob) (bytes : Byte × Byte × Byte) (code : CvtCode) (rate : Nat) :
    Prop where
  revised : blob.isNewerThan 1 2 = true
  listed : bytes ∈ blob.cvtBytes
  read : CvtCode.ofBytes? bytes = some code
  rate : rate ∈ code.rates

theorem mem_cvtModes_iff {blob : Blob} {mode : Mode} :
    mode ∈ cvtModes blob ↔ ∃ bytes code rate, blob.Asks bytes code rate ∧
      Cvt.mode? (code.request rate) false = some mode := by
  rw [cvtModes]
  constructor
  · intro member
    split at member
    · next revised =>
        obtain ⟨descriptor, kind, member⟩ := List.mem_flatMap.mp member
        obtain ⟨code, coded, member⟩ := List.mem_flatMap.mp member
        obtain ⟨bytes, listed, read⟩ := List.mem_filterMap.mp coded
        obtain ⟨rate, asked, found⟩ := List.mem_filterMap.mp member
        have listed : bytes ∈ blob.cvtBytes := List.mem_flatMap.mpr ⟨descriptor, kind, listed⟩
        exact ⟨bytes, code, rate, ⟨revised, listed, read, asked⟩, found⟩
    · contradiction
  · rintro ⟨bytes, code, rate, ⟨revised, listed, read, asked⟩, found⟩
    obtain ⟨descriptor, kind, listed⟩ := List.mem_flatMap.mp listed
    have coded : code ∈ descriptor.cvtCodes := List.mem_filterMap.mpr ⟨bytes, listed, read⟩
    have member : mode ∈ code.modes := List.mem_filterMap.mpr ⟨rate, asked, found⟩
    rw [if_pos revised]
    exact List.mem_flatMap.mpr ⟨descriptor, kind, List.mem_flatMap.mpr ⟨code, coded, member⟩⟩

/-- Every rate of every code adds a mode as high as the code says, and nothing else adds one. The lines
are in order in all of them, and a mode can be shown if its clock runs, which it does from a least
height upward. -/
theorem displayable_cvtModes (blob : Blob) :
    (∀ mode ∈ cvtModes blob, 0 < mode.height ∧ mode.vertical.Ascending ∧
      (mode.Displayable ↔ 0 < mode.clock) ∧ ∃ bytes code rate, blob.Asks bytes code rate ∧
        Cvt.mode? (code.request rate) false = some mode) ∧
    ∀ bytes code rate, blob.Asks bytes code rate → ∃ mode ∈ cvtModes blob,
      Cvt.mode? (code.request rate) false = some mode ∧ mode.height = code.height ∧
        (mode.Displayable ↔ CvtCode.leastHeight (CvtCode.aspectOf bytes) rate ≤ code.height) := by
  constructor
  · intro mode member
    obtain ⟨bytes, code, rate, asks, found⟩ := mem_cvtModes_iff.mp member
    have reads := CvtCode.reads_of_ofBytes? asks.read
    obtain ⟨height, lines⟩ := reads.lines_of_mode? asks.rate found
    have running := (reads.displayable_iff asks.rate found).1
    exact ⟨height ▸ Nat.zero_lt_of_lt reads.least, lines, running, bytes, code, rate, asks, found⟩
  · intro bytes code rate asks
    have reads := CvtCode.reads_of_ofBytes? asks.read
    obtain ⟨mode, found⟩ := reads.exists_mode? asks.rate
    have height := (reads.lines_of_mode? asks.rate found).1
    have shown := (reads.displayable_iff asks.rate found).2
    exact ⟨mode, mem_cvtModes_iff.mpr ⟨bytes, code, rate, asks, found⟩, found, height, shown⟩

/-- A display with two codes, of 2 and of 48 lines, both in 4:3 and at 85 Hz. -/
def badge : Blob where
  base := Vector.ofFn fun position =>
    (Block.header.toList ++ List.replicate 10 0 ++ [1, 3, 0x80] ++ List.replicate 33 0 ++
      [0, 0, 0, 0xf8, 0, 1, 0, 0, 2, 23, 0, 2] ++ List.replicate 61 0 ++ [0x6e]).getD position.val 0
  extensions := []
  count_eq := by decide +kernel

/-- The least picture in 4:3 that is shown at 85 Hz. -/
theorem displayable_cvtModes_badge :
    ∃ mode ∈ cvtModes badge, mode.height = 48 ∧ mode.Displayable := by
  have asks : badge.Asks (23, 0, 2) ⟨64, 48, [85]⟩ 85 :=
    ⟨by decide +kernel, by decide +kernel, by decide +kernel, by decide +kernel⟩
  obtain ⟨mode, member, _, height, shown⟩ := (displayable_cvtModes badge).2 _ _ _ asks
  exact ⟨mode, member, height, shown.mpr (by decide)⟩

/-- The code of two lines gives a mode without a clock and without a picture, whose pulse ends before
it begins. -/
theorem badge_adds_empty_mode :
    ∃ display, parse .standard badge.toBytes = .ok display ∧
      ∃ empty shown, display.modes = [empty, shown] ∧ empty ∈ cvtModes badge ∧
        empty.clock = 0 ∧ empty.width = 0 ∧
        empty.horizontal.syncEnd < empty.horizontal.syncStart ∧ ¬ empty.Displayable ∧
        shown.Displayable := by
  refine ⟨Display.ofBlob badge false, parse_of_isValid (by decide +kernel) (by decide +kernel), ?_⟩
  refine ⟨.timing 0 ⟨0, 8, 0, 0⟩ ⟨2, 5, 15, 18⟩ .negativePositive,
    .timing 250 ⟨64, 72, 72, 80⟩ ⟨48, 51, 55, 58⟩ .negativePositive, ?_⟩
  decide +kernel

end Edid
