import Edid.Modes.Detailed
import Edid.Proofs.Machine.Blob
import Edid.Proofs.Machine.Cvt
import Edid.Proofs.Machine.Descriptor
import Edid.Proofs.Machine.Formats

/-!
# Detailed timings in machine words

Edges are sums of fields in words of 16 bits, and some are doubled. Physical sizes are scaled
from centimetres.
-/

set_option autoImplicit false

namespace Edid

open Machine

section Contexts

/-- What decoding knows of a display, in words. -/
structure TimingContext.Fits (context : TimingContext) : Prop where
  widthCm : context.widthCm < 0x100
  heightCm : context.heightCm < 0x100
  curve : ∀ start curve, context.curve = some (start, curve) → curve.Fits

namespace TimingContext

def checkedCurveOf (blob : Blob) : Checked (Option (Nat × Gtf.Curve)) := do
  let descriptors ← blob.checkedDescriptors
  let curves ← (descriptors.filter (·.isKind .rangeLimits)).filterMapM fun descriptor => do
    return (← RangeLimits.checkedOfDescriptor? descriptor blob.revision).bind (·.kind.curve?)
  return curves.getLast?

def checkedOfBlob (blob : Blob) : Checked TimingContext := do
  let curve ← checkedCurveOf blob
  return {
    version := blob.version
    revision := blob.revision
    level :=
      if blob.revision < 2 then .dmt
      else if 4 ≤ blob.revision && blob.hasContinuousFrequency then .cvt
      else if curve.any fun (start, _) => start ≠ 0 then .secondaryGtf
      else if blob.hasContinuousFrequency then .gtf
      else .dmt
    supportsReduced := supportsReducedOf blob
    curve := curve
    widthCm := blob.widthCm
    heightCm := blob.heightCm
    firstDetailedPreferred := blob.isNewerThan 1 3 || blob.features.bit 1 }

theorem checkedCurveOf_eq (blob : Blob) : checkedCurveOf blob = .ok (curveOf blob) := by
  have each : ∀ descriptor ∈ blob.descriptors.filter (·.isKind .rangeLimits),
      (RangeLimits.checkedOfDescriptor? descriptor blob.revision >>= fun range? =>
        pure (range?.bind (·.kind.curve?))) = .ok (RangeKind.ofDescriptor descriptor).curve? := by
    intro descriptor member
    have tagged := (List.mem_filter.mp member).2
    obtain ⟨range, found, kind⟩ :=
      Option.map_eq_some_iff.mp (RangeLimits.kind_ofDescriptor? tagged blob.revision)
    refine ok_step (RangeLimits.checkedOfDescriptor?_eq descriptor _) ?_
    rw [found, Option.bind_some, kind, pure_eq]
  rw [checkedCurveOf, curveOf, rangeDescriptors, blob.checkedDescriptors_eq, ok_bind,
    filterMapM_ok each, ok_bind, pure_eq]

theorem checkedOfBlob_eq (blob : Blob) : checkedOfBlob blob = .ok (ofBlob blob) :=
  ok_step (checkedCurveOf_eq blob) (pure_eq _)

theorem fits_ofBlob (blob : Blob) : (ofBlob blob).Fits where
  widthCm := (blob.base.byte 21).toNat_lt
  heightCm := (blob.base.byte 22).toNat_lt
  curve start curve found := by
    simp only [ofBlob, curveOf] at found
    have member := List.mem_of_getLast? found
    obtain ⟨descriptor, _, listed⟩ := List.mem_filterMap.mp member
    exact RangeKind.fits_ofDescriptor listed

end TimingContext

end Contexts

section Timings

namespace DetailedTiming

def checkedAxis (active blank offset width : Nat) : Checked Axis := do
  let syncStart ← u16 (active + offset)
  let syncEnd ← u16 (syncStart + width)
  let total ← u16 (active + blank)
  let total ← (if total < syncEnd then u16 (syncEnd + 1) else pure total)
  return { active := active, syncStart := syncStart, syncEnd := syncEnd, total := total }

def checkedFrameOfField (field : Axis) : Checked Axis := do
  let active ← u16 (field.active * 2)
  let syncStart ← u16 (field.syncStart * 2)
  let syncEnd ← u16 (field.syncEnd * 2)
  let total ← u16 (field.total * 2)
  -- The lowest bit is set, which is clear in twice a number.
  return { active := active, syncStart := syncStart, syncEnd := syncEnd, total := total + 1 }

def checkedMode (timing : DetailedTiming) (workarounds : Workarounds) : Checked Mode := do
  let clock ← u32 ((if workarounds.clockTooHigh then slowClock else timing.pixelClock) * 10)
  let horizontal ← checkedAxis timing.hactive timing.hblank timing.hsyncOffset timing.hsyncWidth
  let vertical ← checkedAxis timing.vactive timing.vblank timing.vsyncOffset timing.vsyncWidth
  let vertical ← (
    if timing.interlaced && fieldSizes.contains (timing.hactive, timing.vactive) then
      checkedFrameOfField vertical
    else
      pure vertical)
  return {
    clock := clock
    horizontal := horizontal
    vertical := vertical
    flags := timing.flags workarounds }

def checkedBareMode? (timing : DetailedTiming) (workarounds : Workarounds) :
    Checked (Option Mode) := do
  if workarounds.forceReducedBlanking then
    Cvt.checkedMode? { width := timing.hactive, height := timing.vactive, refresh := 60 } true
  else
    return some (← timing.checkedMode workarounds)

def checkedSizeMm (timing : DetailedTiming) (context : TimingContext)
    (workarounds : Workarounds) : Checked (Nat × Nat) := do
  if workarounds.detailedUseMaximumSize then
    return (← u16 (context.widthCm * 10), ← u16 (context.heightCm * 10))
  else
    return timing.sizeMm context workarounds

def checkedMode? (timing : DetailedTiming) (context : TimingContext) (workarounds : Workarounds) :
    Checked (Option Mode) := do
  if timing.usable then
    let bare? ← timing.checkedBareMode? workarounds
    let (widthMm, heightMm) ← timing.checkedSizeMm context workarounds
    return bare?.map fun mode => { mode with widthMm := widthMm, heightMm := heightMm }
  else
    return none

theorem checkedAxis_eq {active blank offset width : Nat} (activeSmall : active < 0x1000)
    (blankSmall : blank < 0x1000) (offsetSmall : offset < 0x400) (widthSmall : width < 0x400) :
    checkedAxis active blank offset width = .ok (axis active blank offset width) := by
  rw [axis]
  refine below_bind (by omega) (below_bind (by omega) (below_bind (by omega) ?_))
  split
  · exact below_bind (by omega) (pure_eq _)
  · rfl

/-- Edges of twelve bits leave room for doubling. -/
theorem axis_le {active blank offset width : Nat} (activeSmall : active < 0x1000)
    (blankSmall : blank < 0x1000) (offsetSmall : offset < 0x400) (widthSmall : width < 0x400) :
    (axis active blank offset width).active < 0x2000 ∧
      (axis active blank offset width).syncStart < 0x2000 ∧
      (axis active blank offset width).syncEnd < 0x2000 ∧
      (axis active blank offset width).total < 0x2000 := by
  simp only [axis]
  split <;> omega

theorem fits_mode {timing : DetailedTiming} (fits : timing.Fits) (workarounds : Workarounds) :
    timing.checkedMode workarounds = .ok (timing.mode workarounds) ∧
      (timing.mode workarounds).Fits := by
  have horizontal := axis_le fits.hactive fits.hblank fits.hsyncOffset fits.hsyncWidth
  have vertical := axis_le fits.vactive fits.vblank (Nat.lt_trans fits.vsyncOffset (by decide))
    (Nat.lt_trans fits.vsyncWidth (by decide))
  have clock : (if workarounds.clockTooHigh then slowClock else timing.pixelClock) < 0x10000 := by
    have := fits.pixelClock
    split
    · decide
    · assumption
  constructor
  · refine below_bind (by omega) ?_
    refine ok_step (checkedAxis_eq fits.hactive fits.hblank fits.hsyncOffset fits.hsyncWidth) ?_
    refine ok_step (checkedAxis_eq fits.vactive fits.vblank
      (Nat.lt_trans fits.vsyncOffset (by decide)) (Nat.lt_trans fits.vsyncWidth (by decide))) ?_
    rw [mode]
    split
    · refine ok_step ?_ (pure_eq _)
      refine below_bind (by omega) (below_bind (by omega) (below_bind (by omega) ?_))
      exact below_bind (by omega) (pure_eq _)
    · rfl
  · refine ⟨?_, ?_, ?_⟩
    · simp only [mode]
      omega
    · constructor <;> simp only [mode] <;> omega
    · simp only [mode]
      split
      · constructor <;> simp only [frameOfField] <;> omega
      · constructor <;> omega

theorem checkedBareMode?_eq {timing : DetailedTiming} (fits : timing.Fits)
    (workarounds : Workarounds) :
    timing.checkedBareMode? workarounds = .ok (timing.bareMode? workarounds) := by
  rw [checkedBareMode?, bareMode?]
  split
  · exact Cvt.checkedMode?_eq ⟨Nat.lt_trans fits.hactive (by decide),
      Nat.lt_trans fits.vactive (by decide), (by decide : 60 < 0x100000000)⟩ true
  · exact ok_step (fits_mode fits workarounds).1 (pure_eq _)

theorem fits_bareMode? {timing : DetailedTiming} (fits : timing.Fits) {workarounds : Workarounds}
    {mode : Mode} (found : timing.bareMode? workarounds = some mode) : mode.Fits := by
  rw [bareMode?] at found
  split at found
  · exact Cvt.fits_mode? found
  · cases found
    exact (fits_mode fits workarounds).2

theorem checkedSizeMm_eq (timing : DetailedTiming) {context : TimingContext}
    (width : context.widthCm < 0x100) (height : context.heightCm < 0x100)
    (workarounds : Workarounds) :
    timing.checkedSizeMm context workarounds = .ok (timing.sizeMm context workarounds) := by
  rw [checkedSizeMm]
  split
  · next largest =>
      rw [sizeMm, if_pos largest]
      exact below_bind (by omega) (below_bind (by omega) (pure_eq _))
  · rfl

theorem checkedMode?_eq {timing : DetailedTiming} (fits : timing.Fits) {context : TimingContext}
    (width : context.widthCm < 0x100) (height : context.heightCm < 0x100)
    (workarounds : Workarounds) :
    timing.checkedMode? context workarounds = .ok (timing.mode? context workarounds) := by
  rw [checkedMode?, mode?]
  split
  · exact ok_step (checkedBareMode?_eq fits workarounds)
      (ok_step (timing.checkedSizeMm_eq width height workarounds) (pure_eq _))
  · rfl

theorem fits_mode? {timing : DetailedTiming} (fits : timing.Fits) {context : TimingContext}
    {workarounds : Workarounds} {mode : Mode}
    (found : timing.mode? context workarounds = some mode) : mode.Fits := by
  rw [mode?] at found
  split at found
  · obtain ⟨bare, made, rfl⟩ := Option.map_eq_some_iff.mp found
    have bare := fits_bareMode? fits made
    exact ⟨bare.clock, bare.horizontal, bare.vertical⟩
  · contradiction

end DetailedTiming

end Timings

section Modes

def checkedDetailedMode? (descriptor : Descriptor) (context : TimingContext)
    (workarounds : Workarounds) : Checked (Option Mode) := do
  match DetailedTiming.ofDescriptor? descriptor with
  | none => return none
  | some timing => timing.checkedMode? context workarounds

def checkedDetailedModes (blob : Blob) (context : TimingContext) (workarounds : Workarounds) :
    Checked (List Mode) := do
  let descriptors ← blob.checkedDescriptors
  let modes ← descriptors.filterMapM fun descriptor =>
    checkedDetailedMode? descriptor context workarounds
  (if context.firstDetailedPreferred then preferFirst modes else modes).mapM Mode.checkedSnapClock

theorem checkedDetailedMode?_eq (descriptor : Descriptor) {context : TimingContext}
    (width : context.widthCm < 0x100) (height : context.heightCm < 0x100)
    (workarounds : Workarounds) :
    checkedDetailedMode? descriptor context workarounds =
      .ok (detailedMode? descriptor context workarounds) := by
  rw [checkedDetailedMode?, detailedMode?]
  cases found : DetailedTiming.ofDescriptor? descriptor with
  | none => rfl
  | some timing =>
      exact DetailedTiming.checkedMode?_eq (DetailedTiming.fits_ofDescriptor? found) width height _

theorem fits_detailedMode? {descriptor : Descriptor} {context : TimingContext}
    {workarounds : Workarounds} {mode : Mode}
    (found : detailedMode? descriptor context workarounds = some mode) : mode.Fits := by
  obtain ⟨timing, read, found⟩ := Option.bind_eq_some_iff.mp found
  exact DetailedTiming.fits_mode? (DetailedTiming.fits_ofDescriptor? read) found

theorem checkedDetailedModes_eq (blob : Blob) {context : TimingContext} (known : context.Fits)
    (workarounds : Workarounds) :
    checkedDetailedModes blob context workarounds = .ok (detailedModes blob context workarounds) := by
  refine ok_step blob.checkedDescriptors_eq (ok_step (filterMapM_ok fun descriptor _ =>
    checkedDetailedMode?_eq descriptor known.widthCm known.heightCm workarounds) ?_)
  exact mapM_ok fun mode _ => mode.checkedSnapClock_eq

theorem allFit_preferFirst {modes : List Mode} (fit : AllFit modes) :
    AllFit (preferFirst modes) := by
  intro mode member
  cases modes with
  | nil => contradiction
  | cons first rest =>
      rcases List.mem_cons.mp member with rfl | behind
      · exact Mode.fits_withPreferred (fit first List.mem_cons_self) true
      · exact fit mode (List.mem_cons_of_mem _ behind)

theorem allFit_detailedModes (blob : Blob) (context : TimingContext) (workarounds : Workarounds) :
    AllFit (detailedModes blob context workarounds) := by
  have decoded : AllFit (blob.descriptors.filterMap fun descriptor =>
      detailedMode? descriptor context workarounds) :=
    allFit_filterMap fun _ _ => fits_detailedMode?
  intro snapped member
  obtain ⟨mode, listed, rfl⟩ := List.mem_map.mp member
  apply Mode.fits_snapClock
  split at listed
  · exact allFit_preferFirst decoded mode listed
  · exact decoded mode listed

end Modes

end Edid
