import Edid.Modes.Listed
import Edid.Modes.Standard
import Edid.Proofs.Machine.Detailed

/-!
# Listed and synthesized timings in machine words

A standard timing code asks for at most 2288 pixels at no more than 123 Hz, which both formulas
can compute. Every mode that comes of it fits, so the rates of the list can be compared with the
rate of the next code.
-/

set_option autoImplicit false

namespace Edid

open Machine

section MonitorTimings

/-- The monitor timings fit, with room for the rounding of their line rates. -/
theorem fits_of_mem_dmt : ∀ mode ∈ Dmt.modes,
    mode.Fits ∧ mode.clock + mode.horizontal.total / 2 < 0x100000000 := by
  decide +kernel

def Dmt.checkedFind? (width height refresh : Nat) (reduced : Bool) : Checked (Option Mode) :=
  modes.findM? fun mode => do
    let rate ← mode.checkedRefresh
    let isReduced ← mode.checkedIsReducedBlanking
    return mode.width == width && mode.height == height && rate == refresh && isReduced == reduced

theorem Dmt.checkedFind?_eq (width height refresh : Nat) (reduced : Bool) :
    checkedFind? width height refresh reduced = .ok (find? width height refresh reduced) := by
  refine findM?_ok fun mode member => ?_
  have fits := (fits_of_mem_dmt mode member).1
  exact ok_step (Mode.checkedRefresh_eq fits)
    (ok_step (Mode.checkedIsReducedBlanking_eq fits) (pure_eq _))

theorem Dmt.fits_find? {width height refresh : Nat} {reduced : Bool} {mode : Mode}
    (found : find? width height refresh reduced = some mode) : mode.Fits :=
  (fits_of_mem_dmt mode (List.mem_of_find?_eq_some found)).1

end MonitorTimings

section Codes

def CvtCode.checkedModes (code : CvtCode) : Checked (List Mode) :=
  code.rates.filterMapM fun rate =>
    Cvt.checkedMode? { width := code.width, height := code.height, refresh := rate } false

def checkedCvtModes (blob : Blob) : Checked (List Mode) := do
  if blob.isNewerThan 1 2 then
    let descriptors ← blob.checkedDescriptors
    (descriptors.filter (·.isKind .cvtCodes)).flatMapM fun descriptor => do
      (← descriptor.checkedCvtCodes).flatMapM CvtCode.checkedModes
  else
    return []

theorem CvtCode.checkedModes_eq {bytes : Byte × Byte × Byte} {code : CvtCode}
    (read : ofBytes? bytes = some code) : code.checkedModes = .ok code.modes := by
  have reads := reads_of_ofBytes? read
  have height := reads.most
  have width := reads.width_bounds.2
  refine filterMapM_ok fun rate member => ?_
  have rate := (reads.rate_bounds member).2
  exact Cvt.checkedMode?_eq ⟨by dsimp only; omega, by dsimp only; omega, by dsimp only; omega⟩ false

theorem checkedCvtModes_eq (blob : Blob) : checkedCvtModes blob = .ok (cvtModes blob) := by
  rw [checkedCvtModes, cvtModes]
  split
  · refine ok_step blob.checkedDescriptors_eq (flatMapM_ok fun descriptor _ => ?_)
    refine ok_step descriptor.checkedCvtCodes_eq (flatMapM_ok fun code member => ?_)
    obtain ⟨bytes, _, read⟩ := List.mem_filterMap.mp member
    exact CvtCode.checkedModes_eq read
  · rfl

theorem allFit_cvtModes (blob : Blob) : AllFit (cvtModes blob) := by
  rw [cvtModes]
  split
  · exact allFit_flatMap fun _ => allFit_flatMap fun _ => allFit_filterMap fun _ _ found =>
      Cvt.fits_mode? found
  · exact allFit_nil

end Codes

section Established

namespace Established

def checkedBaseModes (blob : Blob) : Checked (List Mode) :=
  ((announced blob.establishedTimings).zip modes).zipIdx.filterMapM
    fun ((announced, mode), position) => do
      let _ ← bitOf 32 position
      return if announced then some mode else none

def checkedDescriptorModes (descriptor : Descriptor) : Checked (List Mode) := do
  let positions ← descriptor.checkedEstablishedIndices sizes.length
  positions.filterMapM fun position => do
    let sized ← read sizes position
    Dmt.checkedFind? sized.width sized.height sized.refresh sized.reduced

theorem checkedBaseModes_eq (blob : Blob) : checkedBaseModes blob = .ok (baseModes blob) := by
  have each : ∀ entry ∈ ((announced blob.establishedTimings).zip modes).zipIdx,
      (bitOf 32 entry.2 >>= fun _ => pure (if entry.1.1 then some entry.1.2 else none)) =
        (.ok (if entry.1.1 then some entry.1.2 else none) : Checked (Option Mode)) := by
    intro entry member
    have inside : entry.2 < ((announced blob.establishedTimings).zip modes).length := by
      obtain ⟨_, inside, _⟩ := List.mem_zipIdx member
      omega
    have few : modes.length = 17 := rfl
    rw [List.length_zip] at inside
    exact bitOf_bind (by omega) (pure_eq _)
  refine (filterMapM_ok each).trans ?_
  have unindexed := List.zipIdx_map_fst 0 ((announced blob.establishedTimings).zip modes)
  rw [baseModes]
  conv => rhs; rw [← unindexed, List.filterMap_map]
  rfl

theorem checkedDescriptorModes_eq (descriptor : Descriptor) :
    checkedDescriptorModes descriptor = .ok (descriptorModes descriptor) := by
  have each : ∀ position ∈ descriptor.establishedIndices sizes.length,
      (read sizes position >>= fun sized =>
        Dmt.checkedFind? sized.width sized.height sized.refresh sized.reduced) =
        .ok (sizes[position]?.bind SizedRate.dmt?) := by
    intro position member
    obtain ⟨index, kept, rfl⟩ := List.mem_map.mp member
    have inside : index.val < sizes.length := by
      have both := (List.mem_filter.mp kept).2
      rw [Bool.and_eq_true, decide_eq_true_eq] at both
      exact both.1
    rw [read_eq inside, List.getElem?_eq_getElem inside, Option.bind_some]
    exact Dmt.checkedFind?_eq _ _ _ _
  refine ok_step (descriptor.checkedEstablishedIndices_eq _) ((filterMapM_ok each).trans ?_)
  rw [descriptorModes, List.filterMap_filterMap]

theorem allFit_modes : AllFit modes := by
  decide +kernel

theorem allFit_baseModes {blob : Blob} : AllFit (baseModes blob) := by
  intro mode member
  obtain ⟨⟨announced, listed⟩, paired, found⟩ := List.mem_filterMap.mp member
  dsimp only at found
  split at found
  · cases found
    exact allFit_modes mode (List.of_mem_zip paired).2
  · contradiction

theorem allFit_descriptorModes (descriptor : Descriptor) : AllFit (descriptorModes descriptor) :=
  allFit_filterMap fun _ _ => Dmt.fits_find?

end Established

def checkedEstablishedModes (blob : Blob) : Checked (List Mode) := do
  let base ← Established.checkedBaseModes blob
  if blob.isNewerThan 1 0 then
    let descriptors ← blob.checkedDescriptors
    let further ← (descriptors.filter (·.isKind .establishedTimings)).flatMapM
      Established.checkedDescriptorModes
    return base ++ further
  else
    return base ++ []

theorem checkedEstablishedModes_eq (blob : Blob) :
    checkedEstablishedModes blob = .ok (establishedModes blob) := by
  rw [establishedModes]
  refine ok_step (Established.checkedBaseModes_eq blob) ?_
  split
  · exact ok_step blob.checkedDescriptors_eq (ok_step (flatMapM_ok fun descriptor _ =>
      Established.checkedDescriptorModes_eq descriptor) (pure_eq _))
  · rfl

theorem allFit_establishedModes (blob : Blob) : AllFit (establishedModes blob) := by
  refine allFit_append Established.allFit_baseModes ?_
  split
  · exact allFit_flatMap Established.allFit_descriptorModes
  · exact allFit_nil

end Established

section StandardTimings

namespace StandardRequest

/-- A request that both formulas can compute. -/
structure Small (request : StandardRequest) : Prop where
  width : request.width ≤ 2400
  height : request.height ≤ 2400
  refresh : request.refresh ≤ 200

theorem Small.moderate {request : StandardRequest} (small : request.Small) :
    request.formulaRequest.Moderate :=
  ⟨small.width, small.height, small.refresh⟩

theorem Small.fits {request : StandardRequest} (small : request.Small) :
    request.formulaRequest.Fits :=
  ⟨Nat.lt_of_le_of_lt small.width (by decide), Nat.lt_of_le_of_lt small.height (by decide),
    Nat.lt_of_le_of_lt small.refresh (by decide)⟩

def checkedHeightFor (width aspect revision : Nat) : Checked Nat := do
  match aspect with
  | 0 => if revision < 3 then return width else return (← u16 (width * 10)) / 16
  | 1 => return (← u16 (width * 3)) / 4
  | 2 => return (← u16 (width * 4)) / 5
  | _ => return (← u16 (width * 9)) / 16

def checkedOfCode? (code : Byte × Byte) (revision : Nat) : Checked (Option StandardRequest) := do
  if code ∈ unusedCodes then
    return none
  else
    let width ← u16 ((← u16 (code.1.toNat * 8)) + 248)
    let refresh ← u32 (code.2.toNat % 64 + 60)
    let height ← checkedHeightFor width (code.2.toNat / 64) revision
    return some (corrected { width := width, height := height, refresh := refresh })

def checkedSecondaryGtf? (request : StandardRequest) (context : TimingContext) :
    Checked (Option Mode) := do
  match ← Gtf.checkedMode? request.formulaRequest Gtf.Curve.standard with
  | none => return none
  | some mode =>
      match context.curve with
      | some (start, curve) =>
          let rate ← mode.checkedLineRate
          if start < rate then Gtf.checkedMode? request.formulaRequest curve
          else return some mode
      | none => return some mode

def checkedSynthesized? (request : StandardRequest) (context : TimingContext) :
    Checked (Option Mode) := do
  match context.level with
  | .dmt => return none
  | .gtf => Gtf.checkedMode? request.formulaRequest Gtf.Curve.standard
  | .secondaryGtf => request.checkedSecondaryGtf? context
  | .cvt => Cvt.checkedMode? request.formulaRequest false

def checkedListed? (request : StandardRequest) (context : TimingContext) :
    Checked (Option Mode) := do
  let find := Dmt.checkedFind? request.width request.height request.refresh
  let reduced? ← (if context.supportsReduced then find true else pure none)
  return reduced?.or (← find false)

def checkedMode? (request : StandardRequest) (context : TimingContext) :
    Checked (Option Mode) := do
  if request.isPanel then
    -- The edges of the panel stop at zero.
    return (← Cvt.checkedMode? request.formulaRequest false).map Mode.trimmedToPanel
  else
    let listed? ← request.checkedListed? context
    let synthesized? ← request.checkedSynthesized? context
    return listed?.or synthesized?

theorem checkedHeightFor_eq {width : Nat} (small : width ≤ 2288) (aspect revision : Nat) :
    checkedHeightFor width aspect revision = .ok (heightFor width aspect revision) := by
  match aspect with
  | 0 =>
      rw [checkedHeightFor, heightFor]
      split
      · rfl
      · exact below_bind (by omega) (pure_eq _)
  | 1 | 2 | _ + 3 => exact below_bind (by omega) (pure_eq _)

theorem heightFor_le (width aspect revision : Nat) : heightFor width aspect revision ≤ width := by
  match aspect with
  | 0 =>
      rw [heightFor]
      split <;> omega
  | 1 | 2 | _ + 3 =>
      simp only [heightFor]
      omega

theorem checkedOfCode?_eq (code : Byte × Byte) (revision : Nat) :
    checkedOfCode? code revision = .ok (ofCode? code revision) := by
  have width := code.1.toNat_lt
  rw [checkedOfCode?, ofCode?]
  split
  · rfl
  · refine below_bind (by omega) (below_bind (by omega) (below_bind (by omega) ?_))
    exact ok_step (checkedHeightFor_eq (by omega) _ _) (pure_eq _)

theorem small_corrected {request : StandardRequest} (small : request.Small) :
    request.corrected.Small := by
  rw [corrected]
  split
  · exact ⟨(by decide : 1366 ≤ 2400), (by decide : 768 ≤ 2400), small.refresh⟩
  · exact small

theorem small_ofCode? {code : Byte × Byte} {revision : Nat} {request : StandardRequest}
    (found : ofCode? code revision = some request) : request.Small := by
  have width := code.1.toNat_lt
  rw [ofCode?] at found
  split at found
  · contradiction
  · cases found
    have height := heightFor_le (code.1.toNat * 8 + 248) (code.2.toNat / 64) revision
    exact small_corrected ⟨by dsimp only; omega, by dsimp only; omega, by dsimp only; omega⟩

theorem checkedSecondaryGtf?_eq {request : StandardRequest} (small : request.Small)
    {context : TimingContext} (known : context.Fits) :
    request.checkedSecondaryGtf? context = .ok (request.secondaryGtf? context) := by
  have standard : Gtf.Curve.standard.Fits := by constructor <;> decide
  rw [secondaryGtf?, Gtf.standardMode?]
  refine ok_step (Gtf.checkedMode?_eq small.moderate standard) ?_
  cases found : Gtf.mode? request.formulaRequest Gtf.Curve.standard with
  | none => rfl
  | some mode =>
      rw [Option.bind_some]
      dsimp only
      cases announced : context.curve with
      | none => rfl
      | some second =>
          obtain ⟨start, curve⟩ := second
          obtain ⟨_, room⟩ := Gtf.fits_mode? small.moderate found
          refine ok_step (Mode.checkedLineRate_eq room) ?_
          dsimp only
          split
          · exact Gtf.checkedMode?_eq small.moderate (known.curve start curve announced)
          · rfl

theorem checkedSynthesized?_eq {request : StandardRequest} (small : request.Small)
    {context : TimingContext} (known : context.Fits) :
    request.checkedSynthesized? context = .ok (request.synthesized? context) := by
  have standard : Gtf.Curve.standard.Fits := by constructor <;> decide
  rw [checkedSynthesized?, synthesized?]
  cases context.level with
  | dmt => rfl
  | gtf => exact Gtf.checkedMode?_eq small.moderate standard
  | secondaryGtf => exact checkedSecondaryGtf?_eq small known
  | cvt => exact Cvt.checkedMode?_eq small.fits false

theorem checkedListed?_eq (request : StandardRequest) (context : TimingContext) :
    request.checkedListed? context = .ok (request.listed? context) := by
  rw [listed?]
  have reduced : (if context.supportsReduced then
      Dmt.checkedFind? request.width request.height request.refresh true else pure none) =
      .ok (if context.supportsReduced then
        Dmt.find? request.width request.height request.refresh true else none) := by
    split
    · exact Dmt.checkedFind?_eq _ _ _ _
    · rfl
  exact ok_step reduced (ok_step (Dmt.checkedFind?_eq _ _ _ _) (pure_eq _))

theorem checkedMode?_eq {request : StandardRequest} (small : request.Small)
    {context : TimingContext} (known : context.Fits) :
    request.checkedMode? context = .ok (request.mode? context) := by
  rw [checkedMode?, mode?]
  split
  · exact ok_step (Cvt.checkedMode?_eq small.fits false) (pure_eq _)
  · exact ok_step (request.checkedListed?_eq context)
      (ok_step (checkedSynthesized?_eq small known) (pure_eq _))

theorem fits_secondaryGtf? {request : StandardRequest} (small : request.Small)
    {context : TimingContext} {mode : Mode}
    (found : request.secondaryGtf? context = some mode) : mode.Fits := by
  obtain ⟨first, made, found⟩ := Option.bind_eq_some_iff.mp found
  have fits := (Gtf.fits_mode? small.moderate made).1
  split at found
  · split at found
    · exact (Gtf.fits_mode? small.moderate found).1
    · cases found
      exact fits
  · cases found
    exact fits

theorem fits_mode? {request : StandardRequest} (small : request.Small)
    {context : TimingContext} {mode : Mode}
    (found : request.mode? context = some mode) : mode.Fits := by
  rw [mode?] at found
  split at found
  · obtain ⟨wide, made, rfl⟩ := Option.map_eq_some_iff.mp found
    have fits := Cvt.fits_mode? made
    exact ⟨fits.clock, ⟨(by decide : 1366 < 0x10000),
      Nat.lt_of_le_of_lt (Nat.sub_le _ _) fits.horizontal.syncStart,
      Nat.lt_of_le_of_lt (Nat.sub_le _ _) fits.horizontal.syncEnd, fits.horizontal.total⟩,
      fits.vertical⟩
  · rcases Option.or_eq_some_iff.mp found with listed | ⟨_, synthesized⟩
    · rcases Option.or_eq_some_iff.mp listed with reduced | ⟨_, ordinary⟩
      · split at reduced
        · exact Dmt.fits_find? reduced
        · contradiction
      · exact Dmt.fits_find? ordinary
    · rw [synthesized?] at synthesized
      split at synthesized
      · contradiction
      · exact (Gtf.fits_mode? small.moderate synthesized).1
      · exact fits_secondaryGtf? small synthesized
      · exact Cvt.fits_mode? synthesized

end StandardRequest

def checkedStandardMode? (code : Byte × Byte) (context : TimingContext) (modes : List Mode) :
    Checked (Option Mode) := do
  match ← StandardRequest.checkedOfCode? code context.revision with
  | none => return none
  | some request =>
      if ← checkedHasSizeAndRefresh modes request.width request.height request.refresh then
        return none
      else
        request.checkedMode? context

def checkedAddStandardMode (context : TimingContext) (modes : List Mode) (code : Byte × Byte) :
    Checked (List Mode) := do
  return modes ++ (← checkedStandardMode? code context modes).toList

def checkedStandardCodes (blob : Blob) : Checked (List (Byte × Byte)) := do
  let base ← blob.checkedStandardTimings
  if blob.isNewerThan 1 0 then
    let descriptors ← blob.checkedDescriptors
    let further ← (descriptors.filter (·.isKind .standardTimings)).flatMapM
      Descriptor.checkedStandardCodes
    return base ++ further
  else
    return base ++ []

def checkedAddStandardModes (blob : Blob) (context : TimingContext) (modes : List Mode) :
    Checked (List Mode) := do
  (← checkedStandardCodes blob).foldlM (checkedAddStandardMode context) modes

theorem checkedStandardMode?_eq (code : Byte × Byte) {context : TimingContext}
    (known : context.Fits) {modes : List Mode} (fit : AllFit modes) :
    checkedStandardMode? code context modes = .ok (standardMode? code context modes) := by
  rw [standardMode?]
  refine ok_step (StandardRequest.checkedOfCode?_eq code _) ?_
  cases found : StandardRequest.ofCode? code context.revision with
  | none => rfl
  | some request =>
      rw [Option.bind_some]
      refine ok_step (checkedHasSizeAndRefresh_eq fit _ _ _) ?_
      split
      · rfl
      · exact StandardRequest.checkedMode?_eq (StandardRequest.small_ofCode? found) known

theorem fits_standardMode? {code : Byte × Byte} {context : TimingContext} {modes : List Mode}
    {mode : Mode} (found : standardMode? code context modes = some mode) : mode.Fits := by
  obtain ⟨request, read, found⟩ := Option.bind_eq_some_iff.mp found
  split at found
  · contradiction
  · exact StandardRequest.fits_mode? (StandardRequest.small_ofCode? read) found

theorem checkedStandardCodes_eq (blob : Blob) :
    checkedStandardCodes blob = .ok (standardCodes blob) := by
  rw [standardCodes]
  refine ok_step blob.checkedStandardTimings_eq ?_
  split
  · exact ok_step blob.checkedDescriptors_eq (ok_step (flatMapM_ok fun descriptor _ =>
      descriptor.checkedStandardCodes_eq) (pure_eq _))
  · rfl

/-- Each code sees a list of modes that fit and leaves one. -/
theorem checkedAddStandardModes_eq (blob : Blob) {context : TimingContext} (known : context.Fits)
    {modes : List Mode} (fit : AllFit modes) :
    checkedAddStandardModes blob context modes = .ok (addStandardModes blob context modes) ∧
      AllFit (addStandardModes blob context modes) := by
  have folded : (standardCodes blob).foldlM (checkedAddStandardMode context) modes =
      .ok (addStandardModes blob context modes) ∧ AllFit (addStandardModes blob context modes) :=
    foldlM_ok AllFit fit fun modes code _ fit =>
      ⟨ok_step (checkedStandardMode?_eq code known fit) (pure_eq _),
        allFit_append fit (allFit_toList fun mode found => fits_standardMode? found)⟩
  exact ⟨ok_step (checkedStandardCodes_eq blob) folded.1, folded.2⟩

end StandardTimings

end Edid
