import Edid.Cta.Collection

/-!
# Audio and connection type

Questions to the CTA-861 data that players and drivers ask. Audio details need revision 3 of the
data; where its bounds are wrong they are an error, while the yes-or-no questions say no.
-/

set_option autoImplicit false

namespace Edid

/-- A short audio descriptor: a coding, a number of channels less one, sampling rates by bit,
and a byte that depends on the coding. -/
structure AudioFormat where
  coding : Nat
  channels : Nat
  rates : Nat
  detail : Nat
  deriving DecidableEq, Repr

def AudioFormat.ofBytes (bytes : Byte × Byte × Byte) : AudioFormat where
  coding := bytes.1.toNat / 8 % 16
  channels := bytes.1.toNat % 8
  rates := bytes.2.1.toNat % 128
  detail := bytes.2.2.toNat

namespace Blob

/-- The data blocks that audio details are read from: those of revision 3 data. -/
def audioDetails (blob : Blob) : Except Error (List Cta.DataBlock) :=
  match blob.cta? with
  | none => .ok []
  | some collection => if collection.revision < 3 then .ok [] else collection.dataBlocks

/-- The formats in the first audio data block. -/
def audioFormats (blob : Blob) : Except Error (List AudioFormat) :=
  blob.audioDetails.map fun blocks =>
    match blocks.find? fun block => block.tag == Cta.DataBlock.audioTag with
    | some block => (triples block.payload).map AudioFormat.ofBytes
    | none => []

/-- The speakers, a bit for each group, in the first speaker data block of three bytes. -/
def speakers (blob : Blob) : Except Error (Option Byte) :=
  blob.audioDetails.map fun blocks =>
    (blocks.find? fun block =>
      block.tag == Cta.DataBlock.speakerTag && block.length == 3).map (·.byte 1)

/-- The display plays sound: it has the basic audio bit or an audio data block. -/
def hasAudio (blob : Blob) : Bool :=
  match blob.cta? with
  | none => false
  | some collection =>
      collection.capabilityBits.bit 6 ||
        blob.ctaBlocks.any fun block => block.tag == Cta.DataBlock.audioTag

/-- The display is an HDMI display and no DVI one. -/
def isHdmi (blob : Blob) : Bool :=
  blob.ctaBlocks.any Cta.DataBlock.isHdmi

end Blob

end Edid
