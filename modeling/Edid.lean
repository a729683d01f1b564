import Edid.Main
import Edid.Read
import Edid.Proofs.Retrieval
import Edid.Proofs.Machine.Parse
import Edid.Proofs.Refusal
import Edid.Proofs.Retrieval.Mark
import Edid.Proofs.Cta.Container
import Edid.Proofs.Modes.Preferred
import Edid.Proofs.Modes.Stereo
import Edid.Proofs.Capabilities.Kind
import Edid.Proofs.Capabilities.Y420
import Edid.Proofs.Capabilities.Analog
import Edid.Proofs.Cta.Rearrangement
import Edid.Proofs.Cta.Span
import Edid.Proofs.Capabilities.Order
import Edid.Proofs.Capabilities.Views
import Edid.Proofs.Machine.HdmiReads
import Edid.Proofs.Modes.HdmiFields
import Edid.Proofs.Modes.Rate
import Edid.Proofs.Modes.Inferred
import Edid.Proofs.Modes.Largest
import Edid.Proofs.Modes.Pairs
import Edid.Proofs.Vic.Search
import Edid.Proofs.Vic.Snapping
import Edid.Proofs.Modes.FrontPorch
import Edid.Proofs.Formula.Vertical
import Edid.Proofs.Machine.Formula
import Edid.Proofs.Modes.CvtCodes
import Edid.Proofs.Modes.Detailed
import Edid.Proofs.Modes.DisplayId
import Edid.Proofs.Modes.ReducedBlanking
import Edid.Proofs.Zeros
import Edid.Proofs.Blob.Dump
import Edid.Proofs.Block.Repair
import Edid.Proofs.Byte
import Edid.Proofs.Descriptor.DetailedTiming
import Edid.Proofs.DisplayId.Walk
import Edid.Proofs.Blob.Search
import Edid.Proofs.Descriptor.Slots
import Edid.Proofs.Capabilities.Y420Encoding
import Edid.Proofs.Modes.Established
import Edid.Proofs.Vic.Words
