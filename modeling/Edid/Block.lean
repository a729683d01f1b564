import Edid.Byte

/-!
# Blocks

An EDID is a sequence of blocks of 128 bytes. The first is the base block, marked by a fixed
header; the others are extensions, marked by their first byte. The bytes of a block sum to zero
modulo 256, and its last byte is chosen so that they do.
-/

set_option autoImplicit false

namespace Edid

abbrev Block := Vector Byte 128

namespace Block

/-- A block is not empty, so that numerals are positions in it. -/
instance positions : @NeZero Nat Zero.ofOfNat0 128 :=
  ⟨by decide⟩

def byte (block : Block) (position : Fin 128) : Byte :=
  block[position.val]

/-- The eight bytes at the start of every base block. -/
def header : Vector Byte 8 :=
  #v[0x00, 0xff, 0xff, 0xff, 0xff, 0xff, 0xff, 0x00]

/-- How many of the first eight bytes are those of the header. -/
def headerScore (block : Block) : Nat :=
  (header.toList.zip block.toList).countP fun (expected, found) => expected == found

/-- The block with the header put in place of its first eight bytes. -/
def withHeader (block : Block) : Block :=
  Vector.ofFn fun position =>
    if inHeader : position.val < 8 then header[position.val] else block[position]

/-- The sum of all bytes modulo 256. -/
def sum (block : Block) : Byte :=
  byteSum block.toList

/-- The last byte that makes the block sum to zero. -/
def checksum (block : Block) : Byte :=
  0 - byteSum (block.toList.take 127)

def isAllZero (block : Block) : Bool :=
  block.all (· == 0)

/-- Tags of the extensions that carry timings. -/
def ctaTag : Byte := 0x02
def timingBlockTag : Byte := 0x10
def displayIdTag : Byte := 0x70

/-- The byte that tells extensions apart. -/
def tag (block : Block) : Byte :=
  block.byte 0

/-- How many extensions a base block announces. -/
def extensionCount (block : Block) : Nat :=
  (block.byte 126).toNat

theorem countPosition_lt : 126 < 128 := by decide

theorem checksumPosition_lt : 127 < 128 := by decide

/-- The base block with another extension count and its last byte moved by the same amount the
other way, so that the sum of the block stays what it was. -/
def withExtensionCount (block : Block) (count : Byte) : Block :=
  (block.set 127 (block.byte 127 + (block.byte 126 - count)) checksumPosition_lt).set 126 count
    countPosition_lt

theorem extensionCount_withExtensionCount (block : Block) (count : Byte) :
    (block.withExtensionCount count).extensionCount = count.toNat :=
  congrArg UInt8.toNat (Vector.getElem_set_self _)

/-- The block at the front of a byte run and the bytes behind it; `none` if the run is too
short. -/
def takeFirst? (bytes : List Byte) : Option (Block × List Byte) :=
  splitFront? 128 bytes

/-- As many blocks as asked for from the front of a byte run; `none` if it is too short. -/
def takeMany? : Nat → List Byte → Option (List Block)
  | 0, _ => some []
  | count + 1, bytes =>
      match takeFirst? bytes with
      | none => none
      | some (block, rest) => (takeMany? count rest).map (block :: ·)

theorem length_of_takeMany? {count : Nat} {bytes : List Byte} {blocks : List Block}
    (taken : takeMany? count bytes = some blocks) : blocks.length = count := by
  induction count generalizing bytes blocks with
  | zero =>
      simp only [takeMany?, Option.some.injEq] at taken
      simp [← taken]
  | succ count ih =>
      simp only [takeMany?] at taken
      split at taken
      · contradiction
      · obtain ⟨others, found, rfl⟩ := Option.map_eq_some_iff.mp taken
        simp [ih found]

end Block

end Edid
