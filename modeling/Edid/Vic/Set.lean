import Edid.Standard.Formats

/-!
# Sets of video identification codes

A set of codes is a word with one bit for each code.
-/

set_option autoImplicit false

namespace Edid

structure VicSet where
  members : BitVec 256
  deriving DecidableEq, Repr

namespace VicSet

def empty : VicSet :=
  ⟨0⟩

instance : Inhabited VicSet :=
  ⟨empty⟩

def insert (set : VicSet) (code : Vic) : VicSet :=
  ⟨set.members ||| BitVec.twoPow 256 code.toNat⟩

def contains (set : VicSet) (code : Vic) : Bool :=
  set.members.getLsbD code.toNat

def isEmpty (set : VicSet) : Bool :=
  set.members == 0

/-- The members in ascending order. -/
def toList (set : VicSet) : List Vic :=
  ((List.range 256).map UInt8.ofNat).filter set.contains

def insertAll (set : VicSet) (codes : List Vic) : VicSet :=
  codes.foldl insert set

end VicSet

end Edid
