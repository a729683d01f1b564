import Edid.CommandLine
import Edid.Text.Hex.Plain

/-!
# The program

Reads the arguments and the input that they name, and writes the answer.
-/

set_option autoImplicit false

open Edid

/-- The number of a fault. Some calls report it negated. -/
def faultNumber (code : UInt32) : Nat :=
  if code < 0x80000000 then code.toNat else (0 - code).toNat

/-- The number that came with an error, where files have one. -/
def errorCode? : IO.Error → Option UInt32
  | .noFileOrDirectory _ code _ | .permissionDenied _ code _ | .inappropriateType _ code _
  | .invalidArgument _ code _ | .noSuchThing _ code _ | .hardwareFault code _ => some code
  | _ => none

def inputFault (error : IO.Error) : CommandLine.InputFault :=
  ((errorCode? error).bind fun code => CommandLine.InputFault.ofNumber? (faultNumber code)).getD
    (.other (toString error))

/-- The bytes of the input that a request names. -/
def readInput (request : CommandLine.DecodeRequest) : IO (List Byte) := do
  if request.readsStandardInput then
    return (← (← IO.getStdin).readBinToEnd).toList
  else
    return (← IO.FS.readBinFile request.input).toList

def write (outcome : CommandLine.Outcome) : IO UInt32 := do
  IO.print outcome.output
  IO.eprint outcome.errors
  return UInt32.ofNat outcome.status

def main (arguments : List String) : IO UInt32 := do
  match (CommandLine.Command.ofArguments arguments).step with
  | .finished outcome => write outcome
  | .awaitInput request =>
      let input ←
        try
          pure (.ok (← readInput request))
        catch fault =>
          pure (.error (inputFault fault))
      write (request.outcome .plain input)
