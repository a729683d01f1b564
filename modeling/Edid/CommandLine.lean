import Edid.Modes.Preferred
import Edid.Report
import Edid.Text.Utf8

/-!
# The command line

What the arguments ask for and what is answered. Arguments are read from left to right and the
first one that makes no sense, or asks for help, decides. Options may come before or behind the
input and take their value behind an equals sign or as the next argument; two dashes end them.
Reading the input is left to the caller, who passes on what came of it.
-/

set_option autoImplicit false

namespace Edid.CommandLine

/-! ## Numbers in arguments -/

/-- Decimal digits, at least one, and nothing else. -/
def number? (digits : List Char) : Option Nat :=
  if digits.isEmpty || !digits.all Char.isDigit then none
  else some (digits.foldl (fun value digit => 10 * value + (digit.toNat - 48)) 0)

/-- A number below the bound, with or without a plus sign. -/
def bounded? (bound : Nat) (text : List Char) : Option Nat :=
  let digits :=
    match text with
    | '+' :: rest => rest
    | _ => text
  (number? digits).filter (· < bound)

/-- The score of a repair policy, before it is tested for sense: a byte. Zero may be negative. -/
def score? (text : List Char) : Option Nat :=
  match text with
  | '-' :: rest => (number? rest).filter (· = 0)
  | _ => bounded? 256 text

/-- Two numbers of 16 bits around the first `x`. -/
def size? (text : List Char) : Option (Nat × Nat) :=
  let isCross := fun character : Char => character = 'x' ∨ character = 'X'
  match text.dropWhile fun character => !isCross character with
  | [] => none
  | _ :: height => do
      let width ← bounded? 0x10000 (text.takeWhile fun character => !isCross character)
      let height ← bounded? 0x10000 height
      some (width, height)

/-! ## Reading the arguments -/

/-- What the arguments have said so far. -/
structure Options where
  input : Option String := none
  hex : Bool := false
  modesOnly : Bool := false
  threshold : Option Nat := none
  fallback : Option (Nat × Nat) := none
  deriving DecidableEq, Repr

/-- Why the arguments are not read to the end. -/
inductive Interruption where
  | help
  | misuse
  deriving DecidableEq, Repr

/-- Options that take no value. -/
inductive Switch where
  | hex
  | modesOnly
  deriving DecidableEq, Repr

/-- Options that take a value. -/
inductive Setting where
  | threshold
  | fallback
  deriving DecidableEq, Repr

/-- An argument. A word is an input where one may stand. -/
inductive Argument where
  | help
  | switch (switch : Switch)
  | setting (setting : Setting) (value : Option (List Char))
  | endOfOptions
  | word (text : String)
  | unknown
  deriving DecidableEq, Repr

/-- The option of that name; a value that it does not take makes it unknown. -/
def Argument.ofLongOption (name : String) (value : Option (List Char)) : Argument :=
  match name, value with
  | "help", none => .help
  | "hex", none => .switch .hex
  | "modes-only", none => .switch .modesOnly
  | "fixup-threshold", _ => .setting .threshold value
  | "fallback", _ => .setting .fallback value
  | _, _ => .unknown

def Argument.ofString (argument : String) : Argument :=
  match argument.toList with
  | ['-', '-'] => .endOfOptions
  | '-' :: '-' :: option =>
      ofLongOption (String.ofList (option.takeWhile (· ≠ '=')))
        (option.dropWhile (· ≠ '=')).tail?
  | '-' :: 'h' :: _ => .help
  | '-' :: _ :: _ => .unknown
  | _ => .word argument

namespace Options

/-- Sets a switch, which may be given once. -/
def withSwitch? (options : Options) : Switch → Option Options
  | .hex => if options.hex then none else some { options with hex := true }
  | .modesOnly => if options.modesOnly then none else some { options with modesOnly := true }

/-- Gives a setting its value, once and if the value makes sense. -/
def withSetting? (options : Options) (setting : Setting) (value : List Char) : Option Options :=
  match setting with
  | .threshold =>
      if options.threshold.isSome then none
      else (score? value).map fun score => { options with threshold := some score }
  | .fallback =>
      if options.fallback.isSome then none
      else (size? value).map fun size => { options with fallback := some size }

/-- Takes a word as the input. There is one at most, and it is not empty. -/
def withInput? (options : Options) (word : String) : Option Options :=
  if options.input.isSome || word.isEmpty then none else some { options with input := some word }

/-- Reads words to the end. -/
def readWords (options : Options) : List String → Except Interruption Options
  | [] => .ok options
  | word :: rest =>
      match options.withInput? word with
      | some options => options.readWords rest
      | none => .error .misuse

/-- Reads arguments to the end. -/
def read (options : Options) : List String → Except Interruption Options
  | [] => .ok options
  | argument :: rest =>
      match Argument.ofString argument with
      | .help => .error .help
      | .unknown => .error .misuse
      | .endOfOptions => options.readWords rest
      | .word word =>
          match options.withInput? word with
          | some options => options.read rest
          | none => .error .misuse
      | .switch switch =>
          match options.withSwitch? switch with
          | some options => options.read rest
          | none => .error .misuse
      | .setting setting (some value) =>
          match options.withSetting? setting value with
          | some options => options.read rest
          | none => .error .misuse
      | .setting setting none =>
          match rest with
          | [] => .error .misuse
          | next :: rest =>
              match Argument.ofString next with
              | .word value =>
                  match options.withSetting? setting value.toList with
                  | some options => options.read rest
                  | none => .error .misuse
              | _ => .error .misuse

end Options

/-! ## Commands and answers -/

/-- An input to decode and how to show it. -/
structure DecodeRequest where
  input : String
  hex : Bool
  modesOnly : Bool
  threshold : Nat
  deriving DecidableEq, Repr

inductive Command where
  | help
  | misuse
  /-- List what to assume of a display without data. -/
  | fallback (width height : Nat)
  | decode (request : DecodeRequest)
  deriving DecidableEq, Repr

/-- A fallback size goes before an input; one of the two must be given. -/
def Command.ofOptions (options : Options) : Command :=
  match options.fallback, options.input with
  | some (width, height), _ => .fallback width height
  | none, some input =>
      .decode
        { input := input
          hex := options.hex
          modesOnly := options.modesOnly
          threshold := options.threshold.getD RepairPolicy.standard.threshold }
  | none, none => .misuse

def Command.ofArguments (arguments : List String) : Command :=
  match ({} : Options).read arguments with
  | .ok options => .ofOptions options
  | .error .help => .help
  | .error .misuse => .misuse

/-- What a run leaves behind. -/
structure Outcome where
  status : Nat
  output : String := ""
  errors : String := ""
  deriving DecidableEq, Repr

/-- What failed and what lies behind it, outermost first. -/
structure Failure where
  message : String
  causes : List String := []
  deriving DecidableEq, Repr

def text (lines : List String) : String :=
  String.join (lines.map (· ++ "\n"))

/-- Causes are indented, and numbered if there are several. -/
def Failure.lines (failure : Failure) : List String :=
  let causes :=
    match failure.causes with
    | [] => []
    | [cause] => ["", "Caused by:", "    " ++ cause]
    | causes =>
        ["", "Caused by:"] ++ causes.zipIdx.map fun (cause, position) =>
          "    " ++ Text.decimal position ++ ": " ++ cause
  ("Error: " ++ failure.message) :: causes

def Outcome.ofResult : Except Failure (List String) → Outcome
  | .ok lines => { status := 0, output := text lines }
  | .error failure => { status := 1, errors := text failure.lines }

/-- The fallback modes, with the given size as the preferred one. -/
def fallbackReport (width height : Nat) : List String :=
  Report.modes (preferSize width height (fallbackModes width height))

/-- Why an input cannot be read. -/
inductive InputFault where
  | notFound
  /-- The device behind the name answers no read. -/
  | deviceFailure
  | noDevice
  | denied
  /-- A name stands below something that is no directory. -/
  | notDirectory
  | directory
  | nameTooLong
  | linkCycle
  | other (description : String)
  deriving DecidableEq, Repr

/-- The fault that the operating system reports by that number. -/
def InputFault.ofNumber? : Nat → Option InputFault
  | 2 => some .notFound
  | 5 => some .deviceFailure
  | 6 => some .noDevice
  | 13 => some .denied
  | 20 => some .notDirectory
  | 21 => some .directory
  | 36 => some .nameTooLong
  | 40 => some .linkCycle
  | _ => none

/-- The words of the operating system, with its number for the fault. -/
def InputFault.message : InputFault → String
  | .notFound => "No such file or directory (os error 2)"
  | .deviceFailure => "Input/output error (os error 5)"
  | .noDevice => "No such device or address (os error 6)"
  | .denied => "Permission denied (os error 13)"
  | .notDirectory => "Not a directory (os error 20)"
  | .directory => "Is a directory (os error 21)"
  | .nameTooLong => "File name too long (os error 36)"
  | .linkCycle => "Too many levels of symbolic links (os error 40)"
  | .other description => description

namespace DecodeRequest

/-- A single dash stands for standard input. -/
def readsStandardInput (request : DecodeRequest) : Bool :=
  request.input == "-"

/-- A threshold that no header can reach is refused before anything is read. -/
def failure? (request : DecodeRequest) : Option Failure :=
  if 8 < request.threshold then
    some
      { message :=
          "--fixup-threshold must be between 0 and 8, got " ++ Text.decimal request.threshold }
  else
    none

def unreadable (request : DecodeRequest) (fault : InputFault) : Failure where
  message := if request.readsStandardInput then "read EDID from stdin" else "read " ++ request.input
  causes := [fault.message]

/-- Decodes the bytes of the input, or the bytes that they spell out. -/
def decode (request : DecodeRequest) (codec : Text.Hex.Codec) (bytes : List Byte) :
    Except Failure Display :=
  let policy := RepairPolicy.ofScore request.threshold
  let undecoded (error : Error) : Failure :=
    { message := "decode EDID from " ++ request.input, causes := error.chain }
  if request.hex then
    match Text.Utf8.decode bytes with
    | .error fault => .error { message := "hex input is not UTF-8", causes := [fault.message] }
    | .ok characters => (parseText codec policy (String.ofList characters)).mapError undecoded
  else
    (parse policy bytes).mapError undecoded

def report (request : DecodeRequest) (display : Display) : List String :=
  if request.modesOnly then Report.modes display.modes else Report.display display

/-- The answer, given the bytes of the input or why they could not be read. -/
def outcome (request : DecodeRequest) (codec : Text.Hex.Codec)
    (input : Except InputFault (List Byte)) : Outcome :=
  .ofResult do
    let bytes ← input.mapError request.unreadable
    let display ← request.decode codec bytes
    .ok (request.report display)

end DecodeRequest

def usageLine : String :=
  "Usage: edid-probe [OPTIONS] [INPUT]"

def helpText : String :=
  text
    ["Decode an EDID blob and print the display info and synthesized mode list.",
      "",
      usageLine,
      "",
      "Arguments:",
      "  [INPUT]  EDID file path (`-` reads stdin)",
      "",
      "Options:",
      "      --hex                      Treat the input as a hex dump instead of raw bytes",
      "      --fixup-threshold <SCORE>  Header bytes (out of 8) that must match before a " ++
        "damaged header is repaired [default: 6]",
      "      --fallback <WxH>           Skip decoding and list the no-EDID fallback modes " ++
        "bounded by WxH (0x0 for no bound)",
      "      --modes-only               Print only the mode list",
      "  -h, --help                     Print help"]

/-- An answer, or the request whose input it waits for. -/
inductive Step where
  | finished (outcome : Outcome)
  | awaitInput (request : DecodeRequest)

def Command.step : Command → Step
  | .help => .finished { status := 0, output := helpText }
  | .misuse => .finished { status := 2, errors := text [usageLine] }
  | .fallback width height => .finished (.ofResult (.ok (fallbackReport width height)))
  | .decode request =>
      match request.failure? with
      | some failure => .finished (.ofResult (.error failure))
      | none => .awaitInput request

end Edid.CommandLine
