import Runbook.PlanService

/-! The command line: one file and a few options. A value is checked when the next argument
that is known comes up, or at the end, so an unknown argument is reported before it. -/
namespace Runbook

structure CommandLine where
  file : Text
  noSubmit : Bool := false
  endpoint : Text := PlanService.defaultEndpoint
  /-- In seconds. -/
  timeout : Option Nat := none
  verbose : Nat := 0
  quiet : Bool := false
  deriving DecidableEq, Repr

namespace CommandLine

/-- Why a command line is not carried out: it asks for information or is faulty. -/
inductive Stop
  | help
  | version
  | unknownArgument
  | tooManyValues
  | invalidValue
  | argumentConflict
  | valueValidation
  | missingRequiredArgument
  deriving DecidableEq, Repr

namespace Stop

def exitCode : Stop → Nat
  | .help | .version => 0
  | _ => 2

end Stop

inductive Flag
  | noSubmit | verbose | quiet | help | version
  deriving DecidableEq, Repr

/-- Arguments that take a value. -/
inductive Valued
  | file | endpoint | timeout
  deriving DecidableEq, Repr

/-- What a long name stands for. -/
def long? (name : Text) : Option (Flag ⊕ Valued) :=
  [("no-submit", .inl .noSubmit), ("verbose", .inl .verbose), ("quiet", .inl .quiet),
    ("help", .inl .help), ("version", .inl .version), ("dalibo-url", .inr .endpoint),
    ("timeout", .inr .timeout)].lookup (String.ofList name)

def short? : Char → Option Flag
  | 'v' => some .verbose
  | 'q' => some .quiet
  | 'h' => some .help
  | 'V' => some .version
  | _ => none

/-- What has been read. -/
structure Progress where
  file : Option Text := none
  noSubmit : Bool := false
  endpoint : Option Text := none
  timeout : Option Nat := none
  verbose : Nat := 0
  quiet : Bool := false
  /-- An argument that still has to be checked, with its value if that has come. -/
  pending : Option (Valued × Option Text) := none
  /-- The place of the file is taken. -/
  fileGiven : Bool := false
  /-- Only files may follow. -/
  literal : Bool := false
  deriving DecidableEq, Repr

namespace Progress

/-- A whole number of at most 64 bits, possibly with a plus sign. -/
def seconds? (value : Text) : Option Nat :=
  let digits := (Text.after? "+" value).getD value
  if digits.isEmpty || !digits.all Char.isDigit then none
  else
    let n := digits.foldl (fun n c => n * 10 + (c.toNat - '0'.toNat)) 0
    if n < Nat.pow 2 64 then some n else none

def assign (argument : Valued) (value : Option Text) (progress : Progress) :
    Except Stop Progress :=
  match value with
  | none => .error .invalidValue
  | some value =>
    match argument with
    | .file =>
      if progress.file.isSome then .error .argumentConflict
      else if value.isEmpty then .error .invalidValue
      else .ok { progress with file := some value }
    | .endpoint =>
      if progress.endpoint.isSome then .error .argumentConflict
      else .ok { progress with endpoint := some value }
    | .timeout =>
      if progress.timeout.isSome then .error .argumentConflict
      else match seconds? value with
        | some seconds => .ok { progress with timeout := some seconds }
        | none => .error .valueValidation

def settle (progress : Progress) : Except Stop Progress :=
  match progress.pending with
  | some (argument, value) => assign argument value { progress with pending := none }
  | none => .ok progress

def raise (flag : Flag) (progress : Progress) : Except Stop Progress := do
  let progress ← progress.settle
  match flag with
  | .help => .error .help
  | .version => .error .version
  | .verbose => .ok { progress with verbose := min (progress.verbose + 1) 255 }
  | .noSubmit =>
    if progress.noSubmit then .error .argumentConflict else .ok { progress with noSubmit := true }
  | .quiet =>
    if progress.quiet then .error .argumentConflict else .ok { progress with quiet := true }

/-- A long argument after its two hyphens; an equals sign attaches a value. -/
def long (text : Text) (progress : Progress) : Except Stop Progress :=
  let attached := (text.dropWhile (· != '=')).tail?
  match long? (text.takeWhile (· != '=')) with
  | none => .error .unknownArgument
  | some (.inl flag) => if attached.isSome then .error .tooManyValues else progress.raise flag
  | some (.inr argument) => do
    let progress ← progress.settle
    if attached.isSome then progress.assign argument attached
    else .ok { progress with pending := some (argument, none) }

/-- Short arguments after their common hyphen. -/
def short (letters : Text) (progress : Progress) : Except Stop Progress :=
  letters.foldlM (fun progress letter =>
    match short? letter with
    | some flag => progress.raise flag
    | none => .error .unknownArgument) progress

/-- Takes the place of the file. -/
def positional (text : Text) (progress : Progress) : Except Stop Progress :=
  if progress.fileGiven then .error .unknownArgument
  else do
    let progress ← progress.settle
    .ok { progress with pending := some (.file, some text), fileGiven := true }

def read (progress : Progress) (argument : Text) : Except Stop Progress :=
  if progress.literal then progress.positional argument
  else match argument with
    | ['-', '-'] => .ok { progress with literal := true }
    | '-' :: '-' :: text => progress.long text
    | '-' :: letter :: letters => progress.short (letter :: letters)
    | _ =>
      match progress.pending with
      | some (awaiting, none) => .ok { progress with pending := some (awaiting, some argument) }
      | _ => progress.positional argument

def finish (progress : Progress) : Except Stop CommandLine := do
  let progress ← progress.settle
  if progress.quiet && 0 < progress.verbose then throw .argumentConflict
  match progress.file with
  | none => throw .missingRequiredArgument
  | some file =>
    return {
      file
      noSubmit := progress.noSubmit
      endpoint := progress.endpoint.getD PlanService.defaultEndpoint
      timeout := progress.timeout
      verbose := progress.verbose
      quiet := progress.quiet }

end Progress

def parse (arguments : List Text) : Except Stop CommandLine := do
  (← arguments.foldlM Progress.read {}).finish

/-- How much the log shows. -/
def logLevel (line : CommandLine) : Text :=
  if line.quiet then "warn"
  else match line.verbose with
    | 0 => "info"
    | 1 => "debug"
    | _ => "trace"

end CommandLine
end Runbook
