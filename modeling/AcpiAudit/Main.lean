import AcpiAudit.Cli.Options
import AcpiAudit.Session

set_option autoImplicit false

namespace AcpiAudit.Command

def usage : String :=
  "Usage: acpi-audit [OPTIONS] <TABLE>...\n\n" ++
  "Audits raw dumps of ACPI tables.\n\n" ++
  "Options:\n" ++
  "      --log-level <LEVEL>   off, error, warn, info, debug or trace [env: FWTS_LOG] " ++
  "[default: info]\n" ++
  "      --only <SIG>          check only tables with this signature; may be repeated\n" ++
  "      --fail-on <SEVERITY>  exit with 1 on failures of this severity or worse " ++
  "[default: LOW]\n" ++
  "  -h, --help                show this help\n" ++
  "  -V, --version             show the version"

def version : String := "acpi-audit 0.1.0"

def reason : Cli.UsageError → String
  | .missingRequiredArgument => "no TABLE is given"
  | .valueValidation => "the value of an option is not valid"
  | .unknownArgument => "an option is not known"
  | .invalidValue => "a value is missing or empty"
  | .argumentConflict => "an option is given more than once"
  | .tooManyValues => "an option has a value but takes none"

def systemText? : Nat → Option String
  | 2 => some "No such file or directory"
  | 5 => some "Input/output error"
  | 13 => some "Permission denied"
  | 20 => some "Not a directory"
  | 21 => some "Is a directory"
  | 36 => some "File name too long"
  | 40 => some "Too many levels of symbolic links"
  | _ => none

-- The number of a system's error, which some calls give negated.
def systemNumber (number : UInt32) : Nat :=
  if number < 0x80000000 then number.toNat else 0x100000000 - number.toNat

def numbered (number : UInt32) (details : String) : String :=
  let text := (systemText? (systemNumber number)).getD details
  s!"{text} (os error {systemNumber number})"

def readFailure : IO.Error → String
  | .noFileOrDirectory _ number details => numbered number details
  | .inappropriateType _ number details => numbered number details
  | .permissionDenied _ number details => numbered number details
  | .invalidArgument _ number details => numbered number details
  | .resourceExhausted _ number details => numbered number details
  | .hardwareFault number details => numbered number details
  | .otherError number details => numbered number details
  | error => toString error

def readTable (name : String) : IO TableFile := do
  try
    let content ← IO.FS.readBinFile name
    return ⟨name, .ok content.toList⟩
  catch error => return ⟨name, .error (readFailure error)⟩

def audit (options : Cli.Options) : IO UInt32 := do
  let files ← options.files.mapM readTable
  let session := Session.run options.only options.failOn files
  for entry in options.verbosity.select session.log do
    IO.eprintln entry.line
  return session.value.toUInt32

end AcpiAudit.Command

open AcpiAudit in
def main (arguments : List String) : IO UInt32 := do
  match Cli.request arguments (← IO.getEnv "FWTS_LOG") with
  | .ok .help =>
    IO.println Command.usage
    return 0
  | .ok .version =>
    IO.println Command.version
    return 0
  | .ok (.audit options) => Command.audit options
  | .error error =>
    IO.eprintln s!"error: {Command.reason error}\n\n{Command.usage}"
    return 2
