import AcpiAudit.Checks.Registry
import AcpiAudit.Log.Emission

set_option autoImplicit false

namespace AcpiAudit

structure TableFile where
  name : String
  content : Except String Bytes

structure NamedReport where
  name : String
  report : Report
deriving Repr, DecidableEq

namespace Session

def target : String := "acpi_check"

def reportName (signature : Signature) (ordinal : Nat) : String :=
  if ordinal = 0 then signature.text else s!"{signature.text}#{ordinal}"

def tooShort (path : String) (error : ReadError) : Report :=
  ⟨[.failed .critical "TableTruncated"
    s!"{path} is too short to be an ACPI table: {error.message}"]⟩

def selects (only : List Signature) (signature : Signature) : Bool :=
  only.isEmpty || only.contains signature

abbrev Counters := List (Signature × UInt32)

namespace Counters

def next (counters : Counters) (signature : Signature) : UInt32 :=
  (counters.lookup signature).getD 0

def advance (signature : Signature) : Counters → Counters
  | [] => [(signature, 1)]
  | (other, number) :: rest =>
    if other = signature then (other, number + 1) :: rest
    else (other, number) :: advance signature rest

def take (signature : Signature) (counters : Counters) : Nat × Counters :=
  ((counters.next signature).toNat, counters.advance signature)

end Counters

-- A table takes its number from the moment it is selected, also when there is no check for it.
def examineBy {σ : Type} (take : Signature → σ → Nat × σ) (only : List Signature) (tables : σ)
    (path : String) (data : Bytes) : Logged (Option NamedReport × σ) := do
  match Image.ofBytes data 0 0 with
  | .error error => return (some ⟨path, tooShort path error⟩, tables)
  | .ok image =>
    let signature := image.signature
    if selects only signature then
      let (ordinal, tables) := take signature tables
      match ← Registry.report? { image with ordinal } with
      | some report => return (some ⟨reportName signature ordinal, report⟩, tables)
      | none =>
        LogWriter.write
          ⟨.warn, target, s!"{path}: no check for {signature.text} tables, skipped"⟩
        return (none, tables)
    else
      LogWriter.write ⟨.debug, target, s!"{path}: {signature.text} not selected"⟩
      return (none, tables)

def checkFile : List Signature → Counters → String → Bytes →
    Logged (Option NamedReport × Counters) :=
  examineBy Counters.take

-- The same without counters: the tables that came before are counted again for each number.
def examine : List Signature → List Signature → String → Bytes →
    Logged (Option NamedReport × List Signature) :=
  examineBy fun signature seen => (seen.count signature, signature :: seen)

end Session

structure Session where
  counters : Session.Counters := []
  total : Summary := {}
  checked : Nat := 0
deriving Repr, DecidableEq

namespace Session

def unreadable : Summary := ⟨0, 1, 0, 0, .single .critical⟩

def addFile (only : List Signature) (session : Session) (file : TableFile) : Logged Session := do
  match file.content with
  | .error reason =>
    LogWriter.write ⟨.error, target, s!"{file.name}: {reason}"⟩
    return { session with total := session.total.merge unreadable }
  | .ok data =>
    match ← checkFile only session.counters file.name data with
    | (none, counters) => return { session with counters }
    | (some found, counters) =>
      Logged.mk (found.report.entries found.name)
        ⟨counters, session.total.merge found.report.summary, session.checked + 1⟩

def addFiles (only : List Signature) (session : Session) (files : List TableFile) :
    Logged Session :=
  files.foldlM (addFile only) session

def conclude (session : Session) (failOn : Severity) : Logged Nat := do
  let total := session.total
  LogWriter.write ⟨.info, target,
    s!"{session.checked} tables checked: {total.passed} passed, {total.failed} failed, " ++
      s!"{total.warnings} warnings"⟩
  let failing := total.failedAtLeast failOn
  if 0 < failing then
    LogWriter.write ⟨.error, target, s!"{failing} failures at {failOn.text} or above"⟩
    return 1
  else return 0

def run (only : List Signature) (failOn : Severity) (files : List TableFile) : Logged Nat := do
  let session ← addFiles only {} files
  session.conclude failOn

end Session

end AcpiAudit
