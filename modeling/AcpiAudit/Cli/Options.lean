import AcpiAudit.Cli.Argument
import AcpiAudit.Log.Level
import AcpiAudit.Report.Severity
import AcpiAudit.Table.Signature

/-!
The options of the command line. Arguments are taken from left to right. An option whose value is an
argument of its own, and a run of table names, stay open until something else begins, and are judged
then; an option with its value behind an equals sign is judged at once.
-/

set_option autoImplicit false

namespace AcpiAudit.Cli

structure Options where
  verbosity : Verbosity
  only : List Signature
  failOn : Severity
  files : List String
deriving Repr, DecidableEq

inductive Request where
  | help
  | version
  | audit (options : Options)
deriving Repr, DecidableEq

inductive UsageError where
  | missingRequiredArgument
  | valueValidation
  | unknownArgument
  | invalidValue
  | argumentConflict
  | tooManyValues
deriving Repr, DecidableEq

inductive Setting where
  | logLevel
  | only
  | failOn
deriving Repr, DecidableEq

def Setting.ofName? : String → Option Setting
  | "log-level" => some .logLevel
  | "only" => some .only
  | "fail-on" => some .failOn
  | _ => none

inductive Pending where
  | nothing
  | setting (setting : Setting) (value : Option String)
  | files (names : List String)
deriving Repr, DecidableEq

structure Progress where
  verbosity : Option Verbosity := none
  only : List Signature := []
  failOn : Option Severity := none
  files : List String := []
  pending : Pending := .nothing
  separated : Bool := false

namespace Progress

-- Sets what may be set once. That it is set already is judged before the value.
def setOnce {α : Type} (old new : Option α) : Except UsageError α :=
  match old, new with
  | some _, _ => .error .argumentConflict
  | none, none => .error .valueValidation
  | none, some value => .ok value

def assign (progress : Progress) (setting : Setting) (value : String) :
    Except UsageError Progress :=
  match setting with
  | .logLevel => do
    let verbosity ← setOnce progress.verbosity (Verbosity.ofText? value)
    return { progress with verbosity := some verbosity }
  | .only =>
    match Signature.ofText? value with
    | none => .error .valueValidation
    | some signature => .ok { progress with only := progress.only ++ [signature] }
  | .failOn => do
    let failOn ← setOnce progress.failOn (Severity.ofText? value)
    return { progress with failOn := some failOn }

def settle (progress : Progress) : Except UsageError Progress :=
  let settled := { progress with pending := .nothing }
  match progress.pending with
  | .nothing => .ok settled
  | .setting _ none => .error .invalidValue
  | .setting setting (some value) => settled.assign setting value
  | .files names =>
    if "" ∈ names then .error .invalidValue
    else .ok { settled with files := progress.files ++ names }

def addFile (progress : Progress) (name : String) : Except UsageError Progress :=
  match progress.pending with
  | .files names => .ok { progress with pending := .files (names ++ [name]) }
  | _ => do
    let settled ← progress.settle
    return { settled with pending := .files [name] }

def addPlain (progress : Progress) (text : String) : Except UsageError Progress :=
  match progress.pending with
  | .setting setting none => .ok { progress with pending := .setting setting (some text) }
  | _ => progress.addFile text

def addSetting (progress : Progress) (setting : Setting) (value : Option String) :
    Except UsageError Progress := do
  let settled ← progress.settle
  match value with
  | none => return { settled with pending := .setting setting none }
  | some value => settled.assign setting value

-- The verbosity of the environment counts only if the command line has none.
def chooseVerbosity (progress : Progress) (environment : Option String) :
    Except UsageError Verbosity :=
  match progress.verbosity, environment with
  | some verbosity, _ => .ok verbosity
  | none, none => .ok (.upTo .info)
  | none, some text =>
    match Verbosity.ofText? text with
    | none => .error .valueValidation
    | some verbosity => .ok verbosity

def finish (progress : Progress) (environment : Option String) : Except UsageError Request := do
  let settled ← progress.settle
  let verbosity ← settled.chooseVerbosity environment
  if settled.files.isEmpty then .error .missingRequiredArgument
  else
    return .audit {
      verbosity
      only := settled.only
      failOn := settled.failOn.getD .low
      files := settled.files }

end Progress

-- A request that needs no more arguments. Only what is pending can still stand in its way.
def answerNow (progress : Progress) (request : Request) : Except UsageError Request := do
  let _ ← progress.settle
  return request

def requestFrom (environment : Option String) (progress : Progress) :
    List String → Except UsageError Request
  | [] => progress.finish environment
  | text :: rest =>
    if progress.separated then do
      let next ← progress.addFile text
      requestFrom environment next rest
    else
      match Argument.ofText text with
      | .separator => requestFrom environment { progress with separated := true } rest
      | .plain text => do
        let next ← progress.addPlain text
        requestFrom environment next rest
      | .short letter =>
        if letter = 'h' then answerNow progress .help
        else if letter = 'V' then answerNow progress .version
        else .error .unknownArgument
      | .long "help" none => answerNow progress .help
      | .long "version" none => answerNow progress .version
      | .long "help" (some _) => .error .tooManyValues
      | .long "version" (some _) => .error .tooManyValues
      | .long name value =>
        match Setting.ofName? name with
        | none => .error .unknownArgument
        | some setting => do
          let next ← progress.addSetting setting value
          requestFrom environment next rest

def request (arguments : List String) (environment : Option String) : Except UsageError Request :=
  requestFrom environment {} arguments

end AcpiAudit.Cli
