import AcpiAudit.Log.Entry
import AcpiAudit.Record.Layout

set_option autoImplicit false

namespace AcpiAudit

structure Record where
  kind : Nat
  offset : Nat
  index : Nat
  bytes : Bytes
deriving Repr, DecidableEq

inductive WalkError where
  | headerTruncated (offset : Nat) (source : ReadError)
  | zeroLength (offset : Nat)
  | tooShort (offset length minimum : Nat)
  | outOfRange (offset length limit : Nat)
  | stopped (offset : Nat) (reason : String)
deriving Repr, DecidableEq

namespace WalkError

def offset : WalkError → Nat
  | .headerTruncated offset _ => offset
  | .zeroLength offset => offset
  | .tooShort offset _ _ => offset
  | .outOfRange offset _ _ => offset
  | .stopped offset _ => offset

def suffix : WalkError → String
  | .headerTruncated .. => "TruncatedSubtable"
  | .zeroLength .. => "StructLengthZero"
  | .tooShort .. => "BadSubtableLength"
  | .outOfRange .. => "OutOfRangeOffset"
  | .stopped .. => "Aborted"

def message : WalkError → String
  | .headerTruncated offset source =>
    let place := Hex.text offset
    let cause := source.message
    s!"sub-structure header at offset {place} is truncated: {cause}"
  | .zeroLength offset =>
    let place := Hex.text offset
    s!"sub-structure at offset {place} has zero length"
  | .tooShort offset length minimum =>
    let place := Hex.text offset
    s!"sub-structure at offset {place} has length {length}, shorter than its {minimum}-byte header"
  | .outOfRange offset length limit =>
    let place := Hex.text offset
    s!"sub-structure at offset {place} with length {length} runs past the end of the table " ++
      s!"({limit} bytes)"
  | .stopped offset reason =>
    let place := Hex.text offset
    s!"walk aborted at offset {place}: {reason}"

end WalkError

def walkTarget : String := "fwts_acpi::walker"

namespace Record

def length (record : Record) : Nat := record.bytes.length

def reader (record : Record) : Reader := ⟨record.bytes, 0⟩

-- The record at the start of `rest`, where `rest` is all that lies from `offset` on.
def ofBytes (layout : Layout) (offset index : Nat) (rest : Bytes) : Except WalkError Record :=
  let available := rest.length
  if available < layout.headerSize then
    .error (.headerTruncated offset (.truncated offset layout.headerSize available))
  else
    let length := layout.length.value rest
    if length = 0 then .error (.zeroLength offset)
    else if length < layout.headerSize then .error (.tooShort offset length layout.headerSize)
    else if available < length then .error (.outOfRange offset length (offset + available))
    else .ok ⟨layout.kind.value rest, offset, index, rest.take length⟩

theorem length_pos_of_ofBytes {layout : Layout} {offset index : Nat} {rest : Bytes}
    {record : Record} (found : ofBytes layout offset index rest = .ok record) :
    0 < record.length := by
  unfold ofBytes at found
  simp only at found
  repeat' split at found
  all_goals cases found
  simp only [length, List.length_take]
  omega

def entry (record : Record) : LogEntry :=
  let kind := Hex.text record.kind
  let place := Hex.text record.offset
  ⟨.trace, walkTarget,
    s!"sub-structure #{record.index} type {kind} at {place}, {record.length} bytes"⟩

end Record

def Reader.recordAt (reader : Reader) (layout : Layout) (offset : Nat) : Except WalkError Record :=
  Record.ofBytes layout offset 0 (reader.bytes.drop offset)

def Reader.locate {m : Type → Type} [Monad m] [LogWriter m] (reader : Reader) (layout : Layout)
    (offset : Nat) : m (Except WalkError Record) := do
  match reader.recordAt layout offset with
  | .ok record =>
    LogWriter.write record.entry
    return .ok record
  | .error error => return .error error

end AcpiAudit
