import AcpiAudit.Record.Course

set_option autoImplicit false

namespace AcpiAudit

structure RecordStream where
  reader : Reader
  layout : Layout
  advance : Advance
  offset : Nat
  index : Nat := 0
  finished : Bool := false

def Reader.stream (reader : Reader) (layout : Layout) (advance : Advance) (start : Nat) :
    RecordStream :=
  { reader, layout, advance, offset := start }

namespace RecordStream

def next (stream : RecordStream) : Logged (Option (Except WalkError Record) × RecordStream) := do
  if stream.finished then return (none, stream)
  else if stream.reader.limit ≤ stream.offset then
    LogWriter.write (Course.doneEntry stream.offset stream.index)
    return (none, { stream with finished := true })
  else
    match Record.ofBytes stream.layout stream.offset stream.index
        (stream.reader.bytes.drop stream.offset) with
    | .ok record =>
      LogWriter.write record.entry
      let offset := min (stream.offset + stream.advance.step record) greatestOffset
      return (some (.ok record), { stream with offset, index := stream.index + 1 })
    | .error error => return (some (.error error), { stream with finished := true })

end RecordStream

end AcpiAudit
