import AcpiAudit.Audit.Check
import AcpiAudit.Text.Quoted

set_option autoImplicit false

namespace AcpiAudit.Ibft

open Audit

def target : String := "fwts_acpi_tables::ibft"

def controlOffset : Nat := Header.size + 12

def controlId : Nat := 1

def leastControlLength : Nat := 18

def firstPointer : Nat := 8

def layout : Layout := ⟨⟨0, .one⟩, ⟨2, .two⟩⟩

inductive Slot where
  | initiator
  | nic (number : Nat)
  | target (number : Nat)
deriving Repr, DecidableEq

namespace Slot

def all : List Slot := [initiator, nic 0, target 0, nic 1, target 1]

def id : Slot → Nat
  | initiator => 2
  | nic _ => 3
  | target _ => 4

def length : Slot → Nat
  | initiator => 74
  | nic _ => 102
  | target _ => 54

def greatestFlag : Slot → Nat
  | initiator => 1
  | nic _ => 2
  | target _ => 3

def name : Slot → String
  | initiator => "Initiator"
  | nic _ => "NIC"
  | target _ => "Target"

def number? : Slot → Option Nat
  | initiator => none
  | nic number => some number
  | target number => some number

def tag : Slot → String
  | initiator => "Initiator"
  | nic number => s!"Nic({number})"
  | target number => s!"Target({number})"

end Slot

def auditControl (control : Record) : Audit Bool := do
  let idOk ← require (Rule.equals control.kind controlId) .high "BadControlId"
    "Control Structure ID"
  let lengthOk ← require (Rule.atLeast control.length leastControlLength) .high
    "BadControlLength" "Control Structure Length"
  let version ← control.reader.u8 1
  expect (Rule.equals version 1) .medium "BadControlVersion" "Control Structure Version"
  let index ← control.reader.u8 4
  expect (Rule.equals index 0) .medium "BadControlIndex" "Control Structure Index"
  let flags ← control.reader.u8 5
  expect (Rule.clearBits flags 1 7) .medium "ReservedBitsSet" "Control Structure Flags"
  write .debug target s!"iBFT control structure: {control.length} bytes"
  return idOk && lengthOk

-- A string that the record refers to by length and offset at `place`. The string itself lies
-- anywhere in the table.
def auditString (table : Reader) (record : Record) (place : Nat) (name : String) :
    Audit Unit := do
  let length ← record.reader.u16 place
  let offset ← record.reader.u16 (place + 2)
  let start := Hex.text offset
  if length = 0 then return ()
  else
    match table.text offset length with
    | .ok content =>
      let quoted := Quoted.text content
      write .trace target s!"iBFT {name}: {quoted}"
    | .error (.truncated ..) =>
      fail .high "BadStringOffset" s!"{name} ({length} bytes at {start}) lies outside the table"
    | .error (.nonAscii ..) =>
      fail .low "NonAsciiString" s!"{name} at {start} contains non-ASCII bytes"

def auditNic (table : Reader) (record : Record) : Audit Unit := do
  let subnet ← record.reader.u8 22
  expect (Rule.within subnet 0 128) .medium "BadSubnetPrefix" "NIC Subnet Mask Prefix"
  auditString table record 98 "NIC Host Name"

def auditTarget (table : Reader) (record : Record) : Audit Unit := do
  let chapType ← record.reader.u8 32
  expect (Rule.within chapType 0 2) .medium "BadChapType" "Target CHAP Type"
  let association ← record.reader.u8 33
  expect (Rule.within association 0 1) .medium "BadNicAssociation" "Target NIC Association"
  auditString table record 34 "Target Name"
  auditString table record 38 "Target CHAP Name"
  auditString table record 42 "Target CHAP Secret"
  auditString table record 46 "Target Reverse CHAP Name"
  auditString table record 50 "Target Reverse CHAP Secret"

def auditContent (table : Reader) (record : Record) : Slot → Audit Unit
  | .initiator => auditString table record 70 "Initiator Name"
  | .nic _ => auditNic table record
  | .target _ => auditTarget table record

def auditNumber (slot : Slot) (record : Record) : Audit Unit := do
  match slot.number? with
  | none => return ()
  | some number =>
    let index ← record.reader.u8 4
    expect (Rule.equals index number) .medium "BadStructureIndex" slot.name

def auditFields (table : Reader) (slot : Slot) (record : Record) : Audit Unit := do
  let version ← record.reader.u8 1
  expect (Rule.equals version 1) .medium "BadStructureVersion" slot.name
  auditNumber slot record
  let flags ← record.reader.u8 5
  expect (Rule.clearBits flags (slot.greatestFlag + 1) 7) .medium "ReservedBitsSet" slot.name
  auditContent table record slot

def auditRecord (table : Reader) (slot : Slot) (record : Record) : Audit Unit := do
  if ← require (Rule.equals record.kind slot.id) .high "BadStructureId" slot.name then
    if ← require (Rule.equals record.length slot.length) .high "BadStructureLength"
        slot.name then
      auditFields table slot record
    else return ()
  else return ()

def auditSlot (table : Reader) (slot : Slot) (pointer : Nat) : Audit Unit := do
  if pointer = 0 then write .trace target s!"iBFT {slot.tag} not present"
  else
    let place := Hex.text pointer
    failIf (pointer % 8 ≠ 0) .low "UnalignedStructure"
      s!"{slot.name} structure offset {place} is not 8-byte aligned"
    match ← table.locate layout pointer with
    | .ok record => auditRecord table slot record
    | .error error => reportDefect error

-- The slots for which the control structure has room, with their pointers.
def slots (control : Record) : List (Slot × Nat) :=
  Slot.all.zip (Bytes.words (control.bytes.drop firstPointer))

def body (admitted : Admitted) : Audit Unit := do
  let table := admitted.reader
  let reserved ← table.read Header.size 12
  expect (Rule.zeroBytes reserved) .medium "ReservedNonZero" "Reserved"
  match ← table.locate layout controlOffset with
  | .error error => reportDefect error
  | .ok control =>
    if ← auditControl control then
      (slots control).forM fun entry => auditSlot table entry.1 entry.2
    else return ()

def check : Check where
  signature := .ibft
  name := "iSCSI Boot Firmware Table"
  fixedSize _ := controlOffset
  body _ := body

end AcpiAudit.Ibft
