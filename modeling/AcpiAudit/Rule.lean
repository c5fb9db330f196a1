import AcpiAudit.Bytes.Basic
import AcpiAudit.Report.Outcome
import AcpiAudit.Table.AddressSpace
import AcpiAudit.Table.Guid

/-!
Rules on the value of a field. Each one gives a pass, or a failure of medium grade under a code of
its own; who applies the rule decides on the final grade and code.
-/

set_option autoImplicit false

namespace AcpiAudit.Rule

def zero (value : Nat) : Outcome :=
  let shown := Hex.text value
  if value = 0 then .passed
  else .failure "ReservedNonZero" s!"reserved field must be zero, got {shown}"

def zeroBytes (bytes : Bytes) : Outcome :=
  match bytes.firstWhere (· != 0) with
  | none => .passed
  | some (byte, index) =>
    let shown := Hex.byteText byte.toNat
    .failure "ReservedNonZero" s!"reserved bytes must be zero, byte {index} is {shown}"

def mask (low high : Nat) : Nat := (1 <<< (high - low + 1) - 1) <<< low

-- The bits between two ends are clear. The ends may be given in either order, and bits past 127 do
-- not count.
def clearBits (value one other : Nat) : Outcome :=
  let low := min one other
  let high := min (max one other) 127
  if 127 < low then .passed
  else
    let set := value &&& mask low high
    if set = 0 then .passed
    else
      let shown := Hex.text value
      let offending := Hex.text set
      .failure "ReservedBitsSet"
        s!"reserved bits [{high}:{low}] must be zero, got {shown} (set: {offending})"

def equals (value expected : Nat) : Outcome :=
  let shown := Hex.text value
  let wanted := Hex.text expected
  if value = expected then .passed
  else .failure "BadFixedValue" s!"expected {wanted}, got {shown}"

def oneOf (value : Nat) (allowed : List Nat) : Outcome :=
  let shown := Hex.text value
  let choices := ", ".intercalate (allowed.map Hex.text)
  if value ∈ allowed then .passed
  else .failure "BadEnumValue" s!"{shown} is not one of [{choices}]"

def within (value least greatest : Nat) : Outcome :=
  let shown := Hex.text value
  let lowest := Hex.text least
  let highest := Hex.text greatest
  if least ≤ value ∧ value ≤ greatest then .passed
  else .failure "OutOfRange" s!"{shown} is outside {lowest}..={highest}"

def spaceText (id : Nat) : String := Hex.byteText id ++ " (" ++ (AddressSpace.ofId id).name ++ ")"

def addressSpace (id : Nat) (allowed : List Nat) : Outcome :=
  let shown := spaceText id
  let choices := ", ".intercalate (allowed.map spaceText)
  if id ∈ allowed then .passed
  else .failure "BadAddressSpaceId" s!"address space {shown} is not one of [{choices}]"

def knownGuid (guid : Guid) (allowed : List Guid) : Outcome :=
  let shown := guid.text
  if guid ∈ allowed then .passed
  else .failure "UnknownGuid" s!"GUID {shown} is not recognised"

def ascii (bytes : Bytes) : Outcome :=
  match bytes.firstWhere fun byte => !Ascii.isAscii byte with
  | none => .passed
  | some (byte, index) =>
    let shown := Hex.byteText byte.toNat
    .failure "NonAsciiField" s!"non-ASCII byte {shown} at index {index}"

def zeroSum (bytes : Bytes) : Outcome :=
  let count := bytes.length
  let shown := Hex.byteText bytes.byteSum.toNat
  if bytes.byteSum = 0 then .passed
  else .failure "BadChecksum" s!"checksum over {count} bytes is {shown}, expected 0x00"

def atLeast (length minimum : Nat) : Outcome :=
  if minimum ≤ length then .passed
  else
    .failure "TooShort" s!"length {length} is less than the minimum of {minimum} bytes"

end AcpiAudit.Rule
