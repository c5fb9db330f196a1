import AcpiAudit.Text.Ascii

set_option autoImplicit false

namespace AcpiAudit

inductive Severity where
  -- A cosmetic departure from the rules.
  | low
  -- It may confuse an operating system but is unlikely to break it.
  | medium
  -- It is likely to cause misbehaviour.
  | high
  -- The structure is corrupt and the table cannot be trusted.
  | critical
deriving Repr, DecidableEq

namespace Severity

def all : List Severity := [low, medium, high, critical]

def rank : Severity → Nat
  | low => 0
  | medium => 1
  | high => 2
  | critical => 3

instance : LE Severity := ⟨fun left right => left.rank ≤ right.rank⟩

instance (left right : Severity) : Decidable (left ≤ right) :=
  inferInstanceAs (Decidable (left.rank ≤ right.rank))

instance : Max Severity := ⟨fun left right => if left ≤ right then right else left⟩

def text : Severity → String
  | low => "LOW"
  | medium => "MEDIUM"
  | high => "HIGH"
  | critical => "CRITICAL"

def ofText? (input : String) : Option Severity :=
  all.find? fun severity => Ascii.sameLetters severity.text input

def unknownText : String := "unknown severity level (expected low, medium, high or critical)"

end Severity

end AcpiAudit
