import AcpiAudit.Text.Ascii
import AcpiAudit.Text.Blank

set_option autoImplicit false

namespace AcpiAudit

inductive Level where
  | error
  | warn
  | info
  | debug
  | trace
deriving Repr, DecidableEq

namespace Level

def all : List Level := [error, warn, info, debug, trace]

def rank : Level → Nat
  | error => 1
  | warn => 2
  | info => 3
  | debug => 4
  | trace => 5

def text : Level → String
  | error => "ERROR"
  | warn => "WARN"
  | info => "INFO"
  | debug => "DEBUG"
  | trace => "TRACE"

end Level

inductive Verbosity where
  | off
  | upTo (level : Level)
deriving Repr, DecidableEq

namespace Verbosity

def all : List Verbosity := off :: Level.all.map upTo

def shows : Verbosity → Level → Bool
  | .off, _ => false
  | .upTo limit, level => level.rank ≤ limit.rank

def text : Verbosity → String
  | .off => "OFF"
  | .upTo level => level.text

def ofText? (input : String) : Option Verbosity :=
  all.find? fun verbosity => Ascii.sameLetters verbosity.text (Blank.trim input)

def unknownText (input : String) : String := s!"unknown log level '{input}'"

end Verbosity

end AcpiAudit
