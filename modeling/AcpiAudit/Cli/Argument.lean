set_option autoImplicit false

namespace AcpiAudit.Cli

inductive Argument where
  -- Two hyphens alone, after which no argument is an option.
  | separator
  | long (name : String) (value : Option String)
  -- Options by single letters behind one hyphen, of which the first one decides.
  | short (letter : Char)
  | plain (text : String)
deriving Repr, DecidableEq

namespace Argument

def splitValue (text : List Char) : String × Option String :=
  match text.dropWhile (· != '=') with
  | [] => (String.ofList text, none)
  | _ :: value => (String.ofList (text.takeWhile (· != '=')), some (String.ofList value))

def ofText (text : String) : Argument :=
  match text.toList with
  | ['-', '-'] => .separator
  | '-' :: '-' :: rest =>
    let (name, value) := splitValue rest
    .long name value
  | '-' :: letter :: _ => .short letter
  | _ => .plain text

end Argument

end AcpiAudit.Cli
