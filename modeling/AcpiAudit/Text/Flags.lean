set_option autoImplicit false

namespace AcpiAudit

inductive FlagValue where
  | flag (set : Bool)
  | number (value : Nat)
deriving Repr, DecidableEq

namespace FlagValue

def text : FlagValue → String
  | .flag set => if set then "true" else "false"
  | .number value => toString value

end FlagValue

structure FlagWord where
  name : String
  fields : List (String × FlagValue)
deriving Repr, DecidableEq

namespace FlagWord

def text (word : FlagWord) : String :=
  word.name ++ " \x7b " ++
    ", ".intercalate (word.fields.map fun field => field.1 ++ ": " ++ field.2.text) ++ " \x7d"

end FlagWord

end AcpiAudit
