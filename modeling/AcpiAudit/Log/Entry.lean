import AcpiAudit.Log.Level

set_option autoImplicit false

namespace AcpiAudit

structure LogEntry where
  level : Level
  target : String
  message : String
deriving Repr, DecidableEq

namespace LogEntry

def line (entry : LogEntry) : String :=
  "[" ++ entry.level.text ++ "] " ++ entry.target ++ ": " ++ entry.message

end LogEntry

def Verbosity.select (verbosity : Verbosity) (entries : List LogEntry) : List LogEntry :=
  entries.filter fun entry => verbosity.shows entry.level

class LogWriter (m : Type → Type) where
  write : LogEntry → m Unit

structure Logged (α : Type) where
  log : List LogEntry
  value : α

namespace Logged

instance : Monad Logged where
  pure value := ⟨[], value⟩
  bind first next :=
    let second := next first.value
    ⟨first.log ++ second.log, second.value⟩

instance : LogWriter Logged := ⟨fun entry => ⟨[entry], ()⟩⟩

end Logged

instance {σ : Type} {m : Type → Type} [Monad m] [LogWriter m] : LogWriter (StateT σ m) :=
  ⟨fun entry => StateT.lift (LogWriter.write entry)⟩

end AcpiAudit
