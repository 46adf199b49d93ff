/-!
# Log lines

Reading, decoding and compiling report what they decide as log lines: `trace` lines for
every value read and every query parameter decoded, `debug` lines for every filter and sort
key compiled. A computation that reports is a `Logged` value: its result together with the
lines it produced, oldest first. `Logged` is a writer monad, so reporting computations
compose with `do` and their lines come out in the order the steps ran.
-/

namespace RecordQuery

/-- The level of a log line. -/
inductive LogLevel where
  | debug
  | trace
deriving DecidableEq

/-- One log line. -/
structure LogLine where
  level : LogLevel
  message : String

/-- The text of a line: `DEBUG` or `TRACE`, a space, and the message. -/
def LogLine.toText (l : LogLine) : String :=
  (match l.level with
    | .debug => "DEBUG "
    | .trace => "TRACE ") ++ l.message

/-- A result together with the log lines produced while computing it, oldest first. -/
structure Logged (α : Type) where
  value : α
  log : List LogLine

namespace Logged

/-- A result with no lines. -/
def pure {α : Type} (a : α) : Logged α := ⟨a, []⟩

/-- Runs `f` on the result of `x`; the lines of `x` come first. -/
def bind {α β : Type} (x : Logged α) (f : α → Logged β) : Logged β :=
  let y := f x.value
  ⟨y.value, x.log ++ y.log⟩

instance : Monad Logged where
  pure := Logged.pure
  bind := Logged.bind

/-- Reports one line. -/
def say (level : LogLevel) (message : String) : Logged Unit := ⟨(), [⟨level, message⟩]⟩

/-- Reports a trace line. -/
def trace (message : String) : Logged Unit := say .trace message

/-- Reports a debug line. -/
def debug (message : String) : Logged Unit := say .debug message

@[simp] theorem value_pure {α : Type} (a : α) : (Pure.pure a : Logged α).value = a := rfl

@[simp] theorem log_pure {α : Type} (a : α) : (Pure.pure a : Logged α).log = [] := rfl

@[simp] theorem value_bind {α β : Type} (x : Logged α) (f : α → Logged β) :
    (x >>= f).value = (f x.value).value := rfl

@[simp] theorem log_bind {α β : Type} (x : Logged α) (f : α → Logged β) :
    (x >>= f).log = x.log ++ (f x.value).log := rfl

end Logged

end RecordQuery
