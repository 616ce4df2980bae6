/-!
# Logged computations

A computation that may fail and that keeps a log. What was logged before a failure stays in the log.
-/

namespace Adventure

/-- How important a log record is. -/
inductive LogLevel where
  | trace | debug | info | warning
  deriving DecidableEq, Repr

structure LogRecord where
  level : LogLevel
  message : String
  deriving DecidableEq, Repr

/-- The log of a computation and its result. -/
structure Logged (ε α : Type) where
  records : List LogRecord
  result : Except ε α

namespace Logged

variable {ε ε' α β : Type}

/-- A result without any log. -/
def ofExcept (x : Except ε α) : Logged ε α :=
  ⟨[], x⟩

/-- A result without any log, with another kind of failure. -/
def check (onError : ε' → ε) (x : Except ε' α) : Logged ε α :=
  ofExcept (x.mapError onError)

/-- One computation after the other. The second one does not start when the first one fails. -/
def andThen (x : Logged ε α) (f : α → Logged ε β) : Logged ε β :=
  match x.result with
  | .error e => ⟨x.records, .error e⟩
  | .ok a    => ⟨x.records ++ (f a).records, (f a).result⟩

instance : Monad (Logged ε) where
  pure a := ⟨[], .ok a⟩
  bind := andThen

instance : MonadLift (Except ε) (Logged ε) := ⟨ofExcept⟩

def tell (level : LogLevel) (message : String) : Logged ε Unit :=
  ⟨[⟨level, message⟩], .ok ()⟩

def fail (e : ε) : Logged ε α :=
  ⟨[], .error e⟩

/-- The same computation with another kind of failure. -/
def mapError (f : ε → ε') (x : Logged ε α) : Logged ε' α :=
  ⟨x.records, x.result.mapError f⟩

end Logged

end Adventure
