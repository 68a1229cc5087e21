/-!
# Journals

Log records and computations that write them. A computation keeps the records that it made before
it failed.
-/

namespace DiceTray

/-- How important a record is. -/
inductive Level
  | notset
  | debug
  | info
  | warning
  | error
  | critical
deriving DecidableEq, Repr

/-- The rank of a level; records of lower rank than the threshold are not shown. -/
def Level.rank : Level → Nat
  | .notset => 0
  | .debug => 10
  | .info => 20
  | .warning => 30
  | .error => 40
  | .critical => 50

/-- The name of a level. -/
def Level.name : Level → String
  | .notset => "NOTSET"
  | .debug => "DEBUG"
  | .info => "INFO"
  | .warning => "WARNING"
  | .error => "ERROR"
  | .critical => "CRITICAL"

/-- The level with a name. Two levels have a second name. -/
def Level.ofName? (name : String) : Option Level :=
  [("CRITICAL", .critical), ("FATAL", .critical), ("ERROR", .error), ("WARN", .warning),
    ("WARNING", .warning), ("INFO", .info), ("DEBUG", .debug), ("NOTSET", .notset)].lookup name

/-- A log record. -/
structure Record where
  logger : String
  level : Level
  message : String
deriving DecidableEq, Repr

/-- The line that shows a record. -/
def Record.line (record : Record) : String :=
  record.logger ++ " - " ++ record.level.name ++ " - " ++ record.message

/-- Records, oldest first. -/
abbrev Journal := List Record

/-- A computation that writes records and may fail; the records stay. -/
structure Logged (ε α : Type) where
  journal : Journal
  outcome : Except ε α

namespace Logged

variable {ε α β : Type}

/-- A value without records. -/
def done (value : α) : Logged ε α := ⟨[], .ok value⟩

/-- A failure without records. -/
def failed (error : ε) : Logged ε α := ⟨[], .error error⟩

/-- Goes on with the value of a computation, after its records. -/
def andThen (first : Logged ε α) (next : α → Logged ε β) : Logged ε β :=
  match first with
  | ⟨journal, .error error⟩ => ⟨journal, .error error⟩
  | ⟨journal, .ok value⟩ =>
    let second := next value
    ⟨journal ++ second.journal, second.outcome⟩

instance : Monad (Logged ε) where
  pure := done
  bind := andThen

/-- Writes a record. -/
def note (record : Record) : Logged ε Unit := ⟨[record], .ok ()⟩

/-- A result without records, its errors mapped. -/
def ofExcept {ε' : Type} (wrap : ε' → ε) (result : Except ε' α) : Logged ε α :=
  ⟨[], result.mapError wrap⟩

end Logged

end DiceTray
