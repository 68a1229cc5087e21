import DiceTray.Alias.Store
import DiceTray.Average

/-!
# Plans

What the arguments of a roll ask for. An argument that is the name of an alias stands for the
expressions of the alias, any other argument for itself. The plan is complete before anything is
rolled, and its first fault is that of the first text that cannot be rolled.
-/

namespace DiceTray

/-- Checks that an expression, written by a text, is within the limits of the command line. -/
def Expression.checkLimits (expression : Expression) (text : String) : Except LimitError Unit :=
  if mostSides < expression.sides then .error (.manySides text)
  else if mostDice < expression.count * expression.repetitions then .error (.manyDice text)
  else .ok ()

/-- An expression that is to be rolled. -/
structure PlannedRoll where
  /-- The place of the argument that asks for it. -/
  place : Nat
  /-- The name of the alias that the argument stands for. -/
  aliasName : Option String
  text : String
  expression : Expression
deriving DecidableEq, Repr

namespace PlannedRoll

/-- The planned roll of a text. -/
def ofText (place : Nat) (aliasName : Option String) (text : String) :
    Except Fault PlannedRoll := do
  let expression ← (Expression.parse text).mapError .ofExpression
  (expression.checkLimits text).mapError .limit
  return ⟨place, aliasName, text, expression⟩

/-- The planned rolls of an argument. -/
def ofArgument (store : AliasStore) (place : Nat) (argument : String) :
    Except Fault (List PlannedRoll) :=
  match store.get? argument with
  | some named => named.expressions.mapM (ofText place (some argument))
  | none => [argument].mapM (ofText place none)

/-- The planned rolls of arguments, of which the first has a place. -/
def ofArguments (store : AliasStore) (place : Nat) : List String → Except Fault (List PlannedRoll)
  | [] => .ok []
  | argument :: rest => do
    let here ← ofArgument store place argument
    let after ← ofArguments store (place + 1) rest
    return here ++ after

/-- The averages of planned rolls by their texts, added to those found before; a text that comes
again keeps its place. -/
def averages (rows : OrderedMap String Binary64) :
    List PlannedRoll → Except NumberError (OrderedMap String Binary64)
  | [] => .ok rows
  | planned :: rest => do
    let average ← planned.expression.average
    averages (rows.alter planned.text fun known => known.getD average) rest

end PlannedRoll

end DiceTray
