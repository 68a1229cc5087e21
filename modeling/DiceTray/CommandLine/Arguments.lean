import DiceTray.CommandLine.Mark
import DiceTray.Number.Decimal

/-!
# Reading arguments

Flags and operands are used up from left to right. Before each flag as many places for operands are
filled as the operands in front of it allow; what fits nowhere is left over.
-/

namespace DiceTray.CommandLine

/-- Why reading ends early. -/
inductive Halt
  | help
  | problem (problem : UsageProblem)
deriving DecidableEq, Repr

/-- The value of a flag. -/
inductive FlagValue
  /-- The flag takes none. -/
  | none
  | text (value : String)
  | integer (value : Int)
deriving DecidableEq, Repr

/-- What was read at a level of the command line. -/
structure Reading where
  flags : List (Flag × FlagValue) := []
  /-- The operands of the places that were filled, in order. -/
  operands : List (List String) := []
  /-- The places that are still empty. -/
  slots : List Slot
  /-- The arguments that are left over. -/
  extras : List String := []
deriving DecidableEq, Repr

/-- Fills a place with operands from the front, if they suffice. A separator before or after a
single operand goes with it. -/
def Slot.fill? (slot : Slot) (arguments : List (String × Mark)) :
    Option (List String × List (String × Mark)) :=
  let lead := arguments.takeWhile fun argument => argument.2 = .separator
  match arguments.drop lead.length with
  | (operand, .operand) :: rest =>
    let taken : List (String × Mark) :=
      match slot with
      | .one _ => rest.takeWhile fun argument => argument.2 = .separator
      | .many _ => rest.takeWhile fun argument => !argument.2.isFlag
      | .command => rest
    some (lead.map Prod.fst ++ operand :: taken.map Prod.fst, rest.drop taken.length)
  | _ => none

/-- The operands of a place without the first double dash; the command keeps it. -/
def Slot.clean (slot : Slot) (operands : List String) : List String :=
  match slot with
  | .one _ | .many _ => operands.erase "--"
  | .command => operands

/-- Fills as many places as possible with the operands at the front. -/
def fillSlots : List Slot → List (String × Mark) →
    List (List String) × List Slot × List (String × Mark)
  | [], arguments => ([], [], arguments)
  | slot :: slots, arguments =>
    match slot.fill? arguments with
    | none => ([], slot :: slots, arguments)
    | some (operands, rest) =>
      let (filled, left, rest) := fillSlots slots rest
      (slot.clean operands :: filled, left, rest)

/-- What the last of the flags in one argument needs. -/
inductive Demand
  /-- It takes its value, if it has one, from the arguments that follow. -/
  | following (flag : Flag)
  /-- It has its value. -/
  | given (flag : Flag) (value : String)
  /-- There is no such flag, and the argument is left over from here on. -/
  | leftover (argument : String)
deriving DecidableEq, Repr

/-- Takes the flags apart that are joined in one argument: those without value and the last one. The
first argument bounds their number. -/
def unfoldFlags (flags : List Flag) : Nat → FlagUse → Except UsageProblem (List Flag × Demand)
  | 0, use => .ok ([], .following use.flag)
  | bound + 1, use =>
    match use.joined with
    | none => .ok ([], .following use.flag)
    | some ⟨afterEquals, value⟩ =>
      if use.flag.takesValue then .ok ([], .given use.flag value)
      else
        match value.toList with
        | [] => .error (.ignoredValue use.flag value)
        | c :: tail =>
          if "--".toList.isPrefixOf use.spelling.toList || afterEquals || c = '-' then
            .error (.ignoredValue use.flag value)
          else
            let spelling := String.ofList ['-', c]
            match (spellings flags).lookup spelling with
            | none => .ok ([use.flag], .leftover ("-" ++ value))
            | some flag => do
              let joined : Option Joined :=
                match tail with
                | [] => none
                | '=' :: rest => some ⟨true, String.ofList rest⟩
                | rest => some ⟨false, String.ofList rest⟩
              let (others, demand) ← unfoldFlags flags bound ⟨flag, spelling, joined⟩
              return (use.flag :: others, demand)

/-- Takes a flag that needs no value. -/
def takeFlag (flag : Flag) (reading : Reading) : Except Halt Reading :=
  if flag = .help then .error .help
  else .ok { reading with flags := reading.flags ++ [(flag, .none)] }

/-- Takes a flag with its value. -/
def takeValue (flag : Flag) (value : String) (reading : Reading) : Except Halt Reading :=
  if flag = .seed then
    match readInteger value with
    | .ok number => .ok { reading with flags := reading.flags ++ [(flag, .integer number)] }
    | .error _ => .error (.problem (.notAnInteger flag value))
  else .ok { reading with flags := reading.flags ++ [(flag, .text value)] }

/-- Uses up an argument with flags, and the value that follows it. -/
def takeUse (flags : List Flag) (use : FlagUse) (rest : List (String × Mark)) (reading : Reading) :
    Except Halt (Reading × List (String × Mark)) := do
  let bound := (use.joined.map fun joined => joined.value.length + 1).getD 1
  let (others, demand) ← (unfoldFlags flags bound use).mapError .problem
  match demand with
  | .given flag value =>
    return (← takeValue flag value (← others.foldlM (fun r f => takeFlag f r) reading), rest)
  | .leftover argument =>
    let reading := { reading with extras := reading.extras ++ [argument] }
    return (← others.foldlM (fun r f => takeFlag f r) reading, rest)
  | .following flag =>
    if flag.takesValue then
      match rest with
      | (value, .operand) :: rest =>
        return (← takeValue flag value (← others.foldlM (fun r f => takeFlag f r) reading), rest)
      | _ => throw (.problem (.expectedValue flag))
    else
      return (← takeFlag flag (← others.foldlM (fun r f => takeFlag f r) reading), rest)

/-- Uses up marked arguments; the first argument bounds the number of steps. -/
def readMarked (flags : List Flag) : Nat → List (String × Mark) → Reading → Except Halt Reading
  | 0, _, reading => .ok reading
  | bound + 1, arguments, reading =>
    match arguments with
    | [] => .ok reading
    | (_, .flag use) :: rest => do
      let (reading, rest) ← takeUse flags use rest reading
      readMarked flags bound rest reading
    | (argument, .unknown) :: rest =>
      readMarked flags bound rest { reading with extras := reading.extras ++ [argument] }
    | _ =>
      let (filled, slots, rest) := fillSlots reading.slots arguments
      let reading := { reading with operands := reading.operands ++ filled, slots }
      if rest.length < arguments.length ∧ rest.any fun argument => argument.2.isFlag then
        readMarked flags bound rest reading
      else
        let skipped := rest.takeWhile fun argument => !argument.2.isFlag
        let reading := { reading with extras := reading.extras ++ skipped.map Prod.fst }
        readMarked flags bound (rest.drop skipped.length) reading

/-- Reads the arguments of a level. -/
def Grammar.read (grammar : Grammar) (arguments : List String) : Except Halt Reading := do
  let marked ← (markArguments grammar.flags arguments).mapError .problem
  let reading ← readMarked grammar.flags (2 * arguments.length + 1) marked
    { slots := grammar.slots }
  if reading.slots.isEmpty then return reading
  else throw (.problem (.required (reading.slots.map Slot.name)))

end DiceTray.CommandLine
