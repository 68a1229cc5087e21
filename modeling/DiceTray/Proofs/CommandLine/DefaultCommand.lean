import DiceTray.CommandLine.Invocation
import DiceTray.Proofs.Sequence

/-!
# The default command

The arguments are read twice. A scan that knows three spellings of flags looks for the command and
puts one in front if it finds none; then the arguments are marked and used up in full. Here the
first positional argument is told apart as the full reading does it, and the command that is carried
out is compared with it. Where the scan knows the spelling of every flag that takes the next
argument for its value, they agree.
-/

namespace DiceTray.CommandLine

/-! ## The first positional argument -/

/-- Whether the last of the flags in an argument takes the next argument for its value. -/
def FlagUse.takesNext (flags : List Flag) (use : FlagUse) : Bool :=
  match unfoldFlags flags ((use.joined.map fun joined => joined.value.length + 1).getD 1) use with
  | .ok (_, .following flag) => flag.takesValue
  | _ => false

/-- What stands in front of the first positional argument, and that argument. -/
structure Opening where
  /-- The arguments with a flag that takes the next argument for its value. -/
  takers : List String
  /-- The first argument that is neither a flag nor the value of one. -/
  positional : Option String

/-- The opening of marked arguments. A flag without its value ends it. -/
def Opening.ofMarked (flags : List Flag) : List (String × Mark) → Opening
  | [] => ⟨[], none⟩
  | (argument, .operand) :: _ => ⟨[], some argument⟩
  | (_, .separator) :: rest => ofMarked flags rest
  | (_, .unknown) :: rest => ofMarked flags rest
  | (argument, .flag use) :: rest =>
    if use.takesNext flags then
      match rest with
      | (_, .operand) :: rest =>
        let later := ofMarked flags rest
        ⟨argument :: later.takers, later.positional⟩
      | _ => ⟨[argument], none⟩
    else ofMarked flags rest

namespace Opening

variable {flags : List Flag} {use : FlagUse}

theorem ofMarked_of_value (argument value : String) (rest : List (String × Mark))
    (needs : use.takesNext flags = true) :
    ofMarked flags ((argument, .flag use) :: (value, .operand) :: rest) =
      ⟨argument :: (ofMarked flags rest).takers, (ofMarked flags rest).positional⟩ := by
  rw [ofMarked, if_pos needs]

theorem ofMarked_of_needless (argument : String) (rest : List (String × Mark))
    (needless : use.takesNext flags = false) :
    ofMarked flags ((argument, .flag use) :: rest) = ofMarked flags rest := by
  obtain _ | ⟨⟨next, mark⟩, others⟩ := rest
  · simp [ofMarked, needless]
  · cases mark <;> simp [ofMarked, needless]

/-- Behind a flag that takes the next argument there is a positional one only if the flag has its
value. -/
theorem exists_value_of_positional {argument word : String} {rest : List (String × Mark)}
    (needs : use.takesNext flags = true)
    (positional : (ofMarked flags ((argument, .flag use) :: rest)).positional = some word) :
    ∃ value left, rest = (value, .operand) :: left := by
  obtain _ | ⟨⟨value, mark⟩, left⟩ := rest
  · simp [ofMarked, needs] at positional
  · cases mark with
    | operand => exact ⟨value, left, rfl⟩
    | separator | unknown | flag => simp [ofMarked, needs] at positional

end Opening

/-- The command that the positional argument names, and rolling if it names none. -/
def Opening.command (opening : Opening) : Command :=
  (opening.positional.bind Command.ofName?).getD .roll

/-- The scan for a command knows every flag that takes the next argument for its value. -/
def Opening.Familiar (opening : Opening) : Prop :=
  ∀ argument ∈ opening.takers, argument ∈ valueFlags

instance (opening : Opening) : Decidable opening.Familiar :=
  inferInstanceAs (Decidable (∀ argument ∈ opening.takers, argument ∈ valueFlags))

/-! ## Marks -/

theorem markArguments_cons_eq_ok_iff {flags : List Flag} {argument : String} {rest : List String}
    {marked : List (String × Mark)} :
    markArguments flags (argument :: rest) = .ok marked ↔
      argument = "--" ∧
        marked = (argument, .separator) :: rest.map (fun operand => (operand, .operand)) ∨
      argument ≠ "--" ∧ ∃ mark others, markArgument flags argument = .ok mark ∧
        markArguments flags rest = .ok others ∧ marked = (argument, mark) :: others := by
  rw [markArguments]
  by_cases dashes : argument = "--"
  · simp [dashes, eq_comm]
  · rw [if_neg dashes, bind_eq_ok_iff]
    constructor
    · rintro ⟨mark, first, done⟩
      obtain ⟨others, later, same⟩ := bind_eq_ok_iff.1 done
      cases same
      exact .inr ⟨dashes, mark, others, first, later, rfl⟩
    · rintro (⟨same, -⟩ | ⟨-, mark, others, first, later, rfl⟩)
      · exact absurd same dashes
      · exact ⟨mark, first, bind_eq_ok_iff.2 ⟨others, later, rfl⟩⟩

/-- Behind an operand that is marked as such, marking goes on. -/
theorem markArguments_of_operand {flags : List Flag} {value : String} {arguments : List String}
    {left : List (String × Mark)}
    (marking : markArguments flags arguments = .ok ((value, .operand) :: left)) :
    ∃ later, arguments = value :: later ∧ markArguments flags later = .ok left := by
  cases arguments with
  | nil => cases marking
  | cons argument rest =>
    obtain ⟨-, same⟩ | ⟨-, mark, others, -, later, same⟩ := markArguments_cons_eq_ok_iff.1 marking
    · cases same
    · cases same
      exact ⟨rest, rfl, later⟩

theorem markArgument_ne_separator {flags : List Flag} {argument : String} :
    markArgument flags argument ≠ .ok .separator := by
  intro marked
  rw [markArgument] at marked
  dsimp only at marked
  repeat' split at marked
  all_goals cases marked

/-! ## The full reading -/

section Reading

variable {flags : List Flag} {reading next : Reading}

/-- The places for operands are as they were. -/
def Reading.SamePlaces (reading next : Reading) : Prop :=
  next.operands = reading.operands ∧ next.slots = reading.slots

theorem Reading.SamePlaces.trans {middle : Reading} (first : reading.SamePlaces middle)
    (second : middle.SamePlaces next) : reading.SamePlaces next :=
  ⟨second.1.trans first.1, second.2.trans first.2⟩

theorem samePlaces_of_takeFlag {flag : Flag} (done : takeFlag flag reading = .ok next) :
    reading.SamePlaces next := by
  rw [takeFlag] at done
  split at done
  · cases done
  · cases done
    exact ⟨rfl, rfl⟩

theorem samePlaces_of_takeFlags {others : List Flag}
    (done : others.foldlM (fun reading flag => takeFlag flag reading) reading = .ok next) :
    reading.SamePlaces next := by
  induction others generalizing reading with
  | nil =>
    cases done
    exact ⟨rfl, rfl⟩
  | cons flag rest inductionHypothesis =>
    rw [List.foldlM_cons, bind_eq_ok_iff] at done
    obtain ⟨middle, first, later⟩ := done
    exact (samePlaces_of_takeFlag first).trans (inductionHypothesis later)

theorem samePlaces_of_takeValue {flag : Flag} {value : String}
    (done : takeValue flag value reading = .ok next) : reading.SamePlaces next := by
  rw [takeValue] at done
  split at done
  · split at done
    · cases done
      exact ⟨rfl, rfl⟩
    · cases done
  · cases done
    exact ⟨rfl, rfl⟩

/-- An argument with flags fills no place. It uses up the next argument exactly when its last flag
takes that for its value. -/
theorem samePlaces_of_takeUse {use : FlagUse} {rest left : List (String × Mark)}
    (done : takeUse flags use rest reading = .ok (next, left)) :
    reading.SamePlaces next ∧
      (use.takesNext flags = true ∧ (∃ value, rest = (value, .operand) :: left) ∨
        use.takesNext flags = false ∧ left = rest) := by
  rw [takeUse, bind_eq_ok_iff] at done
  obtain ⟨⟨others, demand⟩, unfolded, done⟩ := done
  rw [mapError_eq_ok_iff] at unfolded
  rw [FlagUse.takesNext, unfolded]
  cases demand with
  | given flag value =>
    obtain ⟨middle, taken, done⟩ := bind_eq_ok_iff.1 done
    obtain ⟨last, valued, same⟩ := bind_eq_ok_iff.1 done
    cases same
    exact ⟨(samePlaces_of_takeFlags taken).trans (samePlaces_of_takeValue valued), .inr ⟨rfl, rfl⟩⟩
  | leftover argument =>
    obtain ⟨middle, taken, same⟩ := bind_eq_ok_iff.1 done
    cases same
    have kept := samePlaces_of_takeFlags taken
    exact ⟨kept, .inr ⟨rfl, rfl⟩⟩
  | following flag =>
    dsimp only at done ⊢
    split at done
    · next needs =>
      split at done
      · next value left =>
        obtain ⟨middle, taken, done⟩ := bind_eq_ok_iff.1 done
        obtain ⟨last, valued, same⟩ := bind_eq_ok_iff.1 done
        cases same
        exact ⟨(samePlaces_of_takeFlags taken).trans (samePlaces_of_takeValue valued),
          .inl ⟨needs, value, rfl⟩⟩
      · cases done
    · next needless =>
      obtain ⟨middle, taken, done⟩ := bind_eq_ok_iff.1 done
      obtain ⟨last, single, same⟩ := bind_eq_ok_iff.1 done
      cases same
      exact ⟨(samePlaces_of_takeFlags taken).trans (samePlaces_of_takeFlag single),
        .inr ⟨Bool.eq_false_iff.2 needless, rfl⟩⟩

/-- The place of the command takes everything from the first operand on. -/
theorem fillSlots_of_operand (operand : String) (rest : List (String × Mark)) :
    fillSlots [.command] ((operand, .operand) :: rest) =
      ([operand :: rest.map Prod.fst], [], []) := by
  simp [fillSlots, Slot.fill?, Slot.clean]

/-- A double dash in front of it is taken as well. -/
theorem fillSlots_of_separator (dashes operand : String) (rest : List String) :
    fillSlots [.command] ((dashes, .separator) ::
        (operand :: rest).map fun operand => (operand, .operand)) =
      ([dashes :: operand :: rest], [], []) := by
  simp [fillSlots, Slot.fill?, Slot.clean, Function.comp_def]

theorem readMarked_nil (bound : Nat) (reading : Reading) :
    readMarked flags bound [] reading = .ok reading := by
  cases bound <;> rfl

/-- Where it takes all arguments, nothing else is read. -/
theorem operands_of_readMarked {bound : Nat} {first : String × Mark} {rest : List (String × Mark)}
    {words : List String} {result : Reading} (plain : first.2.isFlag = false)
    (unfilled : reading.operands = [])
    (fill : fillSlots reading.slots (first :: rest) = ([words], [], []))
    (done : readMarked flags (bound + 1) (first :: rest) reading = .ok result) :
    result.operands = [words] := by
  obtain ⟨argument, mark⟩ := first
  cases mark with
  | flag use => cases plain
  | unknown => cases plain
  | operand | separator =>
    simp only [readMarked, unfilled, fill, List.any_nil, Bool.false_eq_true, and_false, if_false,
      List.takeWhile_nil, List.length_nil, List.drop_nil, readMarked_nil] at done
    cases done
    rfl

/-- What the place of the command is filled with begins with the first positional argument, or with
a double dash. -/
theorem positional_of_readMarked {bound : Nat} {arguments : List String}
    {marked : List (String × Mark)} {reading result : Reading}
    (marking : markArguments flags arguments = .ok marked)
    (unfilled : reading.operands = [] ∧ reading.slots = [.command])
    (done : readMarked flags bound marked reading = .ok result) (filled : result.slots = []) :
    ∃ words, result.operands = [words] ∧
      (words.headD "" = "--" ∨
        (Opening.ofMarked flags marked).positional = some (words.headD "")) := by
  induction bound generalizing arguments marked reading with
  | zero =>
    cases done
    rw [unfilled.2] at filled
    cases filled
  | succ bound inductionHypothesis =>
    cases arguments with
    | nil =>
      cases marking
      cases done
      rw [unfilled.2] at filled
      cases filled
    | cons argument rest =>
      obtain ⟨rfl, rfl⟩ | ⟨-, mark, others, marked, markedRest, rfl⟩ :=
        markArguments_cons_eq_ok_iff.1 marking
      · cases rest with
        | nil =>
          -- a double dash alone fills no place
          simp [readMarked, unfilled.2, fillSlots, Slot.fill?, Mark.isFlag, readMarked_nil] at done
          rw [← done] at filled
          cases filled
        | cons operand rest =>
          refine ⟨"--" :: operand :: rest, operands_of_readMarked rfl unfilled.1 ?_ done, .inl rfl⟩
          rw [unfilled.2]
          exact fillSlots_of_separator "--" operand rest
      · cases mark with
        | operand =>
          refine ⟨argument :: others.map Prod.fst, operands_of_readMarked rfl unfilled.1 ?_ done,
            .inr rfl⟩
          rw [unfilled.2]
          exact fillSlots_of_operand argument others
        | separator => exact absurd marked markArgument_ne_separator
        | unknown =>
          rw [readMarked] at done
          have still : { reading with extras := reading.extras ++ [argument] }.operands = [] ∧ _ :=
            unfilled
          rw [Opening.ofMarked]
          exact inductionHypothesis markedRest still done
        | flag use =>
          rw [readMarked, bind_eq_ok_iff] at done
          obtain ⟨⟨next, left⟩, used, done⟩ := done
          obtain ⟨⟨operands, slots⟩, needs⟩ := samePlaces_of_takeUse used
          rw [← operands, ← slots] at unfilled
          obtain ⟨needs, value, rfl⟩ | ⟨needless, rfl⟩ := needs
          · obtain ⟨later, -, markedLater⟩ := markArguments_of_operand markedRest
            rw [Opening.ofMarked_of_value argument value left needs]
            exact inductionHypothesis markedLater unfilled done
          · rw [Opening.ofMarked_of_needless argument _ needless]
            exact inductionHypothesis markedRest unfilled done

end Reading

/-! ## The scan -/

section Scan

/-- No word that names a command looks like a flag. -/
theorem not_isPrefixOf_of_ofName? {word : String} {command : Command}
    (named : Command.ofName? word = some command) : "-".toList.isPrefixOf word.toList = false := by
  have same : command.name = word := by simpa using List.find?_some named
  rw [← same]
  cases command <;> decide

/-- The spellings that the scan knows are those of flags that take the next argument. -/
theorem markArgument_of_mem_valueFlags {argument : String} (known : argument ∈ valueFlags) :
    argument ≠ "--" ∧ ∃ use : FlagUse, markArgument commonFlags argument = .ok (.flag use) ∧
      use.takesNext commonFlags = true := by
  simp only [valueFlags, List.mem_cons, List.not_mem_nil, or_false] at known
  obtain rfl | rfl | rfl := known
  · exact ⟨by decide, ⟨.profile, "-p", none⟩, rfl, rfl⟩
  · exact ⟨by decide, ⟨.profile, "--profile", none⟩, rfl, rfl⟩
  · exact ⟨by decide, ⟨.seed, "--seed", none⟩, rfl, rfl⟩

/-- What does not look like a flag is an operand. -/
theorem markArgument_of_not_isPrefixOf {flags : List Flag} {argument : String}
    (plain : "-".toList.isPrefixOf argument.toList = false) :
    markArgument flags argument = .ok .operand := by
  rw [markArgument, plain]
  rfl

/-- The scan stops at what does not look like a flag. -/
theorem firstOperand_of_not_isPrefixOf {argument : String} (rest : List String)
    (plain : "-".toList.isPrefixOf argument.toList = false) :
    firstOperand (argument :: rest) = argument :: rest := by
  have unknown : argument ∉ valueFlags := by
    intro known
    simp only [valueFlags, List.mem_cons, List.not_mem_nil, or_false] at known
    obtain rfl | rfl | rfl := known <;> cases plain
  rw [firstOperand.eq_def]
  dsimp only
  rw [if_neg unknown, if_neg (Bool.eq_false_iff.1 plain)]

/-- Where the scan knows the flags that take the next argument, it stops at the first positional
argument if that names a command. -/
theorem firstOperand_of_positional {arguments : List String} {marked : List (String × Mark)}
    {word : String} {command : Command}
    (marking : markArguments commonFlags arguments = .ok marked)
    (familiar : (Opening.ofMarked commonFlags marked).Familiar)
    (positional : (Opening.ofMarked commonFlags marked).positional = some word)
    (named : Command.ofName? word = some command) :
    ∃ after, firstOperand arguments = word :: after := by
  have plain := not_isPrefixOf_of_ofName? named
  induction arguments using firstOperand.induct generalizing marked with
  | case1 =>
    cases marking
    cases positional
  | case2 argument known =>
    obtain ⟨notDashes, use, marked, needs⟩ := markArgument_of_mem_valueFlags known
    obtain ⟨same, -⟩ | ⟨-, mark, others, markedHere, markedRest, rfl⟩ :=
      markArguments_cons_eq_ok_iff.1 marking
    · exact absurd same notDashes
    · cases marked.symm.trans markedHere
      cases markedRest
      obtain ⟨_, _, missing⟩ := Opening.exists_value_of_positional needs positional
      cases missing
  | case3 argument known value after inductionHypothesis =>
    obtain ⟨notDashes, use, marked, needs⟩ := markArgument_of_mem_valueFlags known
    obtain ⟨same, -⟩ | ⟨-, mark, others, markedHere, markedRest, rfl⟩ :=
      markArguments_cons_eq_ok_iff.1 marking
    · exact absurd same notDashes
    · cases marked.symm.trans markedHere
      obtain ⟨_, left, rfl⟩ := Opening.exists_value_of_positional needs positional
      obtain ⟨_, same, markedAfter⟩ := markArguments_of_operand markedRest
      cases same
      rw [Opening.ofMarked_of_value argument _ left needs] at familiar positional
      rw [firstOperand, if_pos known]
      exact inductionHypothesis markedAfter (List.forall_mem_cons.1 familiar).2 positional
  | case4 argument rest unknown dashed inductionHypothesis =>
    rw [firstOperand.eq_def]
    dsimp only
    rw [if_neg unknown, if_pos dashed]
    obtain ⟨rfl, rfl⟩ | ⟨-, mark, others, markedHere, markedRest, rfl⟩ :=
      markArguments_cons_eq_ok_iff.1 marking
    · -- behind the double dash everything is an operand
      cases rest with
      | nil => cases positional
      | cons operand others =>
        cases positional
        exact ⟨others, firstOperand_of_not_isPrefixOf others plain⟩
    · cases mark with
      | operand =>
        cases positional
        rw [plain] at dashed
        cases dashed
      | separator => exact absurd markedHere markArgument_ne_separator
      | unknown => exact inductionHypothesis markedRest familiar positional
      | flag use =>
        cases needs : use.takesNext commonFlags with
        | true =>
          obtain ⟨_, left, rfl⟩ := Opening.exists_value_of_positional needs positional
          rw [Opening.ofMarked_of_value argument _ left needs] at familiar
          exact absurd (List.forall_mem_cons.1 familiar).1 unknown
        | false =>
          rw [Opening.ofMarked_of_needless argument _ needs] at familiar positional
          exact inductionHypothesis markedRest familiar positional
  | case5 argument rest unknown dashless =>
    have undashed := Bool.eq_false_iff.2 dashless
    obtain ⟨rfl, -⟩ | ⟨-, mark, others, markedHere, -, rfl⟩ :=
      markArguments_cons_eq_ok_iff.1 marking
    · cases undashed
    · cases (markArgument_of_not_isPrefixOf undashed).symm.trans markedHere
      cases positional
      exact ⟨rest, firstOperand_of_not_isPrefixOf rest plain⟩

/-- Rolling is put in front only where the scan does not stop at a command. -/
theorem withDefaultCommand_cases (arguments : List String) :
    withDefaultCommand arguments = arguments ∨
      withDefaultCommand arguments = Command.roll.name :: arguments ∧
        ∀ word after, firstOperand arguments = word :: after → Command.ofName? word = none := by
  rw [withDefaultCommand]
  split
  · next missing =>
    split
    · exact .inl rfl
    · refine .inr ⟨rfl, fun word after found => ?_⟩
      cases missing.symm.trans found
  · next operand rest stopped =>
    split
    · exact .inl rfl
    · next nameless =>
      refine .inr ⟨rfl, fun word after found => ?_⟩
      cases stopped.symm.trans found
      exact Option.not_isSome_iff_eq_none.1 nameless

end Scan

/-! ## The command -/

theorem Request.command_ofReading (command : Command) (operands : List (List String))
    (flags : List (Flag × FlagValue)) :
    (Request.ofReading command operands flags).command = command := by
  cases command <;> rfl

/-- Arguments that are accepted as they are name the command in their first positional argument. -/
theorem positional_of_readInvocation {arguments : List String} {invocation : Invocation}
    (accepted : readInvocation arguments = .ok invocation) :
    ∃ marked word, markArguments commonFlags arguments = .ok marked ∧
      (Opening.ofMarked commonFlags marked).positional = some word ∧
      Command.ofName? word = some invocation.request.command := by
  rw [readInvocation, bind_eq_ok_iff] at accepted
  obtain ⟨top, read, accepted⟩ := accepted
  rw [mapError_eq_ok_iff, Grammar.read, bind_eq_ok_iff] at read
  obtain ⟨marked, marking, read⟩ := read
  rw [mapError_eq_ok_iff] at marking
  obtain ⟨reading, done, read⟩ := bind_eq_ok_iff.1 read
  split at read
  · next filled =>
    cases read
    obtain ⟨words, operands, first⟩ :=
      positional_of_readMarked marking ⟨rfl, rfl⟩ done (List.isEmpty_iff.1 filled)
    rw [operands, List.headD_cons] at accepted
    dsimp only at accepted
    split at accepted
    · cases accepted
    · next command named =>
      obtain dashes | positional := first
      · rw [dashes] at named
        cases named
      · refine ⟨marked, _, marking, positional, ?_⟩
        obtain ⟨inner, -, accepted⟩ := bind_eq_ok_iff.1 accepted
        split at accepted
        · cases accepted
          rw [Request.command_ofReading, named]
        · cases accepted
  · cases read

/-- The default command agrees with the full reading of the arguments wherever the scan knows the
spelling of the flags. When arguments are accepted, the command that is carried out is the one that
the first positional argument names, or rolling if it names none, provided that every flag before it
that takes the next argument for its value is spelled as the scan knows it. In any other case it is
that command or rolling. -/
theorem default_command_agrees {arguments : List String} {invocation : Invocation}
    (accepted : Invocation.ofArguments arguments = .ok invocation) :
    ∃ marked, markArguments commonFlags arguments = .ok marked ∧
      ((Opening.ofMarked commonFlags marked).Familiar →
        invocation.request.command = (Opening.ofMarked commonFlags marked).command) ∧
      (invocation.request.command = (Opening.ofMarked commonFlags marked).command ∨
        invocation.request.command = .roll) := by
  rw [Invocation.ofArguments] at accepted
  obtain ⟨marked, word, marking, positional, named⟩ := positional_of_readInvocation accepted
  obtain same | ⟨same, stops⟩ := withDefaultCommand_cases arguments <;> rw [same] at marking
  · have agrees : invocation.request.command = (Opening.ofMarked commonFlags marked).command := by
      rw [Opening.command, positional, Option.bind_some, named, Option.getD_some]
    exact ⟨marked, marking, fun _ => agrees, .inl agrees⟩
  · obtain ⟨dashes, -⟩ | ⟨-, mark, others, markedRoll, markedRest, rfl⟩ :=
      markArguments_cons_eq_ok_iff.1 marking
    · exact absurd dashes (by decide)
    · have operand : markArgument commonFlags Command.roll.name = .ok .operand := rfl
      cases operand.symm.trans markedRoll
      cases positional
      have rolls : invocation.request.command = .roll := (Option.some.inj named).symm
      refine ⟨others, markedRest, fun familiar => ?_, .inr rolls⟩
      rw [rolls, Opening.command]
      cases first : (Opening.ofMarked commonFlags others).positional with
      | none => rfl
      | some word =>
        cases naming : Command.ofName? word with
        | none => rw [Option.bind_some, naming, Option.getD_none]
        | some command =>
          obtain ⟨after, found⟩ := firstOperand_of_positional markedRest familiar first naming
          cases naming.symm.trans (stops word after found)

/-- The profile is passed over as the value of its flag. -/
theorem default_command_agrees_behind_profile :
    ∃ invocation marked, Invocation.ofArguments ["-p", "work", "list"] = .ok invocation ∧
      markArguments commonFlags ["-p", "work", "list"] = .ok marked ∧
      (Opening.ofMarked commonFlags marked).Familiar ∧
      invocation.request.command = (Opening.ofMarked commonFlags marked).command := by
  have accepted : Invocation.ofArguments ["-p", "work", "list"] =
      .ok ⟨.list, some "work", false, false, none⟩ := rfl
  obtain ⟨marked, marking, agrees, -⟩ := default_command_agrees accepted
  have familiar : (Opening.ofMarked commonFlags marked).Familiar := by
    cases marking
    decide
  exact ⟨_, marked, accepted, marking, familiar, agrees familiar⟩

/-- Where the flag is joined to another one, the scan takes its value for the first operand: the
arguments are rolled, although their first positional argument is another command. -/
theorem default_command_strays_behind_joined_flags :
    ∃ invocation marked, Invocation.ofArguments ["-vp", "x", "list"] = .ok invocation ∧
      markArguments commonFlags ["-vp", "x", "list"] = .ok marked ∧
      (Opening.ofMarked commonFlags marked).positional = some "list" ∧
      (Opening.ofMarked commonFlags marked).command = .list ∧
      invocation.request = .roll ["list"] false :=
  ⟨⟨.roll ["list"] false, some "x", true, false, none⟩, _, rfl, rfl, rfl, rfl, rfl⟩

end DiceTray.CommandLine
