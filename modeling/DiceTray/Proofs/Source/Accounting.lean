import DiceTray.Proofs.Source.Replay
import Mathlib

/-!
# What a script is spent on

A roll from a script uses up a beginning of it, which falls into one block of values for each die,
in the order of the dice and of the repetitions. How long a block is depends on its values: a die
with rerolls that shows a one takes a second value. A script that ends within the blocks is asked
for one value more than it has, and only then is it refused.
-/

namespace DiceTray

variable {α β : Type}

/-- Values with a block of draws for each of them, one block after the other. -/
def InBlocks (block : α → List Int → Prop) (values : List α) (draws : List Int) : Prop :=
  ∃ blocks, draws = blocks.flatten ∧ List.Forall₂ block values blocks

theorem inBlocks_nil_iff {block : α → List Int → Prop} {draws : List Int} :
    InBlocks block [] draws ↔ draws = [] := by
  constructor
  · rintro ⟨blocks, rfl, each⟩
    cases each
    rfl
  · rintro rfl
    exact ⟨[], rfl, .nil⟩

theorem inBlocks_cons_iff {block : α → List Int → Prop} {value : α} {values : List α}
    {draws : List Int} : InBlocks block (value :: values) draws ↔
      ∃ first rest, draws = first ++ rest ∧ block value first ∧ InBlocks block values rest := by
  constructor
  · rintro ⟨blocks, rfl, each⟩
    cases each with
    | @cons _ first _ others here later =>
      exact ⟨first, others.flatten, List.flatten_cons, here, others, rfl, later⟩
  · rintro ⟨first, rest, rfl, here, blocks, rfl, later⟩
    exact ⟨first :: blocks, List.flatten_cons.symm, .cons here later⟩

/-- A computation that asks for dice of some sides and nothing else, and whose value tells which
draws were spent on it. -/
structure Spends (sides : Int) (step : Script → Except DrawError α × Script)
    (spent : α → List Int → Prop) : Prop where
  /-- A script that begins with the draws for a value gives this value, and what follows is left. -/
  gives {value : α} {draws : List Int} (account : spent value draws) (rest : List Int)
    (asked : List (Int × Int)) :
    step ⟨draws ++ rest, asked⟩ =
      (.ok value, ⟨rest, List.replicate draws.length (1, sides) ++ asked⟩)
  /-- A script that ends within the draws for a value is used up, and then asked once more. -/
  fails {value : α} {values more : List Int} (account : spent value (values ++ more))
    (missing : more ≠ []) (asked : List (Int × Int)) :
    step ⟨values, asked⟩ =
      (.error .exhausted, ⟨[], List.replicate (values.length + 1) (1, sides) ++ asked⟩)
  /-- Every script begins with the draws for a value or ends within them. -/
  decides (values : List Int) :
    (∃ value draws rest, values = draws ++ rest ∧ spent value draws) ∨
      ∃ value more, more ≠ [] ∧ spent value (values ++ more)

section Steps

variable {sides : Int}

theorem spends_draw :
    Spends sides (fun script => draw script 1 sides) fun value draws => draws = [value] where
  gives := by
    rintro value _ rfl rest asked
    rfl
  fails := by
    intro value values more account missing asked
    cases values with
    | nil => rfl
    | cons first values =>
      rw [List.cons_append, List.cons.injEq, List.append_eq_nil_iff] at account
      exact absurd account.2.2 missing
  decides values := by
    cases values with
    | nil => exact .inr ⟨1, [1], List.cons_ne_nil _ _, rfl⟩
    | cons first rest => exact .inl ⟨first, [first], rest, rfl, rfl⟩

theorem spends_value (value : α) :
    Spends sides (fun script => (.ok value, script)) fun found draws =>
      found = value ∧ draws = [] where
  gives := by
    rintro _ _ ⟨rfl, rfl⟩ rest asked
    rfl
  fails := by
    rintro found values more ⟨-, none⟩ missing asked
    exact absurd (List.append_eq_nil_iff.1 none).2 missing
  decides values := .inl ⟨value, [], values, rfl, rfl, rfl⟩

theorem Spends.of_iff {step : Script → Except DrawError α × Script}
    {spent spent' : α → List Int → Prop} (spends : Spends sides step spent)
    (same : ∀ value draws, spent value draws ↔ spent' value draws) : Spends sides step spent' := by
  have equal : spent = spent' := funext fun value => funext fun draws => propext (same value draws)
  exact equal ▸ spends

/-- Values that are cut in two places: one cut lies before the other, or it does not. -/
theorem exists_between_of_append_eq {left right values more : List Int}
    (whole : left ++ right = values ++ more) :
    (∃ between, between ≠ [] ∧ left = values ++ between) ∨
      ∃ between, values = left ++ between ∧ right = between ++ more := by
  rcases List.append_eq_append_iff.1 whole with ⟨between, rfl, rfl⟩ | ⟨between, rfl, rfl⟩
  · exact .inr ⟨between, rfl, rfl⟩
  · by_cases same : between = []
    · subst same
      exact .inr ⟨[], by simp, rfl⟩
    · exact .inl ⟨between, same, rfl⟩

/-- One computation after the other spends the draws of the first and then those of the second. -/
theorem Spends.chain {first : Script → Except DrawError α × Script}
    {next : α → Script → Except DrawError β × Script} {begun : α → List Int → Prop}
    {continued : α → β → List Int → Prop} (before : Spends sides first begun)
    (behind : ∀ value, Spends sides (next value) (continued value)) :
    Spends sides (chain first next) fun result draws =>
      ∃ value left right, draws = left ++ right ∧ begun value left ∧
        continued value result right where
  gives := by
    rintro result _ ⟨value, left, right, rfl, account, account'⟩ rest asked
    rw [DiceTray.chain, List.append_assoc, before.gives account]
    dsimp only
    rw [(behind value).gives account', ← List.append_assoc, List.replicate_append_replicate,
      List.length_append, Nat.add_comm]
  fails := by
    rintro result values more ⟨value, left, right, whole, account, account'⟩ missing asked
    -- The script ends within the draws of the first computation or within those of the second.
    rcases exists_between_of_append_eq whole.symm with ⟨between, some, rfl⟩ | ⟨between, rfl, rfl⟩
    · rw [DiceTray.chain, before.fails account some]
    · rw [DiceTray.chain, before.gives account]
      dsimp only
      rw [(behind value).fails account' missing, ← List.append_assoc,
        List.replicate_append_replicate, List.length_append, Nat.add_right_comm,
        Nat.add_comm between.length]
  decides values := by
    rcases before.decides values with ⟨value, draws, rest, rfl, account⟩ |
      ⟨value, more, missing, account⟩
    · rcases (behind value).decides rest with ⟨result, others, left, rfl, account'⟩ |
        ⟨result, more, missing, account'⟩
      · exact .inl ⟨result, draws ++ others, left, (List.append_assoc _ _ _).symm, value, draws,
          others, rfl, account, account'⟩
      · exact .inr ⟨result, more, missing, value, draws, rest ++ more, List.append_assoc _ _ _,
          account, account'⟩
    · -- The script ends within the first computation; the second one starts without draws.
      obtain ⟨result, others, account'⟩ : ∃ result others, continued value result others := by
        rcases (behind value).decides [] with ⟨result, draws, _, _, account'⟩ |
          ⟨result, others, _, account'⟩
        · exact ⟨result, draws, account'⟩
        · exact ⟨result, others, account'⟩
      exact .inr ⟨result, more ++ others, List.append_ne_nil_of_left_ne_nil missing _, value,
        values ++ more, others, (List.append_assoc _ _ _).symm, account, account'⟩

/-- What is done several times spends the draws of each time, one after the other. -/
theorem Spends.collect {step : Script → Except DrawError α × Script} {spent : α → List Int → Prop}
    (once : Spends sides step spent) (count : Nat) (done : List α) :
    Spends sides (collect step count done) fun values draws =>
      ∃ made, values = done.reverse ++ made ∧ made.length = count ∧ InBlocks spent made draws := by
  induction count generalizing done with
  | zero =>
    refine (spends_value done.reverse).of_iff fun values draws => ?_
    simp only [List.length_eq_zero_iff]
    constructor
    · rintro ⟨rfl, rfl⟩
      exact ⟨[], (List.append_nil _).symm, rfl, inBlocks_nil_iff.2 rfl⟩
    · rintro ⟨_, rfl, rfl, none⟩
      exact ⟨List.append_nil _, inBlocks_nil_iff.1 none⟩
  | succ count inductionHypothesis =>
    have all := once.chain fun value => inductionHypothesis (value :: done)
    refine Spends.of_iff all fun values draws => ?_
    constructor
    · rintro ⟨value, left, right, rfl, here, made, rfl, rfl, later⟩
      refine ⟨value :: made, ?_, rfl, inBlocks_cons_iff.2 ⟨left, right, rfl, here, later⟩⟩
      rw [List.reverse_cons, List.append_assoc, List.singleton_append]
    · rintro ⟨_ | ⟨value, made⟩, rfl, length, blocks⟩
      · cases length
      · obtain ⟨left, right, rfl, here, later⟩ := inBlocks_cons_iff.1 blocks
        refine ⟨value, left, right, rfl, here, made, ?_, Nat.succ.inj length, later⟩
        rw [List.reverse_cons, List.append_assoc, List.singleton_append]

variable {step : Script → Except DrawError α × Script} {spent : α → List Int → Prop}

/-- A value comes of a script exactly when the script begins with the draws for it. -/
theorem Spends.eq_ok_iff (spends : Spends sides step spent) {values : List Int}
    {asked : List (Int × Int)} {value : α} {after : Script} :
    step ⟨values, asked⟩ = (.ok value, after) ↔
      ∃ draws, values = draws ++ after.left ∧ spent value draws ∧
        after.asked = List.replicate draws.length (1, sides) ++ asked := by
  constructor
  · intro done
    rcases spends.decides values with ⟨found, draws, rest, rfl, account⟩ |
      ⟨found, more, missing, account⟩
    · rw [spends.gives account] at done
      cases done
      exact ⟨draws, rfl, account, rfl⟩
    · rw [spends.fails account missing] at done
      cases done
  · obtain ⟨left, requests⟩ := after
    rintro ⟨draws, rfl, account, rfl⟩
    exact spends.gives account left asked

/-- An error comes of a script exactly when the script ends within the draws for a value. -/
theorem Spends.eq_error_iff (spends : Spends sides step spent) {values : List Int}
    {asked : List (Int × Int)} {error : DrawError} {after : Script} :
    step ⟨values, asked⟩ = (.error error, after) ↔
      (∃ value more, more ≠ [] ∧ spent value (values ++ more)) ∧ error = .exhausted ∧
        after = ⟨[], List.replicate (values.length + 1) (1, sides) ++ asked⟩ := by
  constructor
  · intro failed
    rcases spends.decides values with ⟨found, draws, rest, rfl, account⟩ |
      ⟨found, more, missing, account⟩
    · rw [spends.gives account] at failed
      cases failed
    · rw [spends.fails account missing] at failed
      cases failed
      exact ⟨⟨found, more, missing, account⟩, rfl, rfl⟩
  · rintro ⟨⟨value, more, missing, account⟩, rfl, rfl⟩
    exact spends.fails account missing asked

/-- A script ends within the draws for a value exactly when it does not begin with such draws. -/
theorem Spends.ends_iff (spends : Spends sides step spent) {values : List Int} :
    (∃ value more, more ≠ [] ∧ spent value (values ++ more)) ↔
      ¬ ∃ value draws rest, values = draws ++ rest ∧ spent value draws := by
  constructor
  · rintro ⟨value, more, missing, account⟩ ⟨found, draws, rest, rfl, account'⟩
    have failed := spends.fails account missing []
    rw [spends.gives account'] at failed
    cases failed
  · exact (spends.decides values).resolve_left

end Steps

namespace Expression

/-- The draws that are spent on a die which ends up with a value. -/
inductive DieDraws (expression : Expression) : Int → List Int → Prop
  /-- The first value counts, as it is no one or ones are not rolled again. -/
  | kept {value : Int} (stays : expression.reroll = false ∨ value ≠ 1) :
      DieDraws expression value [value]
  /-- The first value is a one and is rolled again, and whatever comes then counts. -/
  | rerolled {value : Int} (again : expression.reroll = true) : DieDraws expression value [1, value]

/-- A result of an expression and the draws that are spent on its dice. -/
structure Accounts (expression : Expression) (result : Result) (draws : List Int) : Prop where
  dice : result.rolls.length = expression.count.toNat
  modifier : result.modifier = expression.modifier
  total : result.total = result.rolls.sum + expression.modifier
  /-- Each value has its block of draws. -/
  blocks : InBlocks expression.DieDraws result.rolls draws

/-- The results of an expression, one for each repetition, and the draws that are spent on them. -/
def AccountsAll (expression : Expression) (results : List Result) (draws : List Int) : Prop :=
  results.length = expression.repetitions.toNat ∧ InBlocks expression.Accounts results draws

/-- A script that ends before all dice of an expression are rolled. -/
def TooShort (expression : Expression) (script : List Int) : Prop :=
  ∃ results more, more ≠ [] ∧ expression.AccountsAll results (script ++ more)

/-- A die takes two draws at most. -/
theorem DieDraws.length_le {expression : Expression} {value : Int} {draws : List Int}
    (account : expression.DieDraws value draws) : draws.length ≤ 2 := by
  cases account <;> simp

/-- With rerolls a die ends up with a one only after a one was rolled again. -/
theorem DieDraws.eq_of_one {expression : Expression} {draws : List Int}
    (account : expression.DieDraws 1 draws) (again : expression.reroll = true) :
    draws = [1, 1] := by
  cases account with
  | kept stays =>
    rcases stays with never | other
    · exact absurd (again.symm.trans never) (by decide)
    · exact absurd rfl other
  | rerolled => rfl

variable (expression : Expression)

theorem spends_rollDie : Spends expression.sides expression.rollDie expression.DieDraws := by
  have second (value : Int) : Spends expression.sides
      (fun script => if expression.reroll ∧ value = 1 then draw script 1 expression.sides
        else (.ok value, script))
      fun result draws => if expression.reroll ∧ value = 1 then draws = [result]
        else result = value ∧ draws = [] := by
    by_cases again : expression.reroll ∧ value = 1
    · simp only [if_pos again]
      exact spends_draw
    · simp only [if_neg again]
      exact spends_value value
  rw [rollDie_eq_chain]
  refine (spends_draw.chain second).of_iff fun value draws => ?_
  constructor
  · rintro ⟨first, _, right, rfl, rfl, account⟩
    split at account
    · next again =>
      obtain ⟨again, rfl⟩ := again
      subst account
      exact .rerolled again
    · next never =>
      obtain ⟨rfl, rfl⟩ := account
      rw [not_and_or, Bool.not_eq_true] at never
      exact .kept never
  · intro account
    cases account with
    | kept stays =>
      refine ⟨value, [value], [], rfl, rfl, ?_⟩
      rw [← Bool.not_eq_true, ← not_and_or] at stays
      rw [if_neg stays]
      exact ⟨rfl, rfl⟩
    | rerolled again =>
      refine ⟨1, [1], [value], rfl, rfl, ?_⟩
      rw [if_pos ⟨again, rfl⟩]

theorem spends_rollOnce : Spends expression.sides expression.rollOnce expression.Accounts := by
  rw [rollOnce_eq_chain]
  refine ((expression.spends_rollDie.collect _ []).chain fun rolls =>
    spends_value (Result.ofRolls expression.modifier rolls)).of_iff fun result draws => ?_
  constructor
  · rintro ⟨rolls, left, _, rfl, ⟨made, rfl, length, blocks⟩, rfl, rfl⟩
    rw [List.append_nil]
    exact ⟨length, rfl, rfl, blocks⟩
  · rintro ⟨dice, modifier, total, blocks⟩
    refine ⟨result.rolls, draws, [], (List.append_nil _).symm, ⟨result.rolls, rfl, dice, blocks⟩,
      ?_, rfl⟩
    obtain ⟨rolls, added, sum⟩ := result
    obtain rfl : added = expression.modifier := modifier
    obtain rfl : sum = rolls.sum + expression.modifier := total
    rfl

theorem spends_roll : Spends expression.sides expression.roll expression.AccountsAll := by
  refine (expression.spends_rollOnce.collect _ []).of_iff fun results draws => ?_
  constructor
  · rintro ⟨made, rfl, length, blocks⟩
    exact ⟨length, blocks⟩
  · rintro ⟨length, blocks⟩
    exact ⟨results, rfl, length, blocks⟩

/-- A roll from a script gives results exactly when the script begins with the draws for them, one
block for each die in the order of the repetitions and of the dice; it asks for each of these draws
once and leaves the others. It fails exactly when the script is too short, which no beginning of it
accounts for: then all values are used up and one more is asked for. A block has two draws at most,
and it ends in a one that was rolled again only after another one. -/
theorem roll_accounts_for_every_draw (script : List Int) :
    (∀ results after, expression.roll (Script.ofList script) = (.ok results, after) ↔
      ∃ draws, script = draws ++ after.left ∧ expression.AccountsAll results draws ∧
        after.calls = List.replicate draws.length (1, expression.sides)) ∧
    (∀ error after, expression.roll (Script.ofList script) = (.error error, after) ↔
      expression.TooShort script ∧ error = .exhausted ∧ after.left = [] ∧
        after.calls = List.replicate (script.length + 1) (1, expression.sides)) ∧
    (expression.TooShort script ↔
      ¬ ∃ results draws rest, script = draws ++ rest ∧ expression.AccountsAll results draws) ∧
    ∀ value draws, expression.DieDraws value draws → draws.length ≤ 2 ∧
      (expression.reroll = true → value = 1 → draws = [1, 1]) := by
  have asked (after : Script) (requests : Nat) :
      after.asked = List.replicate requests (1, expression.sides) ++ [] ↔
        after.calls = List.replicate requests (1, expression.sides) := by
    rw [Script.calls, List.append_nil, List.reverse_eq_iff, List.reverse_replicate]
  refine ⟨fun results after => ?_, fun error after => ?_, expression.spends_roll.ends_iff,
    fun value draws account => ⟨account.length_le, ?_⟩⟩
  · simp only [Script.ofList, expression.spends_roll.eq_ok_iff, asked]
  · rw [Script.ofList, expression.spends_roll.eq_error_iff, TooShort, ← asked]
    obtain ⟨left, requests⟩ := after
    rw [Script.mk.injEq]
  · rintro again rfl
    exact account.eq_of_one again

example : ({ count := 2, sides := 6, reroll := true, modifier := 2 } : Expression).roll
    (Script.ofList [1, 4, 3, 2]) = (.ok [⟨[4, 3], 2, 9⟩], ⟨[2], [(1, 6), (1, 6), (1, 6)]⟩) := by
  rfl

end Expression

end DiceTray
