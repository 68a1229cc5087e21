import DiceTray.History
import DiceTray.Proofs.Files.Preservation

/-!
# Adding to the history

What adding draws to the history file comes to: nothing is written when a number is too long for its
line or when there is no line, and otherwise the lines are placed behind what the file held, or the
file cannot be written and at most directories are left.
-/

namespace DiceTray.History

open Files

variable {tree : Tree} {path : Path}

/-- Bytes with lines behind them. -/
def withLines (lines : List String) (contents : ByteArray) : ByteArray :=
  contents ++ (block lines).toUTF8

theorem appendLines_cases (tree : Tree) (path : Path) (lines : List String) :
    (∃ error, (appendLines tree path lines).1.outcome = .error (.file error) ∧
      (appendLines tree path lines).2 = (tree.makeDirectories path.parent).2) ∨
    ((appendLines tree path lines).1.outcome = .ok lines.length ∧
      tree.Placed path (withLines lines) (appendLines tree path lines).2) := by
  rw [appendLines]
  cases directories : tree.makeDirectories path.parent with
  | mk outcome made =>
    cases outcome with
    | error error => exact .inl ⟨error, rfl, rfl⟩
    | ok done =>
      rcases Tree.settle_updated_cases directories (withLines lines) with
        ⟨error, failed⟩ | ⟨after, wrote, placed⟩
      · change made.append path (block lines).toUTF8 = _ at failed
        dsimp only
        rw [failed, directories]
        exact .inl ⟨error, rfl, rfl⟩
      · change made.append path (block lines).toUTF8 = _ at wrote
        dsimp only
        rw [wrote]
        exact .inr ⟨rfl, placed⟩

/-- Where the file can be written, adding lines to it succeeds. -/
theorem appendLines_of_writable (writable : tree.Writable path) (lines : List String) :
    (appendLines tree path lines).1.outcome = .ok lines.length ∧
      tree.Placed path (withLines lines) (appendLines tree path lines).2 := by
  rcases appendLines_cases tree path lines with ⟨error, failed, -⟩ | done
  · obtain ⟨made, location, ready, located, free⟩ := writable
    have changed : made.updated path (· ++ (block lines).toUTF8) = .ok (made.put location
        (.file (made.bytesAt location ++ (block lines).toUTF8))) :=
      Tree.updated_eq_ok_iff.2 ⟨location, located, free, rfl⟩
    rw [appendLines, ready] at failed
    dsimp only at failed
    rw [Tree.append, changed] at failed
    cases failed
  · exact done

/-- Adding draws writes their lines if it writes anything. -/
theorem appendAs_cases (program : String) (tree : Tree) (path : Path) (draws : Draws)
    (moment : Moment) :
    (∃ error, History.lines draws moment.stamp program = .error error ∧
      appendAs program tree path draws moment = (.failed (.number error), tree)) ∨
    (History.lines draws moment.stamp program = .ok [] ∧
      appendAs program tree path draws moment = (.done 0, tree)) ∨
    ∃ lines, History.lines draws moment.stamp program = .ok lines ∧ lines ≠ [] ∧
      appendAs program tree path draws moment = appendLines tree path lines := by
  rw [appendAs]
  cases History.lines draws moment.stamp program with
  | error error => exact .inl ⟨error, rfl, rfl⟩
  | ok lines =>
    cases lines with
    | nil => exact .inr (.inl ⟨rfl, rfl⟩)
    | cons first rest => exact .inr (.inr ⟨first :: rest, rfl, List.cons_ne_nil _ _, rfl⟩)

/-- What `appendAs_cases` says of this version. -/
theorem append_cases (tree : Tree) (path : Path) (draws : Draws) (moment : Moment) :
    (∃ error, History.lines draws moment.stamp programVersion = .error error ∧
      append tree path draws moment = (.failed (.number error), tree)) ∨
    (History.lines draws moment.stamp programVersion = .ok [] ∧
      append tree path draws moment = (.done 0, tree)) ∨
    ∃ lines, History.lines draws moment.stamp programVersion = .ok lines ∧ lines ≠ [] ∧
      append tree path draws moment = appendLines tree path lines :=
  appendAs_cases programVersion tree path draws moment

end DiceTray.History
