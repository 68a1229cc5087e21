import DiceTray.Proofs.Files.Tree
import Mathlib.Data.List.Induction

/-!
# Making directories

Making a directory that exists changes nothing, and one that was made is there. Where a path leads
to a place at which nothing stands and goes straight on from there, directories are made at exactly
the places that were missing.
-/

namespace DiceTray.Files.Tree

variable {tree changed : Tree} {path : Path} {location : Location}

theorem makeDirectory_eq_ok_iff : tree.makeDirectory path = .ok changed ↔
    ∃ location, tree.locate path = .ok location ∧ tree.get? location = none ∧
      changed = tree.put location .directory := by
  rw [makeDirectory, bind_eq_ok_iff]
  refine exists_congr fun location => and_congr_right fun _ => ?_
  cases tree.get? location with
  | none => simp [pure, Except.pure, eq_comm]
  | some entry => simp [throw, throwThe, MonadExceptOf.throw]

/-- A directory is missing on the way exactly when the path leads nowhere. -/
theorem makeDirectory_eq_notFound_iff :
    tree.makeDirectory path = .error .notFound ↔ tree.locate path = .error .notFound := by
  rw [makeDirectory]
  cases tree.locate path with
  | error problem => simp [error_bind]
  | ok location =>
    rw [ok_bind]
    cases tree.get? location with
    | none => simp [pure, Except.pure]
    | some entry => simp [throw, throwThe, MonadExceptOf.throw]

theorem makeDirectory_of_isDirectory (there : tree.isDirectory path = true) :
    tree.makeDirectory path = .error .exists := by
  obtain ⟨location, located, found⟩ := isDirectory_iff.1 there
  rw [makeDirectory, located, ok_bind, found]
  rfl

/-- A directory that was just made is there. -/
theorem isDirectory_of_makeDirectory (made : tree.makeDirectory path = .ok changed) :
    tree.Keeps changed ∧ changed.isDirectory path = true := by
  obtain ⟨location, located, free, rfl⟩ := makeDirectory_eq_ok_iff.1 made
  have clear : tree.get? location ≠ some .directory := by simp [free]
  have keeps := keeps_put .directory clear
  exact ⟨keeps, isDirectory_iff.2 ⟨location, keeps.locate located, get?_put_self _ clear⟩⟩

theorem ensureDirectory_of_makeDirectory (made : tree.makeDirectory path = .ok changed) :
    tree.ensureDirectory path = (.ok (), changed) := by
  rw [ensureDirectory, made]

theorem ensureDirectory_of_isDirectory (there : tree.isDirectory path = true) :
    tree.ensureDirectory path = (.ok (), tree) := by
  rw [ensureDirectory, makeDirectory_of_isDirectory there]
  simp [there]

/-- A directory that could be ensured is there. -/
theorem isDirectory_of_ensureDirectory (ensured : tree.ensureDirectory path = (.ok (), changed)) :
    tree.Keeps changed ∧ changed.isDirectory path = true := by
  rw [ensureDirectory] at ensured
  split at ensured
  · next made =>
    cases ensured
    exact isDirectory_of_makeDirectory made
  · obtain ⟨result, rfl⟩ := Prod.mk.inj ensured
    by_cases there : tree.isDirectory path = true
    · exact ⟨.refl tree, there⟩
    · rw [if_neg there] at result
      cases result

/-- Making a directory that is there changes nothing. -/
theorem makeDirectories_of_isDirectory (there : tree.isDirectory path = true) :
    tree.makeDirectories path = (.ok (), tree) := by
  rw [makeDirectories]
  cases names : path.names.length with
  | zero =>
    have whole : { path with names := [] } = path := by
      rw [← List.eq_nil_of_length_eq_zero names]
    rw [makeDirectoriesUpTo, whole, ensureDirectory_of_isDirectory there]
  | succ count =>
    have whole : { path with names := path.names.take (count + 1) } = path := by
      rw [← names, List.take_length]
    rw [makeDirectoriesUpTo]
    simp only [whole, makeDirectory_of_isDirectory there, ensureDirectory_of_isDirectory there]

/-- Directories that could be made are there. -/
theorem isDirectory_of_makeDirectoriesUpTo {count : Nat}
    (made : tree.makeDirectoriesUpTo path count = (.ok (), changed)) :
    tree.Keeps changed ∧
      changed.isDirectory { path with names := path.names.take count } = true := by
  induction count generalizing changed with
  | zero => exact isDirectory_of_ensureDirectory made
  | succ count inductionHypothesis =>
    rw [makeDirectoriesUpTo] at made
    split at made
    · split at made
      · cases made
      · next middle holders =>
        have below := (inductionHypothesis holders).1
        obtain ⟨above, there⟩ := isDirectory_of_ensureDirectory made
        exact ⟨below.trans above, there⟩
    · exact isDirectory_of_ensureDirectory made

theorem isDirectory_of_makeDirectories (made : tree.makeDirectories path = (.ok (), changed)) :
    tree.Keeps changed ∧ changed.isDirectory path = true := by
  have there := isDirectory_of_makeDirectoriesUpTo made
  rwa [List.take_length] at there

/-- A file can be put at a path: its directory is there or can be made, the path then leads
somewhere, and no directory stands there. -/
def Writable (tree : Tree) (path : Path) : Prop :=
  ∃ made location, tree.makeDirectories path.parent = (.ok (), made) ∧
    made.locate path = .ok location ∧ made.get? location ≠ some .directory

/-- Where a directory cannot be made, though what should hold it is there, nothing is made. -/
theorem makeDirectories_of_error {problem : Problem}
    (failed : tree.makeDirectory path = .error problem) (held : problem ≠ .notFound)
    (elsewhere : tree.isDirectory path = false) :
    ∃ error, tree.makeDirectories path = (.error error, tree) := by
  have refused : tree.ensureDirectory path = (.error ⟨problem, path.text⟩, tree) := by
    rw [ensureDirectory, failed]
    simp [elsewhere]
  refine ⟨⟨problem, path.text⟩, ?_⟩
  rw [makeDirectories]
  cases names : path.names.length with
  | zero =>
    have whole : { path with names := [] } = path := by
      rw [← List.eq_nil_of_length_eq_zero names]
    rw [makeDirectoriesUpTo, whole, refused]
  | succ count =>
    have whole : { path with names := path.names.take (count + 1) } = path := by
      rw [← names, List.take_length]
    rw [makeDirectoriesUpTo]
    simp only [whole, failed]
    split
    · next missing => exact absurd (Except.error.inj missing) held
    · exact refused

section Gaps

/-- A name that leads down and is not too long. -/
def IsPlain (name : String) : Prop := name ≠ ".." ∧ name.utf8ByteSize ≤ longestName

instance (name : String) : Decidable (IsPlain name) := inferInstanceAs (Decidable (_ ∧ _))

/-- The location where a path begins. -/
def start (tree : Tree) (path : Path) : Location :=
  if path.anchor = .relative then tree.workingDirectory else []

/-- What stands somewhere stands in a directory. -/
def Sound (tree : Tree) : Prop :=
  ∀ location name, (tree.get? (location ++ [name])).isSome → tree.get? location = some .directory

/-- Once a path has come to a location where nothing stands, it only goes down, and by names that
directories may have. -/
def Steady (tree : Tree) (path : Path) : Prop :=
  ∀ before after gap, path.names = before ++ after →
    tree.follow (tree.start path) before = .ok gap → tree.get? gap = none →
    ∀ name ∈ after, IsPlain name

/-- It is enough that every entry stands in a directory. -/
theorem sound_of_entries
    (held : ∀ entry ∈ tree.entries.entries, tree.get? entry.1.dropLast = some .directory) :
    tree.Sound := by
  intro location name present
  obtain ⟨entry, found⟩ := Option.isSome_iff_exists.1 present
  rw [get?, if_neg (List.concat_ne_nil name location), ← OrderedMap.mem_entries_iff] at found
  have above := held _ found
  rwa [List.dropLast_concat] at above

/-- A path of plain names is steady in any tree. -/
theorem steady_of_plain (plain : ∀ name ∈ path.names, IsPlain name) : tree.Steady path := by
  intro before after gap split _ _ name member
  exact plain name (by rw [split]; exact List.mem_append_right before member)

/-- Nothing stands below a location where nothing stands. -/
theorem Sound.get?_below (sound : tree.Sound) {gap : Location} (absent : tree.get? gap = none)
    (names : List String) : tree.get? (gap ++ names) = none := by
  induction names generalizing gap with
  | nil => rwa [List.append_nil]
  | cons name rest inductionHypothesis =>
    have next : tree.get? (gap ++ [name]) = none := by
      cases found : tree.get? (gap ++ [name]) with
      | none => rfl
      | some entry =>
        rw [sound gap name (by rw [found]; rfl)] at absent
        cases absent
    rw [List.append_cons]
    exact inductionHypothesis next

theorem follow_append (tree : Tree) (base : Location) (front back : List String) :
    tree.follow base (front ++ back) =
      tree.follow base front >>= fun here => tree.follow here back := by
  induction front generalizing base with
  | nil => rfl
  | cons name rest inductionHypothesis =>
    rw [List.cons_append, follow, follow]
    split
    · rfl
    · rfl
    · split
      · exact inductionHypothesis _
      · split
        · rfl
        · exact inductionHypothesis _

theorem follow_of_gap {gap : Location} {names : List String} (absent : tree.get? gap = none)
    (present : names ≠ []) : tree.follow gap names = .error .notFound := by
  obtain ⟨name, rest, rfl⟩ := List.exists_cons_of_ne_nil present
  rw [follow, absent]

/-- A file in a directory stands one name below it. -/
theorem exists_directory_of_locate {home : Path} {name : String} (down : name ≠ "..")
    (located : tree.locate (home.child name) = .ok location) :
    ∃ directory, tree.follow (tree.start home) home.names = .ok directory ∧
      location = directory ++ [name] := by
  rw [Tree.locate] at located
  split at located
  · cases located
  · rw [Path.child, follow_append, bind_eq_ok_iff] at located
    obtain ⟨directory, led, last⟩ := located
    refine ⟨directory, led, ?_⟩
    rw [follow] at last
    split at last
    · cases last
    · cases last
    · rw [if_neg down] at last
      split at last
      · cases last
      · cases last
        rfl

/-- Names that lead nowhere lead to a location where nothing stands, and on. -/
theorem exists_gap_of_follow {names : List String} {base : Location}
    (lost : tree.follow base names = .error .notFound) :
    ∃ before name after gap, names = before ++ name :: after ∧
      tree.follow base before = .ok gap ∧ tree.get? gap = none := by
  induction names generalizing base with
  | nil => cases lost
  | cons name rest inductionHypothesis =>
    cases found : tree.get? base with
    | none => exact ⟨[], name, rest, base, rfl, rfl, found⟩
    | some entry =>
      have onward (step : ∀ names, tree.follow base (name :: names) =
          tree.follow (if name = ".." then base.dropLast else base ++ [name]) names) :
          ∃ before next after gap, name :: rest = before ++ next :: after ∧
            tree.follow base before = .ok gap ∧ tree.get? gap = none := by
        rw [step] at lost
        obtain ⟨before, next, after, gap, same, led, absent⟩ := inductionHypothesis lost
        exact ⟨name :: before, next, after, gap, by rw [same, List.cons_append],
          by rw [step, led], absent⟩
      rw [follow, found] at lost
      cases entry with
      | file contents => cases lost
      | directory =>
        by_cases up : name = ".."
        · exact onward fun names => by rw [follow, found]; simp [up]
        · by_cases long : longestName < name.utf8ByteSize
          · simp [up, long] at lost
          · exact onward fun names => by rw [follow, found]; simp [up, long]

/-- Plain names lead down through directories. -/
theorem follow_down {names : List String} {base : Location}
    (plain : ∀ name ∈ names, IsPlain name)
    (through : ∀ part name, part ++ [name] <+: names →
      tree.get? (base ++ part) = some .directory) :
    tree.follow base names = .ok (base ++ names) := by
  induction names generalizing base with
  | nil => rw [follow, List.append_nil]
  | cons name rest inductionHypothesis =>
    obtain ⟨down, short⟩ := plain name List.mem_cons_self
    have here := through [] name (by simp)
    rw [List.append_nil] at here
    rw [follow, here, List.append_cons base name rest]
    simp only [down, if_false, Nat.not_lt.2 short]
    refine inductionHypothesis
      (fun other member => plain other (List.mem_cons_of_mem name member)) ?_
    intro part next starts
    rw [← List.append_cons]
    exact through (name :: part) next (by simpa using starts)

/-- One tree is another with the directories made from a gap down along names. -/
structure Opened (tree made : Tree) (gap : Location) (names : List String) : Prop where
  /-- Directories stand on the way, and nothing else changed. -/
  get?_eq : ∀ location, made.get? location =
    if gap <+: location ∧ location <+: gap ++ names then some .directory else tree.get? location
  workingDirectory : made.workingDirectory = tree.workingDirectory

namespace Opened

variable {made : Tree} {gap : Location} {names : List String}

theorem keeps (opened : tree.Opened made gap names) : tree.Keeps made where
  directories := by
    intro location there
    rw [opened.get?_eq, there, ite_self]
  workingDirectory := opened.workingDirectory

theorem get?_way (opened : tree.Opened made gap names) {part : List String}
    (on : part <+: names) : made.get? (gap ++ part) = some .directory := by
  rw [opened.get?_eq, if_pos ⟨List.prefix_append gap part, (List.prefix_append_right_inj gap).2 on⟩]

/-- Beyond the way still nothing stands. -/
theorem get?_beyond (opened : tree.Opened made gap names) (sound : tree.Sound)
    (absent : tree.get? gap = none) (name : String) :
    made.get? (gap ++ (names ++ [name])) = none := by
  have off : ¬ gap ++ (names ++ [name]) <+: gap ++ names := by
    intro within
    have size := within.length_le
    simp only [List.length_append, List.length_cons] at size
    omega
  rw [opened.get?_eq, if_neg fun on => off on.2, sound.get?_below absent]

/-- A path that leads to the gap and on by plain names leads one name beyond the way. -/
theorem locate (opened : tree.Opened made gap names) {before : List String} {name : String}
    {path : Path} (split : path.names = before ++ (names ++ [name]))
    (short : ¬ longestPath ≤ path.text.utf8ByteSize)
    (led : tree.follow (tree.start path) before = .ok gap)
    (plain : ∀ other ∈ names ++ [name], IsPlain other) :
    made.locate path = .ok (gap ++ (names ++ [name])) := by
  have begun : made.start path = tree.start path := by
    rw [start, start, opened.workingDirectory]
  have down : made.follow gap (names ++ [name]) = .ok (gap ++ (names ++ [name])) := by
    refine follow_down plain fun part next starts => opened.get?_way ?_
    have size := starts.length_le
    simp only [List.length_append, List.length_cons, List.length_nil] at size
    exact List.prefix_of_prefix_length_le ((List.prefix_append part [next]).trans starts)
      (List.prefix_append names [name]) (by omega)
  rw [Tree.locate, if_neg short, ← start, begun, split, follow_append, opened.keeps.follow led,
    ok_bind, down]

end Opened

/-- The way from a gap along no names is the gap. -/
theorem opened_put {gap : Location} (absent : tree.get? gap = none) :
    tree.Opened (tree.put gap .directory) gap [] where
  get?_eq := by
    intro location
    have free : tree.get? gap ≠ some .directory := by simp [absent]
    rw [get?_put _ _ _ _ (ne_root_of_get?_ne free), List.append_nil]
    by_cases here : location = gap
    · subst here
      simp
    · rw [if_neg here, if_neg fun on => here (on.2.eq_of_length_le on.1.length_le)]
  workingDirectory := rfl

/-- A way becomes longer when a directory is made beyond it. -/
theorem Opened.put {made : Tree} {gap : Location} {names : List String}
    (opened : tree.Opened made gap names) (name : String)
    (absent : made.get? (gap ++ (names ++ [name])) = none) :
    tree.Opened (made.put (gap ++ (names ++ [name])) .directory) gap (names ++ [name]) where
  get?_eq := by
    intro location
    have free : made.get? (gap ++ (names ++ [name])) ≠ some .directory := by simp [absent]
    rw [get?_put _ _ _ _ (ne_root_of_get?_ne free), opened.get?_eq]
    by_cases here : location = gap ++ (names ++ [name])
    · subst here
      simp
    · have same : location <+: gap ++ (names ++ [name]) ↔ location <+: gap ++ names := by
        rw [← List.append_assoc, List.prefix_concat_iff]
        exact or_iff_right (by rwa [List.append_assoc])
      rw [if_neg here]
      simp only [same]
  workingDirectory := opened.workingDirectory

section Names

/-- The text of a path is not shorter than that of a path with fewer names. -/
theorem size_text_le {path : Path} {front back : List String} (split : path.names = front ++ back)
    (long : longestPath ≤ { path with names := front }.text.utf8ByteSize) :
    longestPath ≤ path.text.utf8ByteSize := by
  cases front with
  | nil =>
    have size : { path with names := [] }.text.utf8ByteSize ≤ 2 := by
      rw [Path.text]
      cases path.anchor <;> decide
    exact absurd (Nat.le_trans long size) (by decide)
  | cons name rest =>
    cases back with
    | nil =>
      rw [List.append_nil] at split
      rwa [← split] at long
    | cons next others =>
      have shown : ¬ (path.anchor = .relative ∧ path.names = []) := by simp [split]
      have front : ¬ (path.anchor = .relative ∧ name :: rest = []) := by simp
      rw [Path.text, if_neg front] at long
      rw [Path.text, if_neg shown, split, String.intercalate_append_of_ne_nil (by simp) (by simp)]
      simp only [String.utf8ByteSize_append] at long ⊢
      omega

end Names

/-- A path that goes on beyond a gap leads nowhere. -/
theorem locate_of_gap {before beyond : List String} {gap : Location}
    (split : path.names = before ++ beyond) (short : ¬ longestPath ≤ path.text.utf8ByteSize)
    (led : tree.follow (tree.start path) before = .ok gap) (absent : tree.get? gap = none)
    (further : beyond ≠ []) : tree.locate path = .error .notFound := by
  have nowhere := follow_of_gap absent further
  rw [Tree.locate, if_neg short, ← start, split, follow_append, led, ok_bind, nowhere]

/-- Along a steady path that comes to a gap, all directories that are missing are made. -/
theorem makeDirectoriesUpTo_of_gap (sound : tree.Sound) {before names after : List String}
    {gap : Location} (split : path.names = before ++ (names ++ after))
    (short : ¬ longestPath ≤ path.text.utf8ByteSize)
    (led : tree.follow (tree.start path) before = .ok gap) (absent : tree.get? gap = none)
    (plain : ∀ name ∈ names, IsPlain name) :
    ∃ made, tree.makeDirectoriesUpTo path (before.length + names.length) = (.ok (), made) ∧
      tree.Opened made gap names := by
  -- on the names behind the gap, the last one first, as the recursion goes
  induction names using List.reverseRecOn generalizing after with
  | nil =>
    have front : path.names.take before.length = before := by simp [split]
    have located : tree.locate { path with names := before } = .ok gap := by
      rw [Tree.locate, if_neg fun long => short (size_text_le split long)]
      exact led
    have made : tree.makeDirectory { path with names := before } = .ok (tree.put gap .directory) :=
      makeDirectory_eq_ok_iff.2 ⟨gap, located, absent, rfl⟩
    have ensured := ensureDirectory_of_makeDirectory made
    refine ⟨_, ?_, opened_put absent⟩
    rw [List.length_nil, Nat.add_zero]
    cases count : before.length with
    | zero =>
      rw [List.eq_nil_of_length_eq_zero count] at ensured
      rw [makeDirectoriesUpTo, ensured]
    | succ count' =>
      rw [makeDirectoriesUpTo, ← count, front]
      simp only [made, ensured]
  | append_singleton names name inductionHypothesis =>
    rw [List.append_assoc, List.singleton_append] at split
    obtain ⟨made, ready, opened⟩ := inductionHypothesis split
      fun other member => plain other (List.mem_append_left [name] member)
    have whole : path.names = (before ++ (names ++ [name])) ++ after := by simp [split]
    have brief : ¬ longestPath ≤
        { path with names := before ++ (names ++ [name]) }.text.utf8ByteSize :=
      fun long => short (size_text_le whole long)
    have lost : tree.locate { path with names := before ++ (names ++ [name]) } =
        .error .notFound := locate_of_gap rfl brief led absent (List.concat_ne_nil name names)
    have missing := opened.get?_beyond sound absent name
    have located : made.locate { path with names := before ++ (names ++ [name]) } =
        .ok (gap ++ (names ++ [name])) := opened.locate rfl brief led plain
    have done := ensureDirectory_of_makeDirectory
      (makeDirectory_eq_ok_iff.2 ⟨_, located, missing, rfl⟩)
    have front : path.names.take (before.length + names.length + 1) =
        before ++ (names ++ [name]) := by
      rw [whole, List.take_left' (by simp [Nat.add_assoc])]
    refine ⟨_, ?_, opened.put name missing⟩
    rw [List.length_append, List.length_singleton, ← Nat.add_assoc, makeDirectoriesUpTo, front]
    simp only [makeDirectory_eq_notFound_iff.2 lost, ready, done]

/-- What making the directory of a file comes to, when the path of the file is steady: it fails and
changes nothing, or the directory is there already, or it is made and holds no such file; before,
the path led nowhere. -/
theorem makeDirectories_of_steady (sound : tree.Sound) {home : Path} {name : String}
    (steady : tree.Steady (home.child name))
    (short : ¬ longestPath ≤ (home.child name).text.utf8ByteSize) :
    (∃ error, tree.makeDirectories home = (.error error, tree)) ∨
      tree.isDirectory home = true ∨
      ∃ made location, tree.makeDirectories home = (.ok (), made) ∧
        made.isDirectory home = true ∧ tree.locate (home.child name) = .error .notFound ∧
        made.locate (home.child name) = .ok location ∧ made.get? location = none := by
  have brief : ¬ longestPath ≤ home.text.utf8ByteSize := fun long => by
    have split : (home.child name).names = home.names ++ [name] := rfl
    exact short (size_text_le split long)
  have opening {before after : List String} {gap : Location} (split : home.names = before ++ after)
      (led : tree.follow (tree.start home) before = .ok gap) (absent : tree.get? gap = none) :
      ∃ made location, tree.makeDirectories home = (.ok (), made) ∧
        made.isDirectory home = true ∧ tree.locate (home.child name) = .error .notFound ∧
        made.locate (home.child name) = .ok location ∧ made.get? location = none := by
    have whole : (home.child name).names = before ++ (after ++ [name]) := by
      rw [Path.child, split, List.append_assoc]
    have plain := steady before (after ++ [name]) gap whole led absent
    have all : home.names = before ++ (after ++ []) := by rw [split, List.append_nil]
    obtain ⟨made, ready, opened⟩ := makeDirectoriesUpTo_of_gap sound all brief led absent
      fun other member => plain other (List.mem_append_left [name] member)
    rw [← List.length_append, ← split] at ready
    have lost : tree.locate (home.child name) = .error .notFound :=
      locate_of_gap whole short led absent (List.concat_ne_nil name after)
    exact ⟨made, _, ready, (isDirectory_of_makeDirectories ready).2, lost,
      opened.locate whole short led plain, opened.get?_beyond sound absent name⟩
  cases made : tree.makeDirectory home with
  | ok changed =>
    obtain ⟨gap, located, absent, -⟩ := makeDirectory_eq_ok_iff.1 made
    rw [Tree.locate, if_neg brief] at located
    exact .inr (.inr (opening (List.append_nil _).symm located absent))
  | error problem =>
    by_cases there : tree.isDirectory home = true
    · exact .inr (.inl there)
    · by_cases missing : problem = .notFound
      · subst missing
        have lost := makeDirectory_eq_notFound_iff.1 made
        rw [Tree.locate, if_neg brief] at lost
        obtain ⟨before, next, after, gap, split, led, absent⟩ := exists_gap_of_follow lost
        exact .inr (.inr (opening split led absent))
      · exact .inl (makeDirectories_of_error made missing (Bool.eq_false_iff.2 there))

end Gaps

end DiceTray.Files.Tree
