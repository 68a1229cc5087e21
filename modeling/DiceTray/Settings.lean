import DiceTray.Fault
import DiceTray.Journal
import DiceTray.Text.Case

/-!
# Settings

What the environment and the chosen profile decide: where the files are, what is logged, and whether
draws are kept.
-/

namespace DiceTray

/-- What the settings depend on, apart from a profile. -/
structure Environment where
  /-- Variables by name, of which the first with a name counts. -/
  bindings : List (String × String)
  /-- The home directory of the user who runs the program. -/
  userHome : String
  /-- The home directories of users by name. -/
  homes : List (String × String)

/-- The value of a variable. -/
def Environment.get? (environment : Environment) (name : String) : Option String :=
  environment.bindings.lookup name

/-- The home directory that a sign stands for: the tilde alone that of the user who runs the
program, and one with a name that of the user with this name. -/
def Environment.home? (environment : Environment) (sign : String) : Option String :=
  if sign = "~" then some environment.userHome
  else environment.homes.lookup (String.ofList (sign.toList.drop 1))

/-- The settings of a run. -/
structure Settings where
  /-- The directory of all files. -/
  home : Files.Path
  /-- What a profile adds to the name of the alias file. -/
  profile : Option String := none
  levelName : String := "WARNING"
  /-- Records of at least this level are shown. -/
  level : Level := .warning
  recordHistory : Bool := true
deriving DecidableEq

namespace Settings

/-- The name of the alias file. -/
def aliasFile : String := ".roll"

/-- The name of the history file. -/
def historyFile : String := ".roll.history"

/-- The alias file of the profile. -/
def aliasPath (settings : Settings) : Files.Path :=
  settings.home.child
    (match settings.profile with
    | some suffix => aliasFile ++ "." ++ suffix
    | none => aliasFile)

/-- The history file, which all profiles share. -/
def historyPath (settings : Settings) : Files.Path :=
  settings.home.child historyFile

/-- What is left of a profile's name: its ASCII letters in lower case, if there are any. -/
def profileSuffix (profile : Option String) : Option String :=
  (profile.map fun name => String.ofList ((Text.lowercaseChars name.toList).filter Char.isAlpha))
    |>.filter fun suffix => !suffix.isEmpty

/-- The path of a home directory; a name of slashes alone, or none, is the root. -/
def homePath (home : String) : Files.Path :=
  .ofString (if home.toList.all (· = '/') then "/" else home)

/-- A path with the home sign in front replaced by the home directory that it stands for. -/
def expandHome (environment : Environment) (path : Files.Path) :
    Except SettingsError Files.Path :=
  match path.homeSign? with
  | none => .ok path
  | some sign =>
    match environment.home? sign with
    | none => .error .unknownUser
    | some home =>
      if home.startsWith "~" then .error .unknownUser
      else .ok { homePath home with names := (homePath home).names ++ path.names.drop 1 }

/-- The directory of all files: the one that a variable names, or else the user's home. -/
def directory (environment : Environment) : Except SettingsError Files.Path := do
  let named ←
    match environment.get? "DICE_NOTATION_HOME" with
    | none | some "" => expandHome environment (.ofString "~")
    | some text => .ok (.ofString text)
  expandHome environment named

/-- The values that switch a variable off. -/
def falseValues : List String := ["0", "false", "no", "off"]

/-- The settings that an environment and a profile's name decide. -/
def load (profile : Option String) (environment : Environment) :
    Except SettingsError Settings := do
  let home ← directory environment
  let levelName := Text.uppercase
    (Text.trim ((environment.get? "DICE_NOTATION_LOG_LEVEL").getD "WARNING"))
  match Level.ofName? levelName with
  | none => throw (.unknownLevel levelName)
  | some level =>
    let recorded := Text.lowercase
      (Text.trim ((environment.get? "DICE_NOTATION_HISTORY").getD "1"))
    return {
      home, levelName, level
      profile := profileSuffix profile
      recordHistory := !falseValues.contains recorded }

end Settings

end DiceTray
