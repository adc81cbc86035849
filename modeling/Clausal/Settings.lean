import Clausal.Value.Reader
import Clausal.Environment

/-!
# Settings

Settings name a solver and say whether formulas are written with a header.
They come from the environment if it says anything about either, else from a
file in JSON, else they are the default ones.  A file that cannot be read or is
not JSON is passed over with a warning; one that is JSON but no record, or not
even UTF-8, is an error.  Both settings may be any value: the solver is checked
only when a solver is made from it, and the header by whether it counts as
true.
-/

namespace Clausal

/-- Settings of formulas and solvers. -/
structure Settings where
  solver : Value := .ofString "minisat22"
  header : Value := .bool false
  deriving Repr, Inhabited

/-- What is found where the environment says that the settings are. -/
inductive SettingsFile
  | absent
  | directory
  | contents (octets : List UInt8)
  deriving Repr, Inhabited

/-- Why a file was passed over. -/
inductive PassedOver
  | directory
  /-- Its text breaks the grammar of JSON at this place. -/
  | noJson (fault : Value.Fault) (place : Value.Place)
  deriving DecidableEq, Repr

/-- Settings in force, and the path of a file that was passed over. -/
structure LoadedSettings where
  settings : Settings := {}
  passedOver : Option (Text × PassedOver) := none
  deriving Repr, Inhabited

namespace PassedOver

/-- Why the file at a path was passed over. -/
def message (path : Text) : PassedOver → Text
  | .directory => "[Errno 21] Is a directory: " ++ Text.quoted path
  | .noJson fault place => s!"{fault.message}: {place.render}"

end PassedOver

namespace Settings

/-! ## Where settings come from -/

/-- The variable that names the solver. -/
def solverVariable : Text := "CRYPTOCNF_SOLVER"

/-- The variable that asks for the header. -/
def headerVariable : Text := "CRYPTOCNF_DIMACS_HEADER"

/-- The variable that tells where the file of settings is. -/
def pathVariable : Text := "CRYPTOCNF_CONFIG_PATH"

/-- The words that switch the header on. -/
def affirmatives : List Text :=
  ["1", "true", "yes", "on"]

/-- A code point of ASCII in lower case. -/
def lower (n : Nat) : Nat :=
  if 0x41 ≤ n && n ≤ 0x5A then n + 0x20 else n

/-- Whether a text switches the header on, in letters of either case and with
blanks around it. -/
def isAffirmative (t : Text) : Bool :=
  affirmatives.contains ((Text.trim t).map lower)

/-! ## Making settings -/

/-- The settings of the environment, if it makes any. -/
def ofEnvironment? (env : Environment) : Option Settings :=
  match env.nonempty? solverVariable, env.nonempty? headerVariable with
  | none, none => none
  | solver, header => some
      { solver := (solver.map Value.text).getD ({} : Settings).solver
        header := .bool (header.any isAffirmative) }

/-- Whether a value switches the header on. -/
def headerOf : Option Value → Bool
  | none => false
  | some (.text t) => isAffirmative t
  | some v => v.isTrue

/-- The settings that a value in a file makes. -/
def ofValue (v : Value) : Except Error Settings :=
  match v with
  | .record _ => .ok
      { solver := (v.field? "solver").getD ({} : Settings).solver
        header := .bool (headerOf (v.field? "dimacs_header")) }
  | _ => .error (.settingsKind v.kindWord)

/-- A text with one line feed at the end of each line, however the lines of the file
end. -/
def unifyLines : List Char → List Char
  | '\r' :: '\n' :: rest => '\n' :: unifyLines rest
  | '\r' :: rest => '\n' :: unifyLines rest
  | c :: rest => c :: unifyLines rest
  | [] => []

/-- The settings of the contents of a file, or what keeps them from being JSON, with
room for so many open lists and records. -/
def ofContents (room : Nat) (octets : List UInt8) :
    Except Error (Except PassedOver Settings) :=
  match Text.Utf8.decode octets with
  | .error defect => .error (.settingsEncoding defect)
  | .ok decoded =>
      let cs := unifyLines decoded
      match Value.read room cs with
      | .ok v => (ofValue v).map .ok
      | .error (.oversized digits) => .error (.settingsDigits digits)
      | .error (.tooDeep kind) => .error (.settingsDepth kind)
      | .error (.fault fault offset) =>
          .ok (.error (.noJson fault (.after (cs.take offset))))

/-- The settings of the file at a path. -/
def ofFile (room : Nat) (path : Text) : SettingsFile → Except Error LoadedSettings
  | .absent => .ok {}
  | .directory => .ok { passedOver := some (path, .directory) }
  | .contents octets => do
      match ← ofContents room octets with
      | .ok settings => pure { settings := settings }
      | .error why => pure { passedOver := some (path, why) }

/-- The settings in force, `files` telling what is found at a path. -/
def load (room : Nat) (env : Environment) (files : Text → SettingsFile) :
    Except Error LoadedSettings :=
  match ofEnvironment? env with
  | some settings => .ok { settings := settings }
  | none =>
      match env.nonempty? pathVariable with
      | some path => ofFile room path (files path)
      | none => .ok {}

end Settings

end Clausal
