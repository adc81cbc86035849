import Clausal.Environment

/-!
# Loggers

A logger lets events through from a level on.  The level is asked for by name,
by the caller or else by the environment; a name that means nothing stands for
the level of information.  Two names mean something else than a level, the
default format of messages and the table of its styles, and cannot be used.  A
logger is set up once under its name: asking for it again changes its level and
nothing else.
-/

namespace Clausal

namespace LogLevel

/-- The levels that have names. -/
def named : List (Text × Nat) :=
  [("CRITICAL", 50), ("FATAL", 50), ("ERROR", 40), ("WARNING", 30), ("WARN", 30),
   ("INFO", 20), ("DEBUG", 10), ("NOTSET", 0)]

/-- The level of information. -/
def information : Nat := 20

/-- The variable that gives the level. -/
def levelVariable : Text := "CRYPTOCNF_LOG_LEVEL"

/-- A code point in upper case, as far as that is in ASCII: the dotless i and
the long s have the capitals I and S, and two ligatures have ST. -/
def upper (n : Nat) : Text :=
  if 0x61 ≤ n && n ≤ 0x7A then [n - 0x20]
  else if n = 0x131 then "I"
  else if n = 0x17F then "S"
  else if n = 0xFB05 || n = 0xFB06 then "ST"
  else [n]

/-- The default format of messages. -/
def defaultFormat : String := "%(levelname)s:%(name)s:%(message)s"

/-- The styles that a format can be written in, each with its mark, its class
and its default format. -/
def styles : List (String × String × String) :=
  [("%", "Percent", defaultFormat),
   ("\x7b", "StrFormat", "\x7blevelname\x7d:\x7bname\x7d:\x7bmessage\x7d"),
   ("$", "StringTemplate", "$\x7blevelname\x7d:$\x7bname\x7d:$\x7bmessage\x7d")]

/-- The table of the styles as it is shown. -/
def shownStyles : String :=
  let shown := styles.map fun (mark, kind, format) =>
    s!"'{mark}': (<class 'logging.{kind}Style'>, '{format}')"
  "\x7b" ++ ", ".intercalate shown ++ "\x7d"

/-- The level of a name, in letters of either case. -/
def ofName (name : Text) : Except Error Nat :=
  let name := name.flatMap upper
  if name = Text.ofString "BASIC_FORMAT" then .error (.unknownLevel defaultFormat)
  else if name = Text.ofString "_STYLES" then .error (.levelKind shownStyles)
  else .ok ((named.lookup name).getD information)

/-- The level that a caller asks for, else the one of the environment. -/
def choose (asked : Option Text) (env : Environment) : Except Error Nat :=
  match asked.filter fun t => !t.isEmpty with
  | some name => ofName name
  | none => ofName ((env.get? levelVariable).getD "INFO")

end LogLevel

/-- A logger: its level, how many outputs it writes to, and whether it hands
events on to others. -/
structure Logger where
  name : Text
  level : Nat
  outputs : Nat := 1
  propagates : Bool := false
  deriving DecidableEq, Repr

/-- The loggers that have been asked for, in the order of their first use. -/
abbrev Loggers := List Logger

namespace Loggers

/-- The logger of a name with a new level, made first if there is none, and its
position. -/
def obtain (ls : Loggers) (name : Text) (level : Nat) : Loggers × Nat × Logger :=
  match ls.findIdx? fun l => l.name = name with
  | some i =>
      let old := ls.getD i ⟨name, level, 1, false⟩
      let updated := { old with level := level }
      (ls.set i updated, i, updated)
  | none => (ls ++ [⟨name, level, 1, false⟩], ls.length, ⟨name, level, 1, false⟩)

end Loggers

end Clausal
