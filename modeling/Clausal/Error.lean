import Clausal.Record
import Clausal.Text.Quoted
import Clausal.Text.Utf8

/-!
# Errors

Every operation that can fail gives a cause, a constructor of `Error` with the
data that it is about.  The wording is in one place, `Error.message`.

The wording is made where the failure is reported, and that can fail itself: an
integer with too many digits cannot be written.  The failure that is then
reported is this one, and not one of the library's own.
-/

namespace Clausal

/-- What an integer that must fit in a machine word is for. -/
inductive WordRole
  | value
  | constant
  deriving DecidableEq, Repr

/-- The cause of a failure. -/
inductive Error
  /-- Zero where a literal is needed. -/
  | zeroLiteral
  /-- A family declared twice. -/
  | duplicateFamily (name : Text)
  /-- A family that was never declared. -/
  | unknownFamily (name : Text)
  /-- Coordinates that are not one for each dimension. -/
  | coordinateCount (name : Text) (expected given : Nat)
  /-- Leading coordinates that are not one for each dimension but the last. -/
  | leadingCount (name : Text) (expected given : Nat)
  /-- An axis past the last one. -/
  | missingAxis (name : Text) (dimensions : Nat) (axis : Int)
  /-- A coordinate outside its dimension. -/
  | coordinateRange (name : Text) (position : Nat) (coordinate : Int) (bound : Nat)
  /-- A literal set equal to its opposite. -/
  | oppositeLiterals (left right : Int)
  /-- A chain of equalities that comes back to one of its literals. -/
  | equalityLoop (start repeated : Int)
  /-- An assignment without variables to take it. -/
  | noFamilies
  /-- A value asked for before an assignment is held. -/
  | unassigned
  /-- A literal beyond the assigned variables. -/
  | beyondAssignment (literal : Int) (size : Nat)
  /-- A word of an assignment that is no integer. -/
  | strayToken (token : Text)
  /-- An assignment that does not end. -/
  | missingTerminator
  /-- Two vectors of literals of different lengths. -/
  | lengthMismatch (left right : Nat)
  /-- An integer that does not fit in thirty-two unsigned bits. -/
  | wordRange (role : WordRole) (given : Int)
  /-- A negative bit width. -/
  | negativeWidth
  /-- A table that does not have one entry for each input. -/
  | tableLength (entries : Nat) (width : Nat)
  /-- A number with too many digits to be written. -/
  | numberTooLong
  /-- A width whose power of two has more digits than any integer. -/
  | powerTooLong
  /-- A width whose power of two takes more memory than there is. -/
  | outOfMemory
  /-- A table entry that does not fit in the outputs. -/
  | entryRange (position : Nat) (entry : Int) (width : Nat)
  /-- A table entry that is a text but no integer. -/
  | entryNumeral (entry : Text)
  /-- A table entry that is a text with too many digits. -/
  | entryDigits (digits : Nat)
  /-- A table entry of a kind that cannot be an integer. -/
  | entryKind (kind : String)
  /-- A table entry that is an infinity. -/
  | entryInfinite
  /-- A table entry that is a NaN. -/
  | entryNaN
  /-- Input literals that are not one for each input bit. -/
  | inputCount (expected given : Nat)
  /-- Output literals that are not one for each output bit. -/
  | outputCount (expected given : Nat)
  /-- A bit position past the width. -/
  | bitPosition
  /-- A list without the position asked for. -/
  | noSuchItem
  /-- A table without the position asked for. -/
  | noSuchEntry
  /-- A position in a list or table that does not fit in a machine word. -/
  | positionTooWide
  /-- An assignment without the variable that an equality leads to. -/
  | noSuchVariable (position : Int) (size : Nat)
  /-- A position in an assignment that no machine word holds. -/
  | noPosition
  /-- A value that has no members where a clause is needed. -/
  | noMembers (kind : String)
  /-- A solver that nobody knows. -/
  | unknownSolver (name : Text)
  /-- A solver that is known but cannot run. -/
  | solverUnavailable (name : Text)
  /-- A solver that is given a clause with a zero in it. -/
  | solverZero (name : Text)
  /-- A solver that is given a literal beyond sixty-four bits. -/
  | solverLiteral (name : Text) (engine : String)
  /-- An integer that does not fit in sixty-four bits with a sign. -/
  | beyondWord
  /-- Counts that take more octets than an array can have. -/
  | beyondArray
  /-- An array with more places than a machine word can count. -/
  | beyondDimension
  /-- An integer outside the range of binary64. -/
  | beyondBinary64
  /-- Settings that are no record. -/
  | settingsKind (kind : String)
  /-- Settings that are not in UTF-8. -/
  | settingsEncoding (defect : Text.Utf8.Defect)
  /-- Settings with an integer of too many digits. -/
  | settingsDigits (digits : Nat)
  /-- Settings with too many lists or records inside each other, the innermost
  of this kind. -/
  | settingsDepth (kind : String)
  /-- A variable of the environment that is set to no text. -/
  | environmentKind (kind : String)
  /-- A variable of the environment with a null character in it. -/
  | environmentNull
  /-- A text that UTF-8 cannot encode. -/
  | unencodable (gap : Text.Utf8.Gap)
  /-- A text that is no log level. -/
  | unknownLevel (level : Text)
  /-- Something else than a number or a text as log level. -/
  | levelKind (shown : Text)
  /-- A record whose fields have flaws. -/
  | flawed (flaws : List Flaw)
  deriving DecidableEq, Repr

namespace WordRole

/-- What the integer is called. -/
def word : WordRole → String
  | .value => "value"
  | .constant => "constant"

end WordRole

namespace Error

/-- The octets that a defect of an encoding is about, and where they are. -/
def defectPlace (d : Text.Utf8.Defect) : Text :=
  if d.count = 1 then "byte 0x" ++ Text.hexadecimal 2 d.octet ++ s!" in position {d.position}"
  else s!"bytes in position {d.position}-{d.position + d.count - 1}"

/-- The code points that cannot be encoded, and where they are. -/
def gapPlace (g : Text.Utf8.Gap) : Text :=
  if g.count = 1 then "character '" ++ Text.escaped g.point ++ s!"' in position {g.position}"
  else s!"characters in position {g.position}-{g.position + g.count - 1}"

/-- What is said of a family. -/
def ofFamily (name : Text) (what : String) : Text :=
  "Family '" ++ name ++ s!"' {what}"

/-- What is said of a solver that ran. -/
def ofSolver (name : Text) (what : String) : Text :=
  "Solver '" ++ name ++ s!"' failed: {what}"

/-- The wording of a failure. -/
def message : Error → Text
  | .zeroLiteral => "0 is the DIMACS clause terminator, not a literal"
  | .duplicateFamily name => "Variable family '" ++ name ++ "' is already declared"
  | .unknownFamily name => "Variable family '" ++ name ++ "' is not declared"
  | .coordinateCount name expected given =>
      ofFamily name s!"expects {expected} coordinates, got {given}"
  | .leadingCount name expected given =>
      ofFamily name s!"expects {expected} leading coordinates, got {given}"
  | .missingAxis name dimensions axis =>
      ofFamily name s!"has {dimensions} dimensions, no axis {axis}"
  | .coordinateRange name position coordinate bound =>
      s!"Coordinate {position} of '" ++ name ++ s!"' is out of range ({coordinate} >= {bound})"
  | .oppositeLiterals left right =>
      s!"Cannot declare {left} equal to {right}: they are opposite literals"
  | .equalityLoop start repeated =>
      s!"Equality chain starting at {start} loops through {repeated}"
  | .noFamilies => "Cannot decode an assignment without declared families"
  | .unassigned => "Variables have not been assigned yet"
  | .beyondAssignment literal size =>
      s!"Literal {literal} is beyond the {size} assigned variables"
  | .strayToken token => "Invalid literal token '" ++ token ++ "' in assignment"
  | .missingTerminator => "Missing terminating 0 in assignment"
  | .lengthMismatch left right =>
      s!"Literal vectors must have the same length ({left} != {right})"
  | .wordRange role given => s!"{role.word} must fit in 32 unsigned bits, got {given}"
  | .negativeWidth => "Bit widths must be non-negative"
  | .tableLength entries width =>
      let expected := 1 <<< width
      s!"Lookup table has {entries} entries, expected 2^{width} = {expected}"
  | .numberTooLong => Decimal.tooManyDigits ""
  | .powerTooLong => "too many digits in integer"
  | .outOfMemory => ""
  | .entryRange position entry width =>
      s!"Lookup table entry {position} -> {entry} does not fit in {width} bits"
  | .entryNumeral entry =>
      "invalid literal for int() with base 10: " ++ (Text.quoted entry).take 200
  | .entryDigits digits => Decimal.tooManyDigits s!": value has {digits} digits"
  | .entryKind kind =>
      "int() argument must be a string, a bytes-like object or a real number, not "
        ++ s!"'{kind}'"
  | .entryInfinite => "cannot convert float infinity to integer"
  | .entryNaN => "cannot convert float NaN to integer"
  | .inputCount expected given => s!"Expected {expected} input literals, got {given}"
  | .outputCount expected given => s!"Expected {expected} output literals, got {given}"
  | .bitPosition => "negative shift count"
  | .noSuchItem => "list index out of range"
  | .noSuchEntry => "tuple index out of range"
  | .positionTooWide => "cannot fit 'int' into an index-sized integer"
  | .noSuchVariable position size =>
      s!"index {position} is out of bounds for axis 0 with size {size}"
  | .noPosition =>
      "only integers, slices (`:`), ellipsis (`...`), numpy.newaxis (`None`) and integer or "
        ++ "boolean arrays are valid indices"
  | .noMembers kind => s!"'{kind}' object is not iterable"
  | .unknownSolver name => "Unknown solver '" ++ name ++ "'"
  | .solverUnavailable name =>
      ofSolver name "Package 'pycryptosat' is unavailable. Check your installation."
  | .solverZero name => ofSolver name "non-zero integer expected"
  | .solverLiteral name engine =>
      ofSolver name
        s!"<built-in function {engine}_add_cl> returned a result with an exception set"
  | .beyondWord => "Python int too large to convert to C long"
  | .beyondArray =>
      "array is too big; `arr.size * arr.dtype.itemsize` is larger than the maximum possible size."
  | .beyondDimension => "Maximum allowed dimension exceeded"
  | .beyondBinary64 => "int too large to convert to float"
  | .settingsKind kind => s!"'{kind}' object has no attribute 'get'"
  | .settingsEncoding defect =>
      "'utf-8' codec can't decode " ++ defectPlace defect ++ s!": {defect.fault.message}"
  | .settingsDigits digits => Decimal.tooManyDigits s!": value has {digits} digits"
  | .settingsDepth kind =>
      s!"maximum recursion depth exceeded while decoding a JSON {kind} from a unicode string"
  | .environmentKind kind => s!"str expected, not {kind}"
  | .environmentNull => "embedded null byte"
  | .unencodable gap =>
      "'utf-8' codec can't encode " ++ gapPlace gap ++ ": surrogates not allowed"
  | .unknownLevel level => "Unknown level: " ++ Text.quoted level
  | .levelKind shown => "Level not an integer or a valid string: " ++ shown
  | .flawed flaws => "; ".intercalate (flaws.map Flaw.message)

/-! ## Numbers that cannot be written -/

/-- Writes some integers into a text, which fails where one has too many
digits. -/
def writing (ns : List Int) : Except Error Unit :=
  if ns.all Decimal.isWritable then .ok () else .error .numberTooLong

/-- The integers in the wording of a failure.  Those that count the items of a
list are left out: they are never long. -/
def integers : Error → List Int
  | .missingAxis _ _ axis => [axis]
  | .coordinateRange _ _ coordinate bound => [coordinate, bound]
  | .oppositeLiterals left right => [left, right]
  | .equalityLoop start repeated => [start, repeated]
  | .beyondAssignment literal _ => [literal]
  | .wordRange _ given => [given]
  | .entryRange _ entry width => [entry, width]
  | _ => []

/-- What is reported of a failure: that its wording has too long a number, if it
has. -/
def raised (e : Error) : Error :=
  if e.integers.all Decimal.isWritable then e else .numberTooLong

/-- Whether a failure is one that the library reports by itself, and not one that
the making of a text, an array or a record reports to it. -/
def isOwn : Error → Bool
  | .zeroLiteral | .duplicateFamily _ | .unknownFamily _ | .coordinateCount _ _ _
  | .leadingCount _ _ _ | .missingAxis _ _ _ | .coordinateRange _ _ _ _
  | .oppositeLiterals _ _ | .equalityLoop _ _ | .noFamilies | .unassigned
  | .beyondAssignment _ _ | .strayToken _ | .missingTerminator | .lengthMismatch _ _
  | .wordRange _ _ | .negativeWidth | .tableLength _ _ | .entryRange _ _ _
  | .inputCount _ _ | .outputCount _ _ | .unknownSolver _ | .solverUnavailable _
  | .solverZero _ | .solverLiteral _ _ => true
  | _ => false

end Error

end Clausal
