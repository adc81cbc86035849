import Clausal.Problem

/-!
# Events

Operations leave a trace of events: what was declared, linked, skipped, merged
or written.  Each event belongs to one part of the library, has a severity and
a wording.  The functions here give the events of a call from its arguments,
also where the call fails halfway through, because the links that were made
before the failure have been reported by then.  There is no event where its
wording has a number that is too long to be written.
-/

namespace Clausal

/-- How much an event matters. -/
inductive Severity
  | debug
  | info
  | warning
  deriving DecidableEq, Repr

/-- The part of the library that an event comes from. -/
inductive Origin
  | core
  | pool
  | formulas
  | boxes
  deriving DecidableEq, Repr

/-- Something worth telling. -/
inductive Event
  | settingsPassedOver (path : Text) (why : PassedOver)
  | valuesDropped (count : Nat)
  | familyDeclared (f : Family)
  | familyDescribed (line : Text)
  | literalsLinked (x y : Int) (l : Link)
  | literalsSkipped (count size : Nat)
  | clausesWritten (clauseCount : Nat) (announced : Int)
  | passMade (number : Nat) (report : Template.PassReport)
  | boxCompiled (box : Sbox)

namespace Severity

/-- The level of the events of a severity. -/
def level : Severity → Nat
  | .debug => 10
  | .info => 20
  | .warning => 30

end Severity

namespace Event

/-- How much an event matters. -/
def severity : Event → Severity
  | .settingsPassedOver _ _ => .warning
  | .literalsSkipped _ _ => .warning
  | .boxCompiled _ => .info
  | _ => .debug

/-- Where an event comes from. -/
def origin : Event → Origin
  | .settingsPassedOver _ _ => .core
  | .clausesWritten _ _ => .formulas
  | .passMade _ _ => .boxes
  | .boxCompiled _ => .boxes
  | _ => .pool

/-- The wording of an event. -/
def message : Event → Text
  | .settingsPassedOver path why =>
      "Ignoring unreadable config file " ++ path ++ ": " ++ why.message path
  | .valuesDropped count => s!"Dropping the assignment of {count} variables"
  | .familyDeclared f =>
      let dimensions := ", ".intercalate (f.dimensions.map toString)
      let first := f.base + 1
      let last := f.base + f.size
      "Declared family " ++ f.name ++ s!" dims=[{dimensions}] codes=[{first}, {last}]"
  | .familyDescribed line => line
  | .literalsLinked x y l => s!"Equality {x} == {y}: {l.source} -> {l.target}"
  | .literalsSkipped count size =>
      s!"Skipped {count} assignment literals beyond the {size} declared variables"
  | .clausesWritten clauseCount announced =>
      s!"Serialized {clauseCount} clauses over {announced} variables"
  | .passMade number report =>
      s!"Merge pass {number}: {report.before} -> {report.after} rows ({report.merges} merges)"
  | .boxCompiled box =>
      s!"S-box {box.inputs}x{box.outputs}: {box.naiveCount} naive rows reduced to "
        ++ s!"{box.template.length} by {box.reducer.name} ({box.passes} passes)"

/-! ## The events of a call -/

/-- Settings were loaded. -/
def ofLoad (loaded : LoadedSettings) : List Event :=
  (loaded.passedOver.map fun (path, why) => settingsPassedOver path why).toList

/-- An event whose wording has some integers. -/
def withNumbers (ns : List Int) (e : Event) : List Event :=
  if ns.all Decimal.isWritable then [e] else []

/-- A family was appended. -/
def ofAppend (before after : Variables) : List Event :=
  let dropped : List Event :=
    match before.values with
    | some values => [.valuesDropped values.length]
    | none => []
  dropped ++ (after.families.drop before.families.length).flatMap fun f =>
    withNumbers f.reported (.familyDeclared f)

/-- Two literals were to be made equal. -/
def ofEqual (m : Equalities) (x y : Int) : List Event :=
  match m.linkFor x y with
  | .ok (some l) => withNumbers [x, y, l.source, l.target] (.literalsLinked x y l)
  | _ => []

/-- The members of some pairs were to be made equal, up to the first pair for
which this fails. -/
def ofEqualAll (m : Equalities) : List (Int × Int) → List Event
  | [] => []
  | (x, y) :: rest =>
      match m.enter x y with
      | (after, .ok _) => ofEqual m x y ++ ofEqualAll after rest
      | (_, .error _) => []

/-- The answer of a solver was taken. -/
def ofDecode (a : Variables) (raw : List Int) : List Event :=
  let skipped := Variables.skippedCount a.size raw
  if a.families.isEmpty || Word.signedBound ≤ a.size || skipped = 0 then []
  else [.literalsSkipped skipped a.size]

/-- The answer of a solver was read as text. -/
def ofReadSolution (a : Variables) (text : Text) : List Event :=
  match Assignment.parse text with
  | .ok (some raw) => ofDecode a raw
  | _ => []

/-- The families were described. -/
def ofDescribe (a : Variables) : List Event :=
  match a.describe with
  | .ok lines => lines.map .familyDescribed
  | .error _ => []

/-- Two vectors were to differ by a constant. -/
def ofXor (m : Equalities) (xs ys : List Int) (constant : Int) : List Event :=
  match Problem.xorPairs xs ys constant with
  | .ok pairs => ofEqualAll m pairs
  | .error _ => []

/-- A problem was written as text. -/
def ofDimacs (p : Problem) (count : Option Int) (header : Option Bool) : List Event :=
  match p.toDimacs count header with
  | .ok _ => [.clausesWritten p.formula.length (p.announcedCount count)]
  | .error _ => []

/-- A box was compiled. -/
def ofCompile (box : Sbox) : List Event :=
  ((box.reduction.reports.zipIdx 1).map fun (report, number) => .passMade number report)
    ++ [.boxCompiled box]

/-- A problem was to be solved. -/
def ofSolve (backend : Backend) (p : Problem) : List Event :=
  match p.toCnf with
  | .error _ => []
  | .ok input =>
      if !Decimal.isWritable input.variableCount then []
      else
        match backend input.clauses with
        | .ok (some model) => ofDecode p.pool model
        | _ => []

end Event

end Clausal
