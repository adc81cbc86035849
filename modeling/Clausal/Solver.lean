import Clausal.Settings

/-!
# Solvers

A solver takes clauses and says that no valuation makes them all true, or gives
a model: one literal for each variable up to the greatest that occurs.  Solvers
are chosen by name, and some names are known but choose nothing that can run.
-/

namespace Clausal

/-- What a solver does with some clauses: it gives a model, finds that there is
none, or fails. -/
abbrev Backend := List (List Int) → Except Error (Option (List Int))

namespace Solver

/-- The engines that can run, each with the names that choose it. -/
def engines : List (String × List Text) :=
  [("cadical103", ["cadical103", "cd", "cd103", "cdl", "cdl103"]),
   ("cadical153", ["cadical153", "cd15", "cd153", "cdl15", "cdl153"]),
   ("cadical195", ["cadical195", "cd19", "cd195", "cdl19", "cdl195"]),
   ("cadical300", ["cadical300", "cd30", "cd300", "cdl30", "cdl300"]),
   ("gluecard3", ["gluecard3", "gluecard30", "gc3", "gc30"]),
   ("gluecard41", ["gluecard4", "gluecard41", "gc4", "gc41"]),
   ("glucose3", ["glucose3", "glucose30", "g3", "g30"]),
   ("glucose41", ["glucose4", "glucose41", "g4", "g41"]),
   ("glucose421", ["glucose42", "glucose421", "g42", "g421"]),
   ("kissat404", ["kissat", "kissat4", "kissat404", "ks", "ks4"]),
   ("lingeling", ["lgl", "lingeling"]),
   ("maplechrono", ["mcb", "chrono", "chronobt", "maplechrono"]),
   ("maplecm", ["mcm", "maplecm"]),
   ("maplesat", ["maple", "maplesat", "mpl"]),
   ("mergesat3", ["mergesat3", "mergesat30", "mg3", "mgs3"]),
   ("minicard", ["mc", "mcard", "minicard"]),
   ("minisat22", ["m22", "minisat22", "msat22"]),
   ("minisatep", ["mep", "minisat-ep", "minisatep", "msat-ep"]),
   ("minisatgh", ["mgh", "minisat-gh", "msat-gh"]),
   ("ergo", ["ergo"])]

/-- The engine that a name chooses, if there is one that can run. -/
def engineOf? (name : Text) : Option String :=
  (engines.find? fun (_, names) => names.contains name).map Prod.fst

/-- The names of all solvers, in ascending order. -/
def names : List Text :=
  List.map Text.ofString
    ["cadical103", "cadical153", "cadical195", "cadical300", "cd", "cd103", "cd15", "cd153",
     "cd19", "cd195", "cd30", "cd300", "cdl", "cdl103", "cdl15", "cdl153", "cdl19", "cdl195",
     "cdl30", "cdl300", "chrono", "chronobt", "cms", "cms5", "crypto", "crypto5",
     "cryptominisat", "cryptominisat5", "ergo", "g3", "g30", "g4", "g41", "g42", "g421", "gc3",
     "gc30", "gc4", "gc41", "glucose3", "glucose30", "glucose4", "glucose41", "glucose42",
     "glucose421", "gluecard3", "gluecard30", "gluecard4", "gluecard41", "kissat", "kissat4",
     "kissat404", "ks", "ks4", "lgl", "lingeling", "m22", "maple", "maplechrono", "maplecm",
     "maplesat", "mc", "mcard", "mcb", "mcm", "mep", "mergesat3", "mergesat30", "mg3", "mgh",
     "mgs3", "minicard", "minisat-ep", "minisat-gh", "minisat22", "minisatep", "mpl", "msat-ep",
     "msat-gh", "msat22"]

/-- Checks the name of a solver. -/
def checkName (v : Value) : Except Error Text :=
  match Record.required "solver_name" Record.text (some v) with
  | .error flaws => .error (.flawed flaws)
  | .ok name => if names.contains name then .ok name else .error (.unknownSolver name)

/-! ## Searching for a model -/

/-- How many literals some clauses have. -/
def totalLength (clauses : List (List Int)) : Nat :=
  clauses.foldr (fun c total => c.length + total) 0

/-- The clauses that are left once a literal is true: those without it, and in
them every literal but its opposite. -/
def given (lit : Int) (clauses : List (List Int)) : List (List Int) :=
  (clauses.filter fun c => !c.contains lit).map fun c => c.filter fun l => l ≠ -lit

theorem totalLength_given_le (lit : Int) (clauses : List (List Int)) :
    totalLength (given lit clauses) ≤ totalLength clauses := by
  induction clauses with
  | nil => exact Nat.le_refl _
  | cons c rest ih =>
      have shorter : (c.filter fun l => l ≠ -lit).length ≤ c.length := List.length_filter_le _ _
      simp only [totalLength, given] at ih ⊢
      by_cases occurs : c.contains lit
      · simp only [List.filter_cons, occurs, Bool.not_true, Bool.false_eq_true, if_false,
          List.foldr_cons]
        omega
      · simp only [List.filter_cons, occurs, Bool.not_false, if_true,
          List.map_cons, List.foldr_cons]
        omega

/-- A variable that occurs goes away with its literals. -/
theorem totalLength_given_lt {lit : Int} {clauses : List (List Int)} {c : List Int}
    (clauseMem : c ∈ clauses) (literalMem : lit ∈ c ∨ -lit ∈ c) :
    totalLength (given lit clauses) < totalLength clauses := by
  induction clauses with
  | nil => simp at clauseMem
  | cons d rest ih =>
      have laterLe := totalLength_given_le lit rest
      have shorter : (d.filter fun l => l ≠ -lit).length ≤ d.length := List.length_filter_le _ _
      simp only [totalLength, given] at ih laterLe ⊢
      by_cases occurs : d.contains lit
      · have positive : 0 < d.length := List.length_pos_of_mem (List.contains_iff_mem.mp occurs)
        simp only [List.filter_cons, occurs, Bool.not_true, Bool.false_eq_true, if_false,
          List.foldr_cons]
        omega
      · simp only [List.filter_cons, occurs, Bool.not_false, if_true,
          List.map_cons, List.foldr_cons]
        rcases List.mem_cons.mp clauseMem with rfl | later
        · have opposite : -lit ∈ c := by
            rcases literalMem with here | opposite
            · exact absurd (List.contains_iff_mem.mpr here) occurs
            · exact opposite
          have fewer : (c.filter fun l => l ≠ -lit).length < c.length :=
            List.length_filter_lt_length_iff_exists.mpr ⟨-lit, opposite, by simp⟩
          omega
        · have laterLt := ih later
          omega

/-- The literal to decide next: that of a clause with a single literal, else
the first one of the first clause. -/
def branch? (clauses : List (List Int)) : Option Int :=
  let chosen := (clauses.find? fun c => c.length = 1).or clauses.head?
  chosen.bind List.head?

theorem exists_mem_of_branch? {clauses : List (List Int)} {lit : Int}
    (chosen : branch? clauses = some lit) : ∃ c ∈ clauses, lit ∈ c := by
  rcases Option.bind_eq_some_iff.mp chosen with ⟨c, hclause, hhead⟩
  refine ⟨c, ?_, List.mem_of_mem_head? hhead⟩
  rcases Option.or_eq_some_iff.mp hclause with hunit | ⟨_, hfirst⟩
  · exact List.mem_of_find?_eq_some hunit
  · exact List.mem_of_mem_head? hfirst

/-- Finds literals that make every clause true: a literal is tried and then,
where that fails, its opposite. -/
def search (clauses : List (List Int)) : Option (List Int) :=
  if clauses.any List.isEmpty then none
  else
    match _chosen : branch? clauses with
    | none => some []
    | some lit =>
        match search (given lit clauses) with
        | some lits => some (lit :: lits)
        | none => (search (given (-lit) clauses)).map fun lits => -lit :: lits
termination_by totalLength clauses
decreasing_by
  · rcases exists_mem_of_branch? _chosen with ⟨c, clauseMem, literalMem⟩
    exact totalLength_given_lt clauseMem (Or.inl literalMem)
  · rcases exists_mem_of_branch? _chosen with ⟨c, clauseMem, literalMem⟩
    exact totalLength_given_lt clauseMem (Or.inr (by simpa using literalMem))

/-- The greatest variable that occurs in some clauses. -/
def largestVariable (clauses : List (List Int)) : Nat :=
  (clauses.flatten.map Int.natAbs).max?.getD 0

/-- The model in which the given literals are true and every other variable is
false. -/
def modelOf (largest : Nat) (lits : List Int) : List Int :=
  (List.range' 1 largest).map fun (v : Nat) => if lits.contains (v : Int) then (v : Int) else -v

/-- Solves clauses by searching. -/
def solve : Backend := fun clauses =>
  .ok ((search clauses).map (modelOf (largestVariable clauses)))

/-- What keeps an engine from taking a clause.  It works on words of thirty-two
bits: a literal that has none of its lowest bits set counts as zero, and one
beyond sixty-four bits is no word at all. -/
def refusal? (name : Text) (engine : String) (c : List Int) : Option Error :=
  if c.any fun lit => Word.isSigned lit && Word.narrow lit = 0 then some (.solverZero name)
  else if c.all Word.isSigned then none
  else some (.solverLiteral name engine)

/-- What the solver of a name does. -/
def backend (name : Text) : Backend := fun clauses =>
  match engineOf? name with
  | none => .error (.solverUnavailable name)
  | some engine =>
      match clauses.findSome? (refusal? name engine) with
      | some e => .error e
      | none => solve (clauses.map fun c => c.map Word.narrow)

/-- The solver that a value names. -/
def ofValue (v : Value) : Except Error Backend :=
  (checkName v).map backend

end Solver

end Clausal
