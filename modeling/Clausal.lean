import Clausal.Event
import Clausal.Logger
import Clausal.Proofs.Assignment.Grammar
import Clausal.Proofs.Decimal.Script
import Clausal.Proofs.Equalities.Chain
import Clausal.Proofs.Problem.Acceptance
import Clausal.Proofs.Problem.Agreement
import Clausal.Proofs.Problem.Atomicity
import Clausal.Proofs.Problem.Growth
import Clausal.Proofs.Problem.Held
import Clausal.Proofs.Problem.Image
import Clausal.Proofs.Problem.Names
import Clausal.Proofs.Problem.Numbers
import Clausal.Proofs.Problem.Order
import Clausal.Proofs.Problem.Reading
import Clausal.Proofs.Problem.Refusal
import Clausal.Proofs.Problem.TextSolving
import Clausal.Proofs.Problem.Values
import Clausal.Proofs.Problem.Zeros
import Clausal.Proofs.Sbox.Instances
import Clausal.Proofs.Sbox.Template
import Clausal.Proofs.Settings
import Clausal.Proofs.Statistics.Gini
import Clausal.Proofs.Template.Difference
import Clausal.Proofs.Template.FixedPoint
import Clausal.Proofs.Template.Positions
import Clausal.Proofs.Variables.Places
import Clausal.Value.Writer
import Clausal.Proofs.Statistics
