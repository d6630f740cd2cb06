import PocketCalculator.Binary.Interchange
import PocketCalculator.Main
import PocketCalculator.Proofs.Calculator.Screen
import PocketCalculator.Proofs.Calculator.Shown
import PocketCalculator.Proofs.Journal.Diagnostics
import PocketCalculator.Proofs.Panel.Enter
import PocketCalculator.Proofs.Panel.Working
import PocketCalculator.Proofs.Postfix.Readback
import PocketCalculator.Proofs.Settings.Outcome
import PocketCalculator.Proofs.Token.Reread
import PocketCalculator.Proofs.Expression.Brackets
import PocketCalculator.Proofs.Postfix.Frame
import PocketCalculator.Proofs.Postfix.Conservation
import PocketCalculator.Proofs.Expression.Bracketed
import PocketCalculator.Proofs.Token.Cuts
import PocketCalculator.Proofs.Postfix.Relabelling
import PocketCalculator.Proofs.Rounding.Again
import PocketCalculator.Proofs.Postfix.Levels
import PocketCalculator.Proofs.Binary.Order
import PocketCalculator.Proofs.Rounding.Scaling
