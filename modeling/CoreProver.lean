import CoreProver.CommandLine.Execute
import CoreProver.Host.Machine
import CoreProver.Main
import CoreProver.Proofs.Denotation
import CoreProver.Proofs.Evaluation
import CoreProver.Proofs.Failures
import CoreProver.Proofs.Methods
import CoreProver.Proofs.ConcreteEvaluation
import CoreProver.Proofs.Signatures
import CoreProver.Proofs.AppliedAbstraction
import CoreProver.Proofs.Smt.Reader
import CoreProver.Proofs.Smt.Rendering
import CoreProver.Proofs.Smt.Script
import CoreProver.Proofs.Smt.Vocabulary
import CoreProver.Proofs.Smt.Literals
import CoreProver.Proofs.ConstantTable
import CoreProver.Proofs.RunSymbols
import CoreProver.Proofs.Json.Members
import CoreProver.Proofs.Run.Endings
import CoreProver.Proofs.Run.Course
import CoreProver.Proofs.Run.Discipline
import CoreProver.Proofs.Run.Provenance
import CoreProver.Proofs.Run.Reports
import CoreProver.Proofs.Run.Leniency
import CoreProver.Proofs.WellSorted
import CoreProver.Proofs.Crashes
import CoreProver.Proofs.Run.Noninterference
import CoreProver.Proofs.Run.PrintedObligation
import CoreProver.Proofs.Run.Skipping
import CoreProver.Proofs.Solver.Race
import CoreProver.Proofs.Arithmetic
import CoreProver.Proofs.Json.Grammar
import CoreProver.Proofs.Json.Layout
import CoreProver.Proofs.Json.Spelling
import CoreProver.Proofs.Lang.Forms
import CoreProver.Proofs.Lang.Reading
import CoreProver.Proofs.Lang.TypeReader
import CoreProver.Proofs.Lang.RenderedTypes
import CoreProver.Proofs.Lang.MarkedText
import CoreProver.Proofs.Markers
import CoreProver.Proofs.StrictEvaluation
import CoreProver.Proofs.KindInference
import CoreProver.Proofs.Coverage
import CoreProver.Proofs.Quantification
import CoreProver.Proofs.Renumbering
import CoreProver.Proofs.MethodCalls
import CoreProver.Proofs.Text.Lines
import CoreProver.Proofs.Solver.Classification
import CoreProver.Proofs.Solver.Extraction
import CoreProver.Proofs.Host.Programs
import CoreProver.Proofs.Settings
import CoreProver.Proofs.Solver.Selection
import CoreProver.Proofs.Solver.Installed
