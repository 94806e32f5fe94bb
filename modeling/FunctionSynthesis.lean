import FunctionSynthesis.Main
import FunctionSynthesis.Term.Idioms
import FunctionSynthesis.Term.Comparison
import FunctionSynthesis.Proofs.Attempt
import FunctionSynthesis.Proofs.Value.Scalar
import FunctionSynthesis.Proofs.Value.Dictionary
import FunctionSynthesis.Proofs.Value.Equality
import FunctionSynthesis.Proofs.Value.Method
import FunctionSynthesis.Proofs.Ty.Structure
import FunctionSynthesis.Proofs.Ty.Hashable
import FunctionSynthesis.Proofs.Ty.Ordinary
import FunctionSynthesis.Proofs.Ty.Membership
import FunctionSynthesis.Proofs.Ty.Soundness
import FunctionSynthesis.Proofs.Ty.Known
import FunctionSynthesis.Proofs.Ty.Parts
import FunctionSynthesis.Proofs.Ty.Equality
import FunctionSynthesis.Proofs.Ty.Order
import FunctionSynthesis.Proofs.Ty.Congruence
import FunctionSynthesis.Proofs.Ty.Antisymmetry
import FunctionSynthesis.Proofs.Ty.Join
import FunctionSynthesis.Proofs.Ty.Widening
import FunctionSynthesis.Proofs.Ty.Inference
import FunctionSynthesis.Proofs.Value.Plain
import FunctionSynthesis.Proofs.Value.Structure
import FunctionSynthesis.Proofs.Binary64.Rounding
import FunctionSynthesis.Proofs.Binary64.Decimal
import FunctionSynthesis.Proofs.Binary64.Numeral
import FunctionSynthesis.Proofs.Expression.Token
import FunctionSynthesis.Proofs.Expression.Spelling
import FunctionSynthesis.Proofs.Expression.Grammar
import FunctionSynthesis.Proofs.Expression.Text
import FunctionSynthesis.Proofs.Term.Structure
import FunctionSynthesis.Proofs.Term.Children
import FunctionSynthesis.Proofs.Term.Rewriting
import FunctionSynthesis.Proofs.Term.Replacement
import FunctionSynthesis.Proofs.Term.Evaluation
import FunctionSynthesis.Proofs.Term.Source
import FunctionSynthesis.Proofs.Json.Conversion
import FunctionSynthesis.Proofs.Typing.Totality
import FunctionSynthesis.Proofs.Typing.Call
import FunctionSynthesis.Proofs.Typing.Soundness
import FunctionSynthesis.Proofs.Typing.WellFormed
import FunctionSynthesis.Proofs.Typing.Monotonicity
import FunctionSynthesis.Proofs.Typing.Layers
import FunctionSynthesis.Proofs.Ty.General
import FunctionSynthesis.Proofs.Example.Inference
import FunctionSynthesis.Proofs.Trial.Comparison
import FunctionSynthesis.Proofs.Trial.Normalization
import FunctionSynthesis.Proofs.Trial.Acceptance
import FunctionSynthesis.Proofs.Example.Admission
import FunctionSynthesis.Proofs.Example.Summary
import FunctionSynthesis.Proofs.Grammar.Inhabitation
import FunctionSynthesis.Proofs.Grammar.Rule
import FunctionSynthesis.Proofs.Grammar.Expander
import FunctionSynthesis.Proofs.Grammar.Layering
import FunctionSynthesis.Proofs.Grammar.Fit
import FunctionSynthesis.Proofs.Grammar.Closability
import FunctionSynthesis.Proofs.Grammar.Depth
import FunctionSynthesis.Proofs.Grammar.Terminal
import FunctionSynthesis.Proofs.Example.Sameness
import FunctionSynthesis.Proofs.Trial.Projection
import FunctionSynthesis.Proofs.Trial.Writability
import FunctionSynthesis.Proofs.Search.Steps
import FunctionSynthesis.Proofs.Search.Consideration
import FunctionSynthesis.Proofs.Search.History
import FunctionSynthesis.Proofs.Search.Accounting
import FunctionSynthesis.Proofs.Search.Filling
import FunctionSynthesis.Proofs.Search.Refinement
import FunctionSynthesis.Proofs.Search.Lockstep
import FunctionSynthesis.Proofs.Search.Deadline
import FunctionSynthesis.Proofs.Search.Exactness
import FunctionSynthesis.Proofs.Search.Termination
import FunctionSynthesis.Proofs.Search.Totality
import FunctionSynthesis.Proofs.Search.FirstRound
import FunctionSynthesis.Proofs.Search.Fitness
import FunctionSynthesis.Proofs.Search.Order
import FunctionSynthesis.Proofs.Search.Reporting
import FunctionSynthesis.Proofs.Task.Solution
import FunctionSynthesis.Proofs.Task.Projection
import FunctionSynthesis.Proofs.Example.Reading
import FunctionSynthesis.Proofs.Task.Reading
import FunctionSynthesis.Proofs.Toml.Document
import FunctionSynthesis.Proofs.Toml.Numeral
import FunctionSynthesis.Proofs.Toml.Spelling
import FunctionSynthesis.Proofs.Toml.Lines
import FunctionSynthesis.Proofs.Files
import FunctionSynthesis.Proofs.Settings.Slot
import FunctionSynthesis.Proofs.Settings.Loading
import FunctionSynthesis.Proofs.Settings.Writing
import FunctionSynthesis.Proofs.Settings.Reloading
import FunctionSynthesis.Proofs.Grammar.Bounds
import FunctionSynthesis.Proofs.Example.Signature
import FunctionSynthesis.Proofs.Trial.Preorder
import FunctionSynthesis.Proofs.Example.Rearrangement
import FunctionSynthesis.Proofs.Typing.Refusal
import FunctionSynthesis.Proofs.Search.Resolution
import FunctionSynthesis.Proofs.Occurrence
import FunctionSynthesis.Proofs.Ty.Canonicity
import FunctionSynthesis.Proofs.Example.Pools
import FunctionSynthesis.Proofs.Settings.Merging
import FunctionSynthesis.Proofs.Text.Splitting
import FunctionSynthesis.Proofs.Term.QueryString
import FunctionSynthesis.Proofs.Trial.Stopping
import FunctionSynthesis.Proofs.Term.Transformation
import FunctionSynthesis.Proofs.Task.Batch
import FunctionSynthesis.Proofs.CommandLine.ExitStatus
import FunctionSynthesis.Proofs.Task.Combination
