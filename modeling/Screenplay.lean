import Screenplay.Text.Ranges
import Screenplay.Text.SwitchPoints
import Screenplay.Proofs.Block.Depth
import Screenplay.Proofs.Block.Reading
import Screenplay.Proofs.Block.Statement
import Screenplay.Proofs.Block.Derivation
import Screenplay.Proofs.Block.Blame
import Screenplay.Proofs.Event.Messages
import Screenplay.Proofs.Event.Preamble
import Screenplay.Proofs.Event.Assembly
import Screenplay.Proofs.File.Compilation
import Screenplay.Proofs.Event.Blame
import Screenplay.Proofs.File.Invariant
import Screenplay.Proofs.File.Blame
import Screenplay.Proofs.Project.Modular
import Screenplay.Proofs.Block.RoundTrip
import Screenplay.Proofs.Source.Renumber
import Screenplay.Proofs.Block.Renumber
import Screenplay.Proofs.Event.Renumber
import Screenplay.Proofs.Source.Numbers
import Screenplay.Proofs.File.Renumber
import Screenplay.Proofs.File.Cut
import Screenplay.Proofs.Path.Resolve
import Screenplay.Proofs.Project.Outputs
import Screenplay.Proofs.Step.Document
import Screenplay.Proofs.Event.Document
import Screenplay.Proofs.Project.Recast
import Screenplay.Proofs.Block.Jump
import Screenplay.Proofs.Project.Writing
import Screenplay.Proofs.Load.Scripts
import Screenplay.Console
import Screenplay.Main
import Screenplay.Proofs.Block.Skipped
import Screenplay.Proofs.Event.Skipped
import Screenplay.Proofs.Source.Relayout
import Screenplay.Proofs.Source.NormalForm
import Screenplay.Proofs.Block.Flag
import Screenplay.Proofs.Line.Speaker
import Screenplay.Proofs.Block.Complete
import Screenplay.Proofs.Block.Warnings
import Screenplay.Proofs.Event.Warnings
import Screenplay.Proofs.Block.Numeric
import Screenplay.Proofs.File.Directive
import Screenplay.Proofs.File.Separators
import Screenplay.Proofs.Line.Key
import Screenplay.Proofs.Event.Entry
import Screenplay.Proofs.Event.Coercion
import Screenplay.Proofs.Json.Layout
import Screenplay.Proofs.Json.RoundTrip
import Screenplay.Proofs.Project.Texts
import Screenplay.Proofs.Event.InsertionOrder
import Screenplay.Proofs.Event.RunningMaxima
import Screenplay.Proofs.Cast.Updates
import Screenplay.Proofs.Block.Nested
