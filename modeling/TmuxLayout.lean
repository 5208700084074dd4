import TmuxLayout.Main
import TmuxLayout.Proofs.Batch.Targets
import TmuxLayout.Proofs.CommandLine.Compiling
import TmuxLayout.Proofs.Compile.Mismatches
import TmuxLayout.Proofs.Compile.Panes
import TmuxLayout.Proofs.Compile.Places
import TmuxLayout.Proofs.Layout.Violations
import TmuxLayout.Proofs.Layout.Writing
import TmuxLayout.Proofs.Tmux.Calls
import TmuxLayout.Proofs.Batch.Execution
import TmuxLayout.Proofs.CommandLine.Running
import TmuxLayout.Proofs.Layout.Mirroring
import TmuxLayout.Proofs.Layout.Pruning
import TmuxLayout.Proofs.Compile.PlacedSteps
import TmuxLayout.Proofs.Layout.Seats
import TmuxLayout.Proofs.Compile.Seating
import TmuxLayout.Proofs.Compile.FocusedLeaf
import TmuxLayout.Proofs.Layout.Edits
import TmuxLayout.Proofs.Layout.FocusNames
import TmuxLayout.Proofs.Split.Shares
import TmuxLayout.Proofs.Split.Rounding
import TmuxLayout.Proofs.Text.Numeral
import TmuxLayout.Proofs.Number.Floor
import TmuxLayout.Proofs.Split.Printing
import TmuxLayout.Proofs.Split.Scaling
import TmuxLayout.Proofs.Compile.FocusFlags
import TmuxLayout.Proofs.Compile.Overrides
import TmuxLayout.Proofs.Layout.FaultPlaces
import TmuxLayout.Proofs.Execution.Stopping
import TmuxLayout.Proofs.Compile.Bounds
import TmuxLayout.Proofs.Text.Splitting
import TmuxLayout.Proofs.Compile.Separators
import TmuxLayout.Proofs.Tmux.Readings
import TmuxLayout.Proofs.Layout.Tags
import TmuxLayout.Proofs.Split.Locality
