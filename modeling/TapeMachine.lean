import TapeMachine.Main
import TapeMachine.Proofs.Machine.AddingOne
import TapeMachine.Proofs.Machine.RoundTrip
import TapeMachine.Proofs.Pool.Resuming
import TapeMachine.Proofs.Program.CommandLine
import TapeMachine.Proofs.Run.LeftBound
import TapeMachine.Proofs.Session.Logging
import TapeMachine.Run.Record
import TapeMachine.Workspace.IsoTime
import TapeMachine.Proofs.Machine.EqualBlocks
import TapeMachine.Proofs.Machine.Writings
import TapeMachine.Proofs.Run.LogHistory
import TapeMachine.Proofs.Run.Renaming
import TapeMachine.Proofs.Pool.Failing
import TapeMachine.Proofs.Pool.TwoMachines
import TapeMachine.Proofs.Pool.Success
import TapeMachine.Proofs.Machine.Grid
import TapeMachine.Proofs.Run.WrittenResults
import TapeMachine.Proofs.Run.Locality
import TapeMachine.Proofs.Run.HeadMarks
import TapeMachine.Proofs.Run.Output
import TapeMachine.Proofs.Pool.Lines
import TapeMachine.Proofs.Session.Tapes
import TapeMachine.Proofs.Tape.History
import TapeMachine.Proofs.Machine.LatexArray
import TapeMachine.Proofs.Program.Configuration
import TapeMachine.Proofs.Run.Loop
