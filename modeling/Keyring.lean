import Keyring.Community.Members
import Keyring.Community.Scenario
import Keyring.Main
import Keyring.Rotation.Json
import Keyring.Proofs.History.Chronicle
import Keyring.Proofs.History.Sound
import Keyring.Proofs.Memory.Log
import Keyring.Proofs.Program.Ensures
import Keyring.Proofs.Memory.Settled
import Keyring.Proofs.Rotation.Board
import Keyring.Proofs.Rotation.Depth
import Keyring.Proofs.Group.CatchUp
import Keyring.Proofs.Group.Finish
import Keyring.Proofs.Memory.Following
import Keyring.Proofs.Group.Convergence
import Keyring.Proofs.Group.Retry
import Keyring.Proofs.Group.SingleOutput
import Keyring.Proofs.Json.Scan
import Keyring.Proofs.Json.RoundTrip
import Keyring.Proofs.Key.RoundTrip
import Keyring.Proofs.Page.Cover
import Keyring.Proofs.Group.Transfer
import Keyring.Proofs.Group.Delivery
import Keyring.Proofs.Concurrency.System
import Keyring.Proofs.Concurrency.Safe
import Keyring.Proofs.Concurrency.Operations
import Keyring.Proofs.Concurrency.Agreement
import Keyring.Proofs.Program.Recorded
import Keyring.Proofs.Program.Preserves
import Keyring.Proofs.Group.Course
import Keyring.Proofs.Group.Account
import Keyring.Proofs.Group.RoundTrip
import Keyring.Proofs.Memory.Storing
import Keyring.Proofs.Group.Storing
import Keyring.Proofs.Group.FailedFinish
import Keyring.Proofs.Group.Saving
import Keyring.Proofs.Group.StoredHistory
import Keyring.Proofs.Program.Returns
import Keyring.Proofs.Memory.Untimed
import Keyring.Proofs.Group.Leftover
import Keyring.Proofs.Group.Twin
import Keyring.Proofs.Group.Ended
import Keyring.Proofs.Group.Resume
import Keyring.Proofs.Program.Requests
import Keyring.Proofs.Group.Effect
import Keyring.Proofs.Group.Life
import Keyring.Proofs.Group.Phases
import Keyring.Proofs.Group.Ranks
import Keyring.Proofs.Page.Lossless
import Keyring.Proofs.Group.Archive
import Keyring.Proofs.Community.Opening
import Keyring.Proofs.Concurrency.Ledger
import Keyring.Proofs.Json.Size
import Keyring.Proofs.Secrecy.Key
import Keyring.Proofs.Secrecy.Group
import Keyring.Proofs.Secrecy.Program
import Keyring.Proofs.Secrecy.Operations
import Keyring.Proofs.Secrecy.World
import Keyring.Proofs.Secrecy.Community
import Keyring.Proofs.Secrecy.Scenario
import Keyring.Proofs.Group.Measured
import Keyring.Proofs.Group.Metered
import Keyring.Proofs.History.Changes
import Keyring.Proofs.Memory.Frame
import Keyring.Proofs.Memory.Joins
import Keyring.Proofs.Memory.Sessions
import Keyring.Proofs.Memory.Prompt
import Keyring.Proofs.Command.Simulation
import Keyring.Proofs.History.Misfit
import Keyring.Proofs.Group.Append
import Keyring.Proofs.Program.Swept
import Keyring.Proofs.Group.Fetched
import Keyring.Proofs.Group.CompleteFetch
import Keyring.Proofs.Group.Transferred
import Keyring.Proofs.Group.Aborted
import Keyring.Proofs.Group.GivenUp
import Keyring.Proofs.Program.Stages
import Keyring.Proofs.Memory.Deadline
import Keyring.Proofs.Group.Deadline
import Keyring.Proofs.Text.Machine
import Keyring.Proofs.Toml.Quoted
import Keyring.Proofs.Toml.Scan
import Keyring.Proofs.Toml.Literal
import Keyring.Proofs.Toml.RoundTrip
import Keyring.Proofs.Duration.RoundTrip
import Keyring.Proofs.Config.RoundTrip
import Keyring.Proofs.Config.Valid
import Keyring.Proofs.Config.Environment
import Keyring.Proofs.Program.Raised
import Keyring.Proofs.Group.Sized
import Keyring.Proofs.Command.Loading
import Keyring.Proofs.Text.Position
import Keyring.Proofs.History.Restored
import Keyring.Proofs.Page.Arithmetic
import Keyring.Proofs.Group.Isolation
