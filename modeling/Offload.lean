import Offload.Backend.Selection
import Offload.Boundary
import Offload.Call
import Offload.Clients
import Offload.Extent
import Offload.Failure
import Offload.Family
import Offload.Future
import Offload.Header
import Offload.Header.Declaration
import Offload.Heap
import Offload.Journal
import Offload.Kernel.Catalog
import Offload.Kernel.Routine
import Offload.Memory
import Offload.Module.Code
import Offload.Module.Options
import Offload.Module.Path
import Offload.Object
import Offload.Platform
import Offload.Proofs.Allocation
import Offload.Proofs.Backend.Choice
import Offload.Proofs.Backend.Enumeration
import Offload.Proofs.Boundary.Books
import Offload.Proofs.Boundary.Deliveries
import Offload.Proofs.Boundary.Moments
import Offload.Proofs.Boundary.Protocol
import Offload.Proofs.Boundary.Slot
import Offload.Proofs.Boundary.Telling
import Offload.Proofs.Deciding
import Offload.Proofs.Extent
import Offload.Proofs.Heap.Files
import Offload.Proofs.Heap.Futures
import Offload.Proofs.Heap.Leaves
import Offload.Proofs.Heap.Outline
import Offload.Proofs.Heap.Peers
import Offload.Proofs.Heap.Ranges
import Offload.Proofs.Heap.Reachability
import Offload.Proofs.Heap.Resolution
import Offload.Proofs.Heap.Soundness
import Offload.Proofs.Heap.Tracking
import Offload.Proofs.Module.Leaves
import Offload.Proofs.Module.Paths
import Offload.Proofs.Queue.Accounting
import Offload.Proofs.Queue.Accounts
import Offload.Proofs.Queue.Admission
import Offload.Proofs.Queue.Agreement
import Offload.Proofs.Queue.Attending
import Offload.Proofs.Queue.CatchingUp
import Offload.Proofs.Queue.Commands
import Offload.Proofs.Queue.Copies
import Offload.Proofs.Queue.Coverage
import Offload.Proofs.Queue.Debts
import Offload.Proofs.Queue.Duets
import Offload.Proofs.Queue.Growing
import Offload.Proofs.Queue.Immediate
import Offload.Proofs.Queue.Independence
import Offload.Proofs.Queue.LaunchEnds
import Offload.Proofs.Queue.Launches
import Offload.Proofs.Queue.Ledger
import Offload.Proofs.Queue.Locality
import Offload.Proofs.Queue.Logs
import Offload.Proofs.Queue.Others
import Offload.Proofs.Queue.Pending
import Offload.Proofs.Queue.Performing
import Offload.Proofs.Queue.Phases
import Offload.Proofs.Queue.Refinement
import Offload.Proofs.Queue.Run
import Offload.Proofs.Queue.Serial
import Offload.Proofs.Queue.Serving
import Offload.Proofs.Queue.Standings
import Offload.Proofs.Queue.Tending
import Offload.Proofs.Queue.Turns
import Offload.Proofs.Queue.Waking
import Offload.Proofs.Registry.Exactness
import Offload.Proofs.Registry.History
import Offload.Proofs.Session.Backing
import Offload.Proofs.Session.Changes
import Offload.Proofs.Session.Classes
import Offload.Proofs.Session.Configuration
import Offload.Proofs.Session.Consulting
import Offload.Proofs.Session.Creating
import Offload.Proofs.Session.DeadHandles
import Offload.Proofs.Session.Decisions
import Offload.Proofs.Session.Devices
import Offload.Proofs.Session.Failing
import Offload.Proofs.Session.Handles
import Offload.Proofs.Session.Histories
import Offload.Proofs.Session.Kernels
import Offload.Proofs.Session.Lifetime
import Offload.Proofs.Session.Linking
import Offload.Proofs.Session.Lookups
import Offload.Proofs.Session.Moves
import Offload.Proofs.Session.Names
import Offload.Proofs.Session.Objects
import Offload.Proofs.Session.Preservation
import Offload.Proofs.Session.References
import Offload.Proofs.Session.Remarks
import Offload.Proofs.Session.Rooted
import Offload.Proofs.Session.Soundness
import Offload.Proofs.Session.Sources
import Offload.Proofs.Session.StaticLinks
import Offload.Proofs.Session.Steps
import Offload.Proofs.Session.Views
import Offload.Proofs.Session.Work
import Offload.Proofs.Settings.Environment
import Offload.Proofs.Settings.Numerals
import Offload.Proofs.Settings.Warnings
import Offload.Proofs.Table
import Offload.Proofs.Text.Utf8
import Offload.Proofs.Tracker.Innermost
import Offload.Proofs.Tracker.Registrations
import Offload.Proofs.Tracker.Search
import Offload.Queue.Checks
import Offload.Queue.Job
import Offload.Queue.Progress
import Offload.RangeTracker
import Offload.Registry
import Offload.Request
import Offload.Session.Basic
import Offload.Session.Commit
import Offload.Session.Describe
import Offload.Session.Operations
import Offload.Session.Worker
import Offload.Settings
import Offload.Table
import Offload.Text.Blank
import Offload.Text.CodePoints
import Offload.Text.Quoted
import Offload.Text.Utf8
import Offload.View.Flags
