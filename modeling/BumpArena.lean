import BumpArena.Act
import BumpArena.Alignment
import BumpArena.Arena.Basic
import BumpArena.Arena.Chain
import BumpArena.Arena.Config
import BumpArena.Arena.Error
import BumpArena.Arena.Lifecycle
import BumpArena.Arena.Reset
import BumpArena.Backing
import BumpArena.Backing.Counted
import BumpArena.Backing.Heap
import BumpArena.Backing.Rationed
import BumpArena.Block
import BumpArena.Fault
import BumpArena.Layout
import BumpArena.Log
import BumpArena.Memory
import BumpArena.Proofs.Blocks
import BumpArena.Proofs.Carving
import BumpArena.Proofs.Chain
import BumpArena.Proofs.Clearing
import BumpArena.Proofs.Contract
import BumpArena.Proofs.Demands
import BumpArena.Proofs.Ends
import BumpArena.Proofs.Estate
import BumpArena.Proofs.Ledger
import BumpArena.Proofs.Nesting
import BumpArena.Proofs.Packing
import BumpArena.Proofs.Preheating
import BumpArena.Proofs.Seating
import BumpArena.Proofs.Serving
import BumpArena.Proofs.Spans
import BumpArena.Proofs.Tenancy
import BumpArena.Proofs.Topmost
import BumpArena.Region.Basic
import BumpArena.Region.SpanMap
import BumpArena.Session.Attempt
import BumpArena.Session.Basic
import BumpArena.Session.Links
import BumpArena.Session.Perform
import BumpArena.Session.Step
import BumpArena.Trace
import BumpArena.Word
import BumpArena.Workload
import BumpArena.Proofs.Tiling
import BumpArena.Proofs.FreeList
import BumpArena.Proofs.Operations
import BumpArena.Proofs.Filling
import BumpArena.Proofs.SoleClient
import BumpArena.Proofs.Detaching
import BumpArena.Proofs.Safety
import BumpArena.Proofs.Overhead
import BumpArena.Proofs.Cycles
import BumpArena.Proofs.Tracking
import BumpArena.Proofs.Projecting
import BumpArena.Proofs.Counting
import BumpArena.Proofs.Wary
import BumpArena.Proofs.Courses
import BumpArena.Proofs.Growing
import BumpArena.Proofs.Placing
import BumpArena.Proofs.Refusing
import BumpArena.Proofs.Mirroring
import BumpArena.Proofs.Twins
import BumpArena.Proofs.Relocating
import BumpArena.Proofs.FirstFit
import BumpArena.Proofs.InPlace
import BumpArena.Proofs.Adjusting
import BumpArena.Proofs.Reclaiming
import BumpArena.Proofs.Masking
import BumpArena.Proofs.Reusing
import BumpArena.Proofs.Rejecting
import BumpArena.Proofs.Rationing
import BumpArena.Proofs.Lending
