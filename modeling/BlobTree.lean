import BlobTree.Cloud.Script
import BlobTree.Deployment
import BlobTree.Settings.Files
import BlobTree.Store.Disturbed
import BlobTree.Store.Recorded
import BlobTree.Text.Collation
import BlobTree.Proofs.Writer.Append
import BlobTree.Writer.Request
import BlobTree.Proofs.Writer.Durability
import BlobTree.Proofs.Number.Rounding
import BlobTree.Proofs.Store.Page
import BlobTree.Proofs.Execution
import BlobTree.Proofs.Listing.Fetch
import BlobTree.Proofs.Listing.Cover
import BlobTree.Proofs.Listing.Concurrent
import BlobTree.FileTree.Request
import BlobTree.FileMap
import BlobTree.Proofs.FileTree.Calls
import BlobTree.Proofs.FileTree.Represents
import BlobTree.Proofs.FileTree.Step
import BlobTree.Proofs.FileTree.Delete
import BlobTree.Proofs.FileTree.Refinement
import BlobTree.Proofs.FileTree.Move
import BlobTree.Proofs.Path.Below
import BlobTree.Proofs.Path.Embedding
import BlobTree.Proofs.FileTree.Directory
import BlobTree.FileTree.Operation
import BlobTree.Proofs.FileTree.Within
import BlobTree.Proofs.Store.Refusal
import BlobTree.Proofs.Writer.Refusal
import BlobTree.Proofs.FileTree.Refusal
import BlobTree.Proofs.Listing.Bounded
import BlobTree.Proofs.FileTree.Races
import BlobTree.FileTree.Program
import BlobTree.Proofs.FileTree.Twin
import BlobTree.Proofs.FileTree.Isolation
import BlobTree.Proofs.Writer.Calls
import BlobTree.Proofs.Writer.Turn
import BlobTree.Proofs.Writer.Lifecycle
import BlobTree.Proofs.Writer.Chunks
import BlobTree.Proofs.Writer.Chunking
import BlobTree.Proofs.FileTree.Upload
import BlobTree.Proofs.FileTree.Desk
import BlobTree.Proofs.FileTree.Walk
import BlobTree.Proofs.FileTree.Reachable
import BlobTree.Proofs.Budget
import BlobTree.Proofs.FileTree.Descent
import BlobTree.Proofs.FileTree.Appending
import BlobTree.Proofs.Logged
import BlobTree.Proofs.FileTree.Vanishing
import BlobTree.Proofs.FileTree.Residue
import BlobTree.Proofs.Listing.Markers
import BlobTree.Cloud.Transcript
import BlobTree.Proofs.Cloud.Exchange
import BlobTree.Proofs.Cloud.Course
import BlobTree.Proofs.Cloud.Operations
import BlobTree.Proofs.Cloud.Conveyance
import BlobTree.Proofs.Settings.Checked
import BlobTree.Proofs.Settings.Reported
import BlobTree.Proofs.Settings.Accepted
import BlobTree.Proofs.FileTree.Opening
import BlobTree.Proofs.Number.Numeral
import BlobTree.Proofs.Settings.Expressed
import BlobTree.Proofs.FileTree.Counted
import BlobTree.Proofs.Listing.Grouping
import BlobTree.Proofs.Counters
import BlobTree.Proofs.Settings.Normal
