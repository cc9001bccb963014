import CountedBox.Entry
import CountedBox.Main
import CountedBox.Proofs.Denotation.Reference
import CountedBox.Proofs.Insertion.Atomicity
import CountedBox.Proofs.Ownership.Leaks
import CountedBox.Text.Escaped
import CountedBox.Proofs.Denotation.Equality
import CountedBox.Proofs.Denotation.Congruence
import CountedBox.Proofs.Heap.Contents
import CountedBox.Proofs.Heap.Reordered
import CountedBox.Proofs.Ownership.Sets
import CountedBox.Proofs.Tracking.Alike
import CountedBox.Proofs.Tracking.Matches
import CountedBox.Proofs.Tracking.Lockstep
import CountedBox.Proofs.Tracking.Registered
import CountedBox.Proofs.Tracking.Transparent
import CountedBox.Proofs.Tracking.Stale
import CountedBox.Proofs.Release.Cascade
import CountedBox.Proofs.Release.Order
import CountedBox.Proofs.Rendering.Notation
import CountedBox.Proofs.Text.Utf8
import CountedBox.Proofs.Rendering.Shape
import CountedBox.Proofs.Rendering.Alignment
import CountedBox.Proofs.Rendering.Determined
import CountedBox.Proofs.Switching.Exact
import CountedBox.Proofs.Switching.Run
import CountedBox.Proofs.Store.Placed
import CountedBox.Proofs.Store.Seen
import CountedBox.Proofs.Store.Grown
import CountedBox.Proofs.Store.Reports
import CountedBox.Proofs.Store.Boxed
import CountedBox.Proofs.Store.History
import CountedBox.Proofs.Text.Zero
import CountedBox.Proofs.Text.Order
import CountedBox.Proofs.Rendering.Elements
import CountedBox.Proofs.Rendering.Zeros
import CountedBox.Proofs.Rendering.Outlets
import CountedBox.Proofs.Store.Texts
import CountedBox.Proofs.Store.Bindings
import CountedBox.Proofs.Ownership.Kept
import CountedBox.Proofs.Sets.Collected
import CountedBox.Proofs.Debug.Capture
import CountedBox.Proofs.Text.Spelling
import CountedBox.Proofs.Config.Setting
import CountedBox.Proofs.Config.Layers
import CountedBox.Proofs.Config.Overrides
import CountedBox.Proofs.Slot.Notes
import CountedBox.Proofs.Slot.Counterpart
import CountedBox.Proofs.Slot.Polling
import CountedBox.Proofs.Slot.Plain
import CountedBox.Proofs.Slot.Recorded
import CountedBox.Proofs.Config.Complaints
import CountedBox.Proofs.Slot.Startup
import CountedBox.Proofs.Slot.Message
import CountedBox.Proofs.Search.Exact
import CountedBox.Proofs.Recursion.Calls
import CountedBox.Proofs.Recursion.Nesting
import CountedBox.Proofs.CommandLine.Grammar
