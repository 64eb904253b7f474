import Mosaic.Buttons
import Mosaic.Cause
import Mosaic.Compositor.Basic
import Mosaic.Compositor.Close
import Mosaic.Compositor.Control
import Mosaic.Compositor.Frame
import Mosaic.Compositor.Input
import Mosaic.Compositor.Nesting
import Mosaic.Compositor.Open
import Mosaic.Compositor.Operation
import Mosaic.Compositor.Resize
import Mosaic.Control
import Mosaic.Crew
import Mosaic.Decimal.Layout
import Mosaic.Decimal.Shortest
import Mosaic.Demo
import Mosaic.Failure
import Mosaic.Fault
import Mosaic.Format
import Mosaic.Format.Document
import Mosaic.Headless
import Mosaic.Input
import Mosaic.Json.Decode
import Mosaic.Json.Document
import Mosaic.Json.Record
import Mosaic.Json.Refusal
import Mosaic.Json.Scan
import Mosaic.Json.Value
import Mosaic.Main
import Mosaic.Notice
import Mosaic.Notice.Filter
import Mosaic.Ordered
import Mosaic.Partition.Builtin
import Mosaic.Partition.Clone
import Mosaic.Partition.Output
import Mosaic.Partition.Registry
import Mosaic.Partition.Wall
import Mosaic.Pattern.Basic
import Mosaic.Pattern.Bracket
import Mosaic.Pattern.CharSet
import Mosaic.Pattern.Cursor
import Mosaic.Pattern.Escape
import Mosaic.Pattern.Fault
import Mosaic.Pattern.Meaning
import Mosaic.Pattern.Reader
import Mosaic.Pattern.Text
import Mosaic.Pattern.Tree
import Mosaic.Picture
import Mosaic.Placement
import Mosaic.Rehearsal.Algorithm
import Mosaic.Rehearsal.Bench
import Mosaic.Rehearsal.Request
import Mosaic.Rehearsal.Rig
import Mosaic.Rehearsal.Session.Basic
import Mosaic.Rehearsal.Session.Entry
import Mosaic.Rehearsal.Session.Script
import Mosaic.Rehearsal.Shelf
import Mosaic.Rehearsal.Trial
import Mosaic.Settings
import Mosaic.Settings.File
import Mosaic.Text.Blank
import Mosaic.Text.Hex
import Mosaic.Text.Hidden
import Mosaic.Text.Letter
import Mosaic.Text.Quoted
import Mosaic.World
import Mosaic.Proofs.Outcome
import Mosaic.Proofs.Regions
import Mosaic.Proofs.Step
import Mosaic.Proofs.Operation
import Mosaic.Proofs.Frame
import Mosaic.Proofs.Closing
import Mosaic.Proofs.Opening
import Mosaic.Proofs.Fate
import Mosaic.Proofs.Run
import Mosaic.Proofs.Parting
import Mosaic.Proofs.Lifecycle
import Mosaic.Proofs.Refusal
import Mosaic.Proofs.Agreement
import Mosaic.Proofs.Start
import Mosaic.Proofs.Policy
import Mosaic.Proofs.Pending
import Mosaic.Proofs.Splitting
import Mosaic.Proofs.Pairing
import Mosaic.Proofs.Sizes
import Mosaic.Proofs.Tiling
import Mosaic.Proofs.Routing
import Mosaic.Proofs.Ensures
import Mosaic.Proofs.Afterlife
import Mosaic.Proofs.Sights
import Mosaic.Proofs.Conduct
import Mosaic.Proofs.Nest
import Mosaic.Proofs.Tree
import Mosaic.Proofs.Leaves
import Mosaic.Proofs.Mural
import Mosaic.Proofs.Structure
import Mosaic.Proofs.Accounts
import Mosaic.Proofs.Holds
import Mosaic.Proofs.Portrait
import Mosaic.Proofs.Retouch
import Mosaic.Proofs.Turns
import Mosaic.Proofs.Kinship
import Mosaic.Proofs.Isolation
import Mosaic.Proofs.Locks
import Mosaic.Proofs.Provenance
import Mosaic.Proofs.Pointer
import Mosaic.Proofs.Forms
import Mosaic.Proofs.Telling
import Mosaic.Proofs.Recovery
import Mosaic.Proofs.Overlay
import Mosaic.Proofs.Extent
import Mosaic.Proofs.Coordinates
import Mosaic.Proofs.Refit
import Mosaic.Proofs.Grid
import Mosaic.Proofs.Slots
import Mosaic.Proofs.Pressed
import Mosaic.Proofs.Routes
import Mosaic.Proofs.Rearranging
import Mosaic.Proofs.Formats
