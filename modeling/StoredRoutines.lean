import StoredRoutines.Batch.Rehearsal
import StoredRoutines.Batch.Run
import StoredRoutines.Command
import StoredRoutines.Config
import StoredRoutines.Config.Reader
import StoredRoutines.Database.InMemory
import StoredRoutines.Directive.Header
import StoredRoutines.DocBlock
import StoredRoutines.Glob.ByteSet
import StoredRoutines.Glob.Expression
import StoredRoutines.Glob.Nesting
import StoredRoutines.Glob.Pattern
import StoredRoutines.Json.Printer
import StoredRoutines.Json.Reader
import StoredRoutines.Load.Routine
import StoredRoutines.Main
import StoredRoutines.Notice
import StoredRoutines.Path
import StoredRoutines.Placeholder.Substitution
import StoredRoutines.Record.Json
import StoredRoutines.Signature
import StoredRoutines.SortedMap
import StoredRoutines.Store
import StoredRoutines.Text.Blank
import StoredRoutines.Text.ByteLength
import StoredRoutines.Text.Letter
import StoredRoutines.Text.Split
import StoredRoutines.Text.Uppercase
import StoredRoutines.Proofs.Load.Frame
import StoredRoutines.Proofs.Load.Install
import StoredRoutines.Proofs.Json.RoundTrip
import StoredRoutines.Proofs.Record.RoundTrip
import StoredRoutines.Proofs.FileTree
import StoredRoutines.Proofs.Store
import StoredRoutines.Proofs.Load.Routine
import StoredRoutines.Proofs.Load.Statements
import StoredRoutines.Proofs.Batch.Tour
import StoredRoutines.Proofs.Batch.Preparation
import StoredRoutines.Proofs.Batch.Run
import StoredRoutines.Proofs.Batch.History
import StoredRoutines.Proofs.Reload
import StoredRoutines.Proofs.Placeholder.Fragment
import StoredRoutines.Proofs.Placeholder.Pass
import StoredRoutines.Proofs.Load.Skipping
import StoredRoutines.Proofs.Batch.Truth
import StoredRoutines.Proofs.Load.Separation
import StoredRoutines.Proofs.Batch.Incremental
import StoredRoutines.Proofs.Batch.Aborted
import StoredRoutines.Proofs.Batch.Bookkeeping
import StoredRoutines.Proofs.Load.Agreement
import StoredRoutines.Proofs.Load.Coupling
import StoredRoutines.Proofs.Batch.Independence
import StoredRoutines.Proofs.Directive.Accepted
import StoredRoutines.Proofs.Load.Parameters
import StoredRoutines.Proofs.Load.Record
import StoredRoutines.Proofs.FileTree.Alike
import StoredRoutines.Proofs.FileTree.Content
import StoredRoutines.Proofs.Store.Persistence
import StoredRoutines.Proofs.Load.Failure
import StoredRoutines.Proofs.Batch.Failure
import StoredRoutines.Proofs.Directive.Written
import StoredRoutines.Proofs.Placeholder.Resolve
import StoredRoutines.Proofs.Placeholder.Spelling
import StoredRoutines.Proofs.Load.Columns
import StoredRoutines.Proofs.Batch.Placeholders
import StoredRoutines.Proofs.Directive.Grammar
import StoredRoutines.Proofs.LineEnding
import StoredRoutines.Proofs.Batch.Repetition
import StoredRoutines.Proofs.Directive.Columns
import StoredRoutines.Proofs.Signature
import StoredRoutines.Proofs.DocBlock.Written
import StoredRoutines.Proofs.Quoting.Reader
import StoredRoutines.Proofs.Database.Session
import StoredRoutines.Proofs.Placeholder.Translation
import StoredRoutines.Proofs.Placeholder.Reported
import StoredRoutines.Proofs.Directive.ReturnType
import StoredRoutines.Proofs.Discovery
