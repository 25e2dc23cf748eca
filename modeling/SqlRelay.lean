import SqlRelay.Foundation.Run
import SqlRelay.Query.Interception
import SqlRelay.Bind.Substitution
import SqlRelay.Bind.Preservation
import SqlRelay.BindSlots.Copying
import SqlRelay.BindSlots.Residue
import SqlRelay.Errors.Retrieval
import SqlRelay.LongData.Reassembly
import SqlRelay.Cursors.Lifetimes
import SqlRelay.Pipeline.Retrying
import SqlRelay.TempTables.Existence
import SqlRelay.BulkLoad.InsertText
import SqlRelay.Transaction.Failure
import SqlRelay.Transaction.Simulation
import SqlRelay.Session.Rollback
import SqlRelay.Session.Isolation
import SqlRelay.Pipeline.WholeQuery
import SqlRelay.Rows.Response
import SqlRelay.Window.Resume
import SqlRelay.Replay.Exactness
import SqlRelay.Insert.SplitExact
import SqlRelay.Insert.Atomic
import SqlRelay.BulkLoad.BindRow
import SqlRelay.Columns.PerResultSet
import SqlRelay.Firebird.Indexing
import SqlRelay.Handoff.AtMostOnce
import SqlRelay.Handoff.ClientCount
import SqlRelay.Handoff.Proxy
import SqlRelay.Handoff.Exclusion
import SqlRelay.Handoff.Registrations
import SqlRelay.Lists.StaysInside
import SqlRelay.Savepoint.Isolation
import SqlRelay.Scaler.Attempts
import SqlRelay.Scaler.Bounded
import SqlRelay.Mysql.Execution
import SqlRelay.Mysql.BinaryRows
import SqlRelay.Mysql.Framing
import SqlRelay.Patterns.Matching
import SqlRelay.Patterns.Scopes
import SqlRelay.Tls.Required
import SqlRelay.Postgresql.Execution
import SqlRelay.Postgresql.Atomicity
import SqlRelay.Postgresql.Messages
import SqlRelay.Postgresql.Numeric
import SqlRelay.Postgresql.Options
import SqlRelay.Postgresql.Portals
import SqlRelay.Pipeline.Complete
import SqlRelay.Import.Pairing
import SqlRelay.Import.Transactions
import SqlRelay.Router.Staying
import SqlRelay.Router.Transparency
import SqlRelay.Tds.BothDecoders
import SqlRelay.Tds.OneRow
import SqlRelay.Tds.Ownership
import SqlRelay.Insert.Values
import SqlRelay.Insert.Refine
import SqlRelay.Query.SetList
import SqlRelay.Replay.Rewrite
import SqlRelay.Normalize.StaysInside
import SqlRelay.Protocol.LenEnc
import SqlRelay.Protocol.BerEnc
import SqlRelay.Protocol.LenPre
import SqlRelay.Schedule.Applying
import SqlRelay.Cursors.Identity
import SqlRelay.OutputBinds.Delivery
import SqlRelay.Session.Exits
import SqlRelay.Session.Reconnect
import SqlRelay.Insert.DollarQuoted
import SqlRelay.Tds.CursorFetch
import SqlRelay.Oracle.ByteValues
import SqlRelay.Oracle.Requests
import SqlRelay.Bind.Counting
import SqlRelay.Bind.FakedMarkers
import SqlRelay.Bind.Remapping
import SqlRelay.Foundation.Spans
import SqlRelay.Tds.Calendar
