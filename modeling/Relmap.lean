import Relmap.Compile.Condition
import Relmap.Database.Location
import Relmap.Database.Script
import Relmap.Error.Context
import Relmap.Gateway.Translation
import Relmap.Schema.Definition
import Relmap.Schema.LazyRegistry
import Relmap.Sqlite.Projection
import Relmap.Sqlite.Store
import Relmap.Proofs.Compile.Parameters
import Relmap.Proofs.Gateway.Scoped
import Relmap.Proofs.Gateway.Updating
import Relmap.Proofs.Sql.Flavors
import Relmap.Proofs.Sql.Legible
import Relmap.Proofs.Compile.Legible
import Relmap.Proofs.Gateway.Requests
import Relmap.Proofs.Calendar.RoundTrip
import Relmap.Proofs.Schema.RoundTrip
import Relmap.Proofs.Sql.Reader
import Relmap.Proofs.Sql.Items
import Relmap.Proofs.Sql.Words
import Relmap.Proofs.Sql.Reads
import Relmap.Proofs.Sql.Clauses
import Relmap.Proofs.Sql.Predicates
import Relmap.Proofs.Sql.Queries
import Relmap.Proofs.Sql.ReadBack
import Relmap.Proofs.Compile.ReadBack
import Relmap.Proofs.Compile.Order
import Relmap.Proofs.Gateway.Written
import Relmap.Proofs.Gateway.Copying
import Relmap.Proofs.Compile.Adding
import Relmap.Proofs.Compile.Frame
import Relmap.Proofs.Compile.Faults
import Relmap.Proofs.Gateway.Outputs
import Relmap.Proofs.Schema.Priority
import Relmap.Proofs.Gateway.Counting
import Relmap.Proofs.Gateway.Filtering
import Relmap.Proofs.Gateway.Lists
import Relmap.Proofs.Gateway.Patterns
import Relmap.Proofs.Schema.Lookups
import Relmap.Proofs.Compile.Failures
import Relmap.Proofs.Gateway.Addressing
import Relmap.Proofs.Gateway.Saving
import Relmap.Proofs.Schema.Integers
import Relmap.Proofs.Schema.Described
import Relmap.Proofs.Sqlite.Cell
import Relmap.Proofs.Compile.Extending
