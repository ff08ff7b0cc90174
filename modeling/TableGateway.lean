import TableGateway.Http.Answer
import TableGateway.Main
import TableGateway.Proofs.Sql.Alignment
import TableGateway.Proofs.Sql.Guard
import TableGateway.Proofs.Sql.Independence
import TableGateway.Proofs.Sql.Scoping
import TableGateway.Proofs.Query.Token
import TableGateway.Proofs.Query.Writing
import TableGateway.Proofs.Query.RoundTrip
import TableGateway.Proofs.Sql.Selection
import TableGateway.Proofs.Sql.Determination
import TableGateway.Proofs.Sql.Formula
import TableGateway.Proofs.Sql.Meaning
import TableGateway.Proofs.Service.Segment
import TableGateway.Proofs.Sql.Fragment
import TableGateway.Proofs.Sql.Naming
import TableGateway.Proofs.Database.Binding
import TableGateway.Proofs.Service.Handling
import TableGateway.Proofs.CommandLine.Explaining
import TableGateway.Proofs.Database.Coercion
import TableGateway.Proofs.Sql.Complement
import TableGateway.Proofs.Sql.Mention
import TableGateway.Proofs.Sql.Belonging
import TableGateway.Proofs.Sql.Folding
import TableGateway.Proofs.Query.Grammar
import TableGateway.Proofs.Query.Invariant
import TableGateway.Proofs.Sql.Batch
import TableGateway.Proofs.Binary64.Rounding
import TableGateway.Proofs.Database.Integers
import TableGateway.Proofs.Decimal.Conversion
import TableGateway.Proofs.Binary64.Shortest
import TableGateway.Proofs.Decimal.Reading
import TableGateway.Proofs.Database.Decimals
import TableGateway.Proofs.Database.Nulls
import TableGateway.Proofs.Calendar.DayNumber
import TableGateway.Proofs.Calendar.RoundTrip
import TableGateway.Proofs.Uuid
import TableGateway.Proofs.Database.RoundTrip
import TableGateway.Proofs.Catalog.Lookup
import TableGateway.Proofs.Sql.Locality
import TableGateway.Proofs.Http.Exposure
import TableGateway.Proofs.Catalog.Declaration
import TableGateway.Proofs.Catalog.Printing
import TableGateway.Proofs.Query.Precedence
import TableGateway.Proofs.Catalog.Coherence
import TableGateway.Proofs.Catalog.Grouping
