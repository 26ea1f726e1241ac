import Rekey.Main
import Rekey.Rehearsal.Database
import Rekey.Rehearsal.Session
import Rekey.Network.Address
import Rekey.Sql.Location
import Rekey.Proofs.Campaign.Reachable
import Rekey.Proofs.Campaign.References
import Rekey.Proofs.Users.Atomicity
import Rekey.Proofs.Users.Recovery
import Rekey.Proofs.Files.Safety
import Rekey.Proofs.Columns.Exact
import Rekey.Proofs.Users.Idempotence
import Rekey.Proofs.Users.Result
import Rekey.Proofs.Users.Convergence
import Rekey.Proofs.Columns.Resumption
import Rekey.Proofs.Files.DryRun
import Rekey.Proofs.Users.Protocol
import Rekey.Proofs.Columns.Keys
import Rekey.Proofs.Users.Singles
import Rekey.Proofs.Columns.Forecast
import Rekey.Proofs.Campaign.Lookup
import Rekey.Proofs.Sql.Quoting
import Rekey.Proofs.Campaign.Gate
import Rekey.Proofs.CommandLine.Early
import Rekey.Proofs.Users.Effect
import Rekey.Proofs.Files.Retry
import Rekey.Proofs.Campaign.Order
import Rekey.Proofs.Campaign.Accounting
import Rekey.Proofs.Columns.Account
import Rekey.Proofs.Columns.Interruption
import Rekey.Proofs.Identity.Resolution
import Rekey.Proofs.Identity.EmptyIds
import Rekey.Proofs.Sql.ColumnTypes
import Rekey.Proofs.Columns.DescriptorFiles
import Rekey.Proofs.Campaign.Listing
import Rekey.Proofs.Report.Listings
import Rekey.Proofs.Columns.Arrays
import Rekey.Proofs.Columns.Entries
import Rekey.Proofs.Report.Unquoted
import Rekey.Proofs.Memory.Transactions
