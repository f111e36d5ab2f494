import Indicator.Settings.Reading
import Indicator.Web.Assignment
import Indicator.Proofs.Report
import Indicator.Proofs.Request.NormalForm
import Indicator.Proofs.Sql.Calendar
import Indicator.Proofs.Sql.Columns
import Indicator.Proofs.Sql.Fingerprint
import Indicator.Proofs.Sql.Meaning
import Indicator.Proofs.Warehouse.Account
import Indicator.Proofs.Warehouse.Completeness
import Indicator.Proofs.Warehouse.Conversation
import Indicator.Proofs.Warehouse.Destination
import Indicator.Proofs.Warehouse.Discretion
import Indicator.Proofs.Warehouse.Expiry
import Indicator.Proofs.Warehouse.Extension
import Indicator.Proofs.Warehouse.Handle
import Indicator.Proofs.Warehouse.Identity
import Indicator.Proofs.Warehouse.Succession
import Indicator.Proofs.Web.Admission
import Indicator.Proofs.Web.Audit
import Indicator.Proofs.Web.RequestLimit
