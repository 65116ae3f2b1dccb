import Presto.Balanced
import Presto.Replay
import Presto.Accounts
import Presto.SignIn
import Presto.Cache
import Presto.Chain
import Presto.Activation
import Presto.Forecast
import Presto.Backup
import Presto.Unallocated
import Presto.Conversion
import Presto.ClosedExcess
import Presto.Stale
import Presto.Refunds
import Presto.Admin.Archive
import Presto.DecimalText
import Presto.ExactDecimals
import Presto.TargetDays
import Presto.MonthText
import Presto.ExpectedMonths
import Presto.FinanceModel
import Presto.FormulaParity
import Presto.EntryAccounts
import Presto.Overlay
import Presto.EditDistance
import Presto.Balancing
import Presto.Pages
import Presto.Formulas
import Presto.Suggested
import Presto.Divisions
import Presto.Notifications
import Presto.Import
import Presto.Freshness
import Presto.Immutable
import Presto.Imports
import Presto.Idempotent
import Presto.AuditTrail
import Presto.AccountHistory
import Presto.GoogleSignIn
import Presto.Recovery
import Presto.Drafts
