import Countinghouse.Language.Text
import Countinghouse.Proofs.Account.Kinds
import Countinghouse.Proofs.Person.Json
import Countinghouse.Proofs.Tree.Ownership
import Countinghouse.Proofs.World.Blocks
import Countinghouse.Proofs.World.Holders
import Countinghouse.Proofs.World.Independence
import Countinghouse.Proofs.World.Lives
import Countinghouse.Session
import Countinghouse.Version
import Countinghouse.Proofs.Json.Reading
import Countinghouse.Proofs.Person.Shapes
import Countinghouse.Proofs.Json.Drafts
import Countinghouse.Proofs.Time.Calendar
import Countinghouse.Proofs.Session.Token
import Countinghouse.Proofs.Time.Instant
import Countinghouse.Proofs.Session.Canonical
import Countinghouse.Proofs.People.Writes
import Countinghouse.Proofs.World.Writes
import Countinghouse.Proofs.World.Footprints
import Countinghouse.Proofs.World.Aliases
import Countinghouse.Proofs.Tree.Balance
import Countinghouse.Proofs.Tree.Reports
import Countinghouse.Proofs.Tree.Accounts
import Countinghouse.Proofs.Text.Trim
import Countinghouse.Proofs.Text.LowerCase
import Countinghouse.Proofs.Language.Words
import Countinghouse.Proofs.World.Failures
import Countinghouse.Proofs.Tree.Access
import Countinghouse.Proofs.Tree.Namesakes
import Countinghouse.Proofs.Tree.Exchange
import Countinghouse.Proofs.Text.Distinction
import Countinghouse.Proofs.Person.Problems
import Countinghouse.Proofs.Tree.Snapshots
