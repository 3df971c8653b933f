import Gatehouse.Account.Login
import Gatehouse.Account.PasswordChange
import Gatehouse.Account.Reading
import Gatehouse.Account.Removal
import Gatehouse.Account.Secret
import Gatehouse.Account.Signup
import Gatehouse.Calendar.Count
import Gatehouse.Calendar.Duration
import Gatehouse.Calendar.Instant
import Gatehouse.Calendar.Iso8601
import Gatehouse.Calendar.Rfc3339
import Gatehouse.Calendar.Stamp
import Gatehouse.Codec.Base64
import Gatehouse.Codec.BigEndian
import Gatehouse.Codec.Punycode
import Gatehouse.Config
import Gatehouse.Crypto.Aes
import Gatehouse.Crypto.Bcrypt
import Gatehouse.Crypto.Blowfish
import Gatehouse.Crypto.Gcm
import Gatehouse.Crypto.Hmac
import Gatehouse.Crypto.Sha2
import Gatehouse.Directory.Draft
import Gatehouse.Directory.Entity
import Gatehouse.Directory.Kinds
import Gatehouse.Directory.Permissions
import Gatehouse.Directory.Row
import Gatehouse.Directory.Store
import Gatehouse.Directory.Table
import Gatehouse.Directory.Uuid
import Gatehouse.Directory.View
import Gatehouse.Email.Address
import Gatehouse.Email.Domain
import Gatehouse.Email.Label
import Gatehouse.Email.Mailbox
import Gatehouse.Envelope
import Gatehouse.Event.Dispatcher
import Gatehouse.Event.Envelope
import Gatehouse.Event.Pool
import Gatehouse.Failure
import Gatehouse.Http.Body
import Gatehouse.Http.Cookie
import Gatehouse.Http.Message
import Gatehouse.Http.Route
import Gatehouse.Http.Server
import Gatehouse.Json.Basic
import Gatehouse.Json.Encoding
import Gatehouse.Json.Part
import Gatehouse.Json.Reader
import Gatehouse.Json.Writer
import Gatehouse.Number.Binary64
import Gatehouse.Number.Numeral
import Gatehouse.Number.Rounding
import Gatehouse.Number.Significant
import Gatehouse.Password
import Gatehouse.Refusal
import Gatehouse.Service.Cache
import Gatehouse.Service.Directory
import Gatehouse.Service.Lifespan
import Gatehouse.Service.Seed
import Gatehouse.Service.Settings
import Gatehouse.Service.State
import Gatehouse.Service.Transaction
import Gatehouse.Session.Cache
import Gatehouse.Session.Gate
import Gatehouse.Session.Preview
import Gatehouse.Session.Revocation
import Gatehouse.Session.Snapshot
import Gatehouse.Session.TokenData
import Gatehouse.Shape
import Gatehouse.Slug
import Gatehouse.Tenancy.Provision
import Gatehouse.Text.Blank
import Gatehouse.Text.Category
import Gatehouse.Text.Chart
import Gatehouse.Text.Decomposition
import Gatehouse.Text.Digit
import Gatehouse.Text.Direction
import Gatehouse.Text.Fold
import Gatehouse.Text.Lower
import Gatehouse.Text.Normal
import Gatehouse.Text.Printable
import Gatehouse.Text.Quoted
import Gatehouse.Text.Raw
import Gatehouse.Text.Script
import Gatehouse.Text.Split
import Gatehouse.Text.Utf8
import Gatehouse.Token.Claims
import Gatehouse.Token.Codec
import Gatehouse.Token.Fault
import Gatehouse.Token.Key
import Gatehouse.Token.Segments
import Gatehouse.Proofs.Codec.Base64
import Gatehouse.Proofs.Account.Writes
import Gatehouse.Proofs.Json.Number
import Gatehouse.Proofs.Json.RoundTrip
import Gatehouse.Proofs.Service.AllOrNothing
import Gatehouse.Proofs.Session.Gate
import Gatehouse.Proofs.Envelope
import Gatehouse.Proofs.Service.History
import Gatehouse.Proofs.Account.Login
import Gatehouse.Proofs.Service.Step
import Gatehouse.Proofs.Directory.Uuid
import Gatehouse.Proofs.Session.Cache
import Gatehouse.Proofs.Account.Absent
import Gatehouse.Proofs.Account.Removal
import Gatehouse.Proofs.Slug
import Gatehouse.Proofs.Directory.Soundness
import Gatehouse.Proofs.Service.Soundness
import Gatehouse.Proofs.Password
import Gatehouse.Proofs.Account.Credentials
import Gatehouse.Proofs.Directory.Ledger
import Gatehouse.Proofs.Account.Passwords
import Gatehouse.Proofs.Token.Authenticity
import Gatehouse.Proofs.Session.Snapshot
import Gatehouse.Proofs.Session.Book
import Gatehouse.Proofs.Http.Cookie
import Gatehouse.Proofs.Account.Session
import Gatehouse.Proofs.Account.Presence
import Gatehouse.Proofs.Http.Login
import Gatehouse.Proofs.Http.Session
import Gatehouse.Proofs.Event.Dispatcher
import Gatehouse.Proofs.Directory.Belongings
import Gatehouse.Proofs.Directory.Permissions
import Gatehouse.Proofs.Session.Views
import Gatehouse.Proofs.Http.Reach
import Gatehouse.Proofs.Http.Agreement
import Gatehouse.Proofs.Service.Twin
import Gatehouse.Proofs.Account.Unstamped
import Gatehouse.Proofs.Service.BestEffort
import Gatehouse.Proofs.Slug.Search
import Gatehouse.Proofs.Slug.Words
import Gatehouse.Proofs.Json.Size
import Gatehouse.Proofs.Token.Secret
import Gatehouse.Proofs.Token.Lifetime
import Gatehouse.Proofs.Token.Peeking
import Gatehouse.Proofs.Token.Tampering
import Gatehouse.Proofs.Tenancy.Creation
import Gatehouse.Proofs.Password.Verification
import Gatehouse.Proofs.Session.Invalidation
import Gatehouse.Proofs.Account.Separation
import Gatehouse.Proofs.Token.Expiry
import Gatehouse.Proofs.Http.Logout
import Gatehouse.Proofs.Account.Race
import Gatehouse.Proofs.Account.Refused
import Gatehouse.Proofs.Http.Alike
import Gatehouse.Proofs.Json.Ascii
import Gatehouse.Proofs.Service.Mute
import Gatehouse.Proofs.Http.Mute
import Gatehouse.Proofs.Event.Publication
import Gatehouse.Proofs.Account.Reported
