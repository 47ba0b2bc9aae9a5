import Agora.Account.Database
import Agora.Account.Session
import Agora.Cache.Address
import Agora.Cache.Users
import Agora.Settings
import Agora.Social.Database
import Agora.Social.Overlap
import Agora.Social.Session
import Agora.Proofs.Account.Acceptance
import Agora.Proofs.Account.Activation
import Agora.Proofs.Account.Contract
import Agora.Proofs.Account.Database
import Agora.Proofs.Account.Email
import Agora.Proofs.Account.Expiry
import Agora.Proofs.Account.History
import Agora.Proofs.Account.LogIn
import Agora.Proofs.Account.Operations
import Agora.Proofs.Account.Registration
import Agora.Proofs.Account.Reticence
import Agora.Proofs.Account.Rules
import Agora.Proofs.Decimal
import Agora.Proofs.Exchange
import Agora.Proofs.Exchange.Faults
import Agora.Proofs.Exchange.Time
import Agora.Proofs.Http.Credentials
import Agora.Proofs.Json.Documents
import Agora.Proofs.Json.Numbers
import Agora.Proofs.Json.Records
import Agora.Proofs.Json.Strings
import Agora.Proofs.Json.Tokens
import Agora.Proofs.Json.Values
import Agora.Proofs.Password.Argon2
import Agora.Proofs.Result
import Agora.Proofs.Settings
import Agora.Proofs.Social.CacheAside
import Agora.Proofs.Social.Composition
import Agora.Proofs.Social.Deadline
import Agora.Proofs.Social.Feed
import Agora.Proofs.Social.Gate
import Agora.Proofs.Social.Integrity
import Agora.Proofs.Social.Mutation
import Agora.Proofs.Social.Operations
import Agora.Proofs.Social.Overlap
import Agora.Proofs.Social.Resolver
import Agora.Proofs.Social.Transparency
import Agora.Proofs.Social.Untouched
import Agora.Proofs.Social.Versions
import Agora.Proofs.Sql.Session
import Agora.Proofs.Sql.Transaction
import Agora.Proofs.Store
import Agora.Proofs.Store.Feed
import Agora.Proofs.Store.Ids
import Agora.Proofs.Store.Integrity
import Agora.Proofs.Store.Later
import Agora.Proofs.Store.Versions
import Agora.Proofs.Text.Base64
import Agora.Proofs.Text.Characters
import Agora.Proofs.Text.LowerCase
import Agora.Proofs.Text.Split
import Agora.Proofs.Text.Utf8
import Agora.Proofs.Time.Calendar
import Agora.Proofs.Time.Rfc3339
import Agora.Proofs.Time.Shift
import Agora.Proofs.Token.Dates
import Agora.Proofs.Token.Header
import Agora.Proofs.Token.Lifetime
import Agora.Proofs.Token.Validation
import Agora.Proofs.Records
import Agora.Proofs.Cache.Users
import Agora.Proofs.Http.Paths
import Agora.Proofs.Social.Requests
import Agora.Proofs.Exchange.Texts
import Agora.Proofs.Social.Discretion
import Agora.Proofs.Account.Discretion
import Agora.Proofs.Discretion
import Agora.Proofs.Sql.Like
import Agora.Proofs.Sql.Placeholders
import Agora.Proofs.Feed.Statement
import Agora.Proofs.Store.Outcomes
import Agora.Proofs.Store.Roles
import Agora.Proofs.Exchange.Lockstep
import Agora.Proofs.Social.Guard
import Agora.Proofs.Social.Ranks
import Agora.Proofs.Social.Sequential
import Agora.Proofs.Text.Sigma
import Agora.Proofs.Text.Trim
import Agora.Proofs.Decimal.Numeral
import Agora.Proofs.Decimal.Word
import Agora.Proofs.Tag
import Agora.Proofs.Time.Days
import Agora.Proofs.Time.Spelling
import Agora.Proofs.Social.FeedParams
import Agora.Proofs.Social.Tags
import Agora.Proofs.Feed.Query
import Agora.Proofs.Store.Search
import Agora.Proofs.Store.Texts
import Agora.Proofs.Social.Endings
import Agora.Proofs.Social.Deeds
import Agora.Proofs.Social.Texts
import Agora.Proofs.Social.Follows
import Agora.Proofs.Store.Comments
import Agora.Proofs.Social.Comments
import Agora.Proofs.Social.Edges
import Agora.Proofs.Store.Independence
import Agora.Proofs.Social.Independence
import Agora.Proofs.Integers
