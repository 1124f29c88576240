import SchoolCatalog.Access.Caller
import SchoolCatalog.Access.Password
import SchoolCatalog.Access.Token
import SchoolCatalog.Bytes.Base64Url
import SchoolCatalog.Bytes.Hex
import SchoolCatalog.Bytes.Latin1
import SchoolCatalog.Bytes.Utf8
import SchoolCatalog.Bytes.Wide
import SchoolCatalog.Calendar
import SchoolCatalog.Catalog.Collection
import SchoolCatalog.Catalog.Standard
import SchoolCatalog.Charset.CodePage.Basic
import SchoolCatalog.Charset.CodePage.Dos
import SchoolCatalog.Charset.CodePage.Ebcdic
import SchoolCatalog.Charset.CodePage.Iso
import SchoolCatalog.Charset.CodePage.Macintosh
import SchoolCatalog.Charset.CodePage.Windows
import SchoolCatalog.Charset.Decode
import SchoolCatalog.Charset.DoubleByte.Basic
import SchoolCatalog.Charset.DoubleByte.BigFiveTable
import SchoolCatalog.Charset.DoubleByte.Chinese
import SchoolCatalog.Charset.DoubleByte.GuobiaoTable
import SchoolCatalog.Charset.DoubleByte.Japanese
import SchoolCatalog.Charset.DoubleByte.JisTable
import SchoolCatalog.Charset.DoubleByte.Korean
import SchoolCatalog.Charset.DoubleByte.KoreanTable
import SchoolCatalog.Charset.Escape
import SchoolCatalog.Charset.Name
import SchoolCatalog.Charset.Punycode
import SchoolCatalog.Charset.Utf7
import SchoolCatalog.Datum.Basic
import SchoolCatalog.Datum.Display
import SchoolCatalog.Digest.Hmac
import SchoolCatalog.Digest.Sha256
import SchoolCatalog.Failure
import SchoolCatalog.Form.Draft
import SchoolCatalog.Form.Issue
import SchoolCatalog.Form.Payload
import SchoolCatalog.Form.Reader
import SchoolCatalog.Form.View
import SchoolCatalog.Geo.Distance
import SchoolCatalog.Geo.Geocoder
import SchoolCatalog.Http.Address
import SchoolCatalog.Http.FormBody
import SchoolCatalog.Http.Guard
import SchoolCatalog.Http.Header
import SchoolCatalog.Http.Message
import SchoolCatalog.Http.Multipart
import SchoolCatalog.Http.Route
import SchoolCatalog.Http.Server
import SchoolCatalog.Http.Session
import SchoolCatalog.Json.Encoding
import SchoolCatalog.Json.Parser
import SchoolCatalog.Json.Printer
import SchoolCatalog.Logging
import SchoolCatalog.Main
import SchoolCatalog.Number.Binary64
import SchoolCatalog.Number.Decimal
import SchoolCatalog.Number.Extended
import SchoolCatalog.Number.Notation
import SchoolCatalog.Number.Reading
import SchoolCatalog.Number.Stored
import SchoolCatalog.Number.Summation
import SchoolCatalog.Number.Word
import SchoolCatalog.Paths
import SchoolCatalog.Proofs.Access.Lifetime
import SchoolCatalog.Proofs.Access.Password
import SchoolCatalog.Proofs.Access.Signature
import SchoolCatalog.Proofs.Access.Token
import SchoolCatalog.Proofs.Access.Verifying
import SchoolCatalog.Proofs.Bytes.Base64Url
import SchoolCatalog.Proofs.Bytes.Respelling
import SchoolCatalog.Proofs.Bytes.Utf8
import SchoolCatalog.Proofs.Calendar.Order
import SchoolCatalog.Proofs.Form.Changes
import SchoolCatalog.Proofs.Form.Reading
import SchoolCatalog.Proofs.Http.Conflicts
import SchoolCatalog.Proofs.Http.Exhaustion
import SchoolCatalog.Proofs.Http.Guard
import SchoolCatalog.Proofs.Http.Identity
import SchoolCatalog.Proofs.Http.Issuing
import SchoolCatalog.Proofs.Http.Login
import SchoolCatalog.Proofs.Http.Owners
import SchoolCatalog.Proofs.Http.Ownership
import SchoolCatalog.Proofs.Http.Replies
import SchoolCatalog.Proofs.Http.Requests
import SchoolCatalog.Proofs.Http.Roles
import SchoolCatalog.Proofs.Json.Numbers
import SchoolCatalog.Proofs.Json.Records
import SchoolCatalog.Proofs.Json.Texts
import SchoolCatalog.Proofs.Json.Values
import SchoolCatalog.Proofs.Lists
import SchoolCatalog.Proofs.Number.Ceiling
import SchoolCatalog.Proofs.Number.Digits
import SchoolCatalog.Proofs.Number.Doubles
import SchoolCatalog.Proofs.Number.Mean
import SchoolCatalog.Proofs.Number.Rounding
import SchoolCatalog.Proofs.Query.Compiled
import SchoolCatalog.Proofs.Query.Filters
import SchoolCatalog.Proofs.Query.Gathering
import SchoolCatalog.Proofs.Query.Keys
import SchoolCatalog.Proofs.Query.Lexemes
import SchoolCatalog.Proofs.Query.Request
import SchoolCatalog.Proofs.Record
import SchoolCatalog.Proofs.Service.Absent
import SchoolCatalog.Proofs.Service.Accounts
import SchoolCatalog.Proofs.Service.Answers
import SchoolCatalog.Proofs.Service.Averages
import SchoolCatalog.Proofs.Service.Complement
import SchoolCatalog.Proofs.Service.Conflicts
import SchoolCatalog.Proofs.Service.Current
import SchoolCatalog.Proofs.Service.Dating
import SchoolCatalog.Proofs.Service.Departures
import SchoolCatalog.Proofs.Service.Dependents
import SchoolCatalog.Proofs.Service.Effects
import SchoolCatalog.Proofs.Service.Ends
import SchoolCatalog.Proofs.Service.Ensures
import SchoolCatalog.Proofs.Service.Files
import SchoolCatalog.Proofs.Service.Filtered
import SchoolCatalog.Proofs.Service.Hidden
import SchoolCatalog.Proofs.Service.Hurdles
import SchoolCatalog.Proofs.Service.Inclusion
import SchoolCatalog.Proofs.Service.Isolation
import SchoolCatalog.Proofs.Service.Listing
import SchoolCatalog.Proofs.Service.Locations
import SchoolCatalog.Proofs.Service.Newest
import SchoolCatalog.Proofs.Service.Origins
import SchoolCatalog.Proofs.Service.Outcomes
import SchoolCatalog.Proofs.Service.PhotoNames
import SchoolCatalog.Proofs.Service.Photos
import SchoolCatalog.Proofs.Service.Prose
import SchoolCatalog.Proofs.Service.Publishing
import SchoolCatalog.Proofs.Service.Radius
import SchoolCatalog.Proofs.Service.Recomputing
import SchoolCatalog.Proofs.Service.Related
import SchoolCatalog.Proofs.Service.Reordered
import SchoolCatalog.Proofs.Service.Revisions
import SchoolCatalog.Proofs.Service.Run
import SchoolCatalog.Proofs.Service.Runs
import SchoolCatalog.Proofs.Service.Schools
import SchoolCatalog.Proofs.Service.Selecting
import SchoolCatalog.Proofs.Service.Steps
import SchoolCatalog.Proofs.Service.Walk
import SchoolCatalog.Proofs.Service.Writes
import SchoolCatalog.Proofs.Store.Accepting
import SchoolCatalog.Proofs.Store.Cascade
import SchoolCatalog.Proofs.Store.Cell
import SchoolCatalog.Proofs.Store.Changes
import SchoolCatalog.Proofs.Store.Comparison
import SchoolCatalog.Proofs.Store.Contents
import SchoolCatalog.Proofs.Store.Filtering
import SchoolCatalog.Proofs.Store.Finding
import SchoolCatalog.Proofs.Store.Hiding
import SchoolCatalog.Proofs.Store.Matching
import SchoolCatalog.Proofs.Store.Migrating
import SchoolCatalog.Proofs.Store.Refusing
import SchoolCatalog.Proofs.Store.Schema
import SchoolCatalog.Proofs.Store.Sorting
import SchoolCatalog.Proofs.Store.Sound
import SchoolCatalog.Proofs.Store.Writing
import SchoolCatalog.Query.Condition
import SchoolCatalog.Query.Request
import SchoolCatalog.Service.Accounts
import SchoolCatalog.Service.Aggregate
import SchoolCatalog.Service.Basic
import SchoolCatalog.Service.Courses
import SchoolCatalog.Service.Listing
import SchoolCatalog.Service.Operation
import SchoolCatalog.Service.Reviews
import SchoolCatalog.Service.Schools
import SchoolCatalog.Service.Store
import SchoolCatalog.Settings
import SchoolCatalog.Store.Cell
import SchoolCatalog.Store.Database
import SchoolCatalog.Store.Declaration
import SchoolCatalog.Store.Layout
import SchoolCatalog.Store.Migration
import SchoolCatalog.Store.Name
import SchoolCatalog.Store.Select
import SchoolCatalog.Store.Statement
import SchoolCatalog.Store.Write
import SchoolCatalog.Text.Blank
import SchoolCatalog.Text.Case
import SchoolCatalog.Text.Digit
import SchoolCatalog.Text.Printable
import SchoolCatalog.Text.Quoted
import SchoolCatalog.Text.Wording
