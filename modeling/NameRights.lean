import NameRights.Abi.Decode
import NameRights.Abi.Encode
import NameRights.Abi.Interface
import NameRights.Abi.Kind
import NameRights.Abi.Shape
import NameRights.Abi.Value
import NameRights.Bytes
import NameRights.Client
import NameRights.Client.Logs
import NameRights.Command.Argument
import NameRights.Command.Basic
import NameRights.Command.Events
import NameRights.Command.Inquiry
import NameRights.Command.Line
import NameRights.Command.Program
import NameRights.Command.Setting
import NameRights.Command.Signing
import NameRights.Command.Task
import NameRights.Command.Usage
import NameRights.Command.Watch
import NameRights.Constants
import NameRights.Contract.Basic
import NameRights.Contract.Call
import NameRights.Contract.Privilege
import NameRights.Contract.PrivilegeInterface
import NameRights.Contract.Registry
import NameRights.Contract.RegistryInterface
import NameRights.Contract.Selectors
import NameRights.Crypto.Aes
import NameRights.Crypto.Scrypt
import NameRights.Crypto.Secp256k1
import NameRights.Crypto.Sha256
import NameRights.Error
import NameRights.Event.Filter
import NameRights.Event.Kind
import NameRights.Event.Parsed
import NameRights.Event.Record
import NameRights.Feed.Basic
import NameRights.Feed.Channel
import NameRights.Feed.Cursor
import NameRights.Feed.Forwarder
import NameRights.Feed.Rehearsal
import NameRights.Feed.Subscription
import NameRights.Feed.Tap
import NameRights.Hashing
import NameRights.Hex
import NameRights.Json.Basic
import NameRights.Json.Reader
import NameRights.Json.Writer
import NameRights.Keccak
import NameRights.Key.File
import NameRights.Key.Ring
import NameRights.Key.Secret
import NameRights.Log
import NameRights.Main
import NameRights.Node.Endpoint
import NameRights.Node.Exchange
import NameRights.Node.Form
import NameRights.Node.Poller
import NameRights.Node.Rlp
import NameRights.Node.Script
import NameRights.Node.Timeline
import NameRights.Node.Transaction
import NameRights.Proofs.Abi.Layout
import NameRights.Proofs.Abi.Outputs
import NameRights.Proofs.Abi.Padding
import NameRights.Proofs.Abi.Placement
import NameRights.Proofs.Abi.RoundTrip
import NameRights.Proofs.Abi.Typing
import NameRights.Proofs.Bytes
import NameRights.Proofs.Client.Logs
import NameRights.Proofs.Command.Argument
import NameRights.Proofs.Command.Exchanges
import NameRights.Proofs.Command.Listing
import NameRights.Proofs.Command.Registration
import NameRights.Proofs.Command.Shown
import NameRights.Proofs.Command.Spelling
import NameRights.Proofs.Command.WatchCourse
import NameRights.Proofs.Command.Watching
import NameRights.Proofs.Contract.Admission
import NameRights.Proofs.Contract.Answers
import NameRights.Proofs.Contract.Batch
import NameRights.Proofs.Contract.Calldata
import NameRights.Proofs.Contract.Meaning
import NameRights.Proofs.Contract.Method
import NameRights.Proofs.Contract.Overload
import NameRights.Proofs.Contract.Selectors
import NameRights.Proofs.Crypto.Nonce
import NameRights.Proofs.Crypto.Sha256
import NameRights.Proofs.Crypto.Signature
import NameRights.Proofs.Digest
import NameRights.Proofs.Event.Datum
import NameRights.Proofs.Event.Declared
import NameRights.Proofs.Event.Matching
import NameRights.Proofs.Event.Parsing
import NameRights.Proofs.Event.Records
import NameRights.Proofs.Event.Selection
import NameRights.Proofs.Event.Taking
import NameRights.Proofs.Feed.Abandonment
import NameRights.Proofs.Feed.Attendance
import NameRights.Proofs.Feed.Closing
import NameRights.Proofs.Feed.CursorCourse
import NameRights.Proofs.Feed.Delivery
import NameRights.Proofs.Feed.ForwarderCourse
import NameRights.Proofs.Feed.ForwarderMoves
import NameRights.Proofs.Feed.HandleCourse
import NameRights.Proofs.Feed.Ledger
import NameRights.Proofs.Feed.Reading
import NameRights.Proofs.Feed.ReplayCourse
import NameRights.Proofs.Feed.Supply
import NameRights.Proofs.HexText
import NameRights.Proofs.Keccak
import NameRights.Proofs.Key.Enumeration
import NameRights.Proofs.Key.Listing
import NameRights.Proofs.Key.Reading
import NameRights.Proofs.Key.Ring
import NameRights.Proofs.Key.Selection
import NameRights.Proofs.Key.Unlocking
import NameRights.Proofs.Node.Envelope
import NameRights.Proofs.Node.Form
import NameRights.Proofs.Node.LegacySubmission
import NameRights.Proofs.Node.LineCourse
import NameRights.Proofs.Node.LineRest
import NameRights.Proofs.Node.PollingCourse
import NameRights.Proofs.Node.RlpBody
import NameRights.Proofs.Node.RlpRoundTrip
import NameRights.Proofs.Node.StatedTerms
import NameRights.Proofs.Node.Submission
import NameRights.Proofs.Node.Supplying
import NameRights.Proofs.Node.TimelineCourse
import NameRights.Proofs.Node.TypedSubmission
import NameRights.Proofs.Result
import NameRights.Proofs.Session.Asking
import NameRights.Proofs.Session.Transcript
import NameRights.Proofs.Text.Numeral
import NameRights.Proofs.Text.Utf8
import NameRights.Proofs.Word
import NameRights.Session
import NameRights.Text.Blank
import NameRights.Text.Quoted
import NameRights.Text.Unprintable
import NameRights.Text.Utf8
import NameRights.Transport
import NameRights.Word
