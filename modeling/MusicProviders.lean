import MusicProviders.Number.Binary64
import MusicProviders.Number.Shortest
import MusicProviders.Json.Basic
import MusicProviders.Json.Parse
import MusicProviders.Json.Print
import MusicProviders.Json.Decode
import MusicProviders.Text.Blank
import MusicProviders.Text.Alphanumeric
import MusicProviders.Text.Title
import MusicProviders.Text.DebugQuote
import MusicProviders.Media.Basic
import MusicProviders.Media.Model
import MusicProviders.Media.Encode
import MusicProviders.Media.Decode
import MusicProviders.Provider.Error
import MusicProviders.Provider.Logging
import MusicProviders.Command.Basic
import MusicProviders.Command.Cipher
import MusicProviders.Command.Vendor
import MusicProviders.Command.Dispatch
import MusicProviders.Text.Hex
import MusicProviders.Text.Decimal
import MusicProviders.Text.FormEncode
import MusicProviders.Cipher.Md5
import MusicProviders.Cipher.BlowfishTables
import MusicProviders.Cipher.Blowfish
import MusicProviders.Cipher.Stripe
import MusicProviders.Deezer.Record
import MusicProviders.Deezer.Convert
import MusicProviders.Media.Stream
import MusicProviders.Deezer.Rules
import MusicProviders.Deezer.Auth
import MusicProviders.Deezer.Gateway
import MusicProviders.Soundcloud.Record
import MusicProviders.Soundcloud.Convert
import MusicProviders.Soundcloud.Rules
import MusicProviders.Provider.Config
import MusicProviders.Provider.Host
import MusicProviders.Provider.Base
import MusicProviders.Provider.Listing
import MusicProviders.Provider.Call
import MusicProviders.Command.Calls
import MusicProviders.Command.Models
import MusicProviders.Command.Provider
import MusicProviders.Command.Session
import MusicProviders.Deezer.Api
import MusicProviders.Deezer.GatewayClient
import MusicProviders.Deezer.Provider
import MusicProviders.Deezer.Settings
import MusicProviders.Http.Exchange
import MusicProviders.Http.Status
import MusicProviders.Http.Url
import MusicProviders.Provider.Kind
import MusicProviders.Provider.Operations
import MusicProviders.Provider.Paging
import MusicProviders.Soundcloud.Api
import MusicProviders.Soundcloud.Provider
import MusicProviders.Text.Utf8
import MusicProviders.Cli.Args
import MusicProviders.Cli.Run
import MusicProviders.Main
import MusicProviders.Proofs.Cipher.BlockInverse
import MusicProviders.Proofs.Cipher.StripeRoundTrip
import MusicProviders.Proofs.Cipher.Segments
import MusicProviders.Proofs.Cipher.SegmentBlocks
import MusicProviders.Proofs.Cipher.Seek
import MusicProviders.Proofs.Mapping.Anchoring
import MusicProviders.Proofs.Mapping.Malformed
import MusicProviders.Proofs.Provider.Lifecycle
import MusicProviders.Proofs.Json.Shapes
import MusicProviders.Proofs.Json.Schemas
import MusicProviders.Proofs.Http.Failures
import MusicProviders.Proofs.Paging.Chain
import MusicProviders.Proofs.Paging.Library
import MusicProviders.Proofs.Paging.Walk
import MusicProviders.Proofs.Paging.Entries
import MusicProviders.Proofs.Paging.Positions
import MusicProviders.Proofs.Paging.Removal
import MusicProviders.Proofs.Paging.Prefix
import MusicProviders.Proofs.Search.FanOut
import MusicProviders.Proofs.Search.Split
import MusicProviders.Proofs.Json.Records
import MusicProviders.Proofs.Media.Sets
import MusicProviders.Proofs.Media.RoundTrip
import MusicProviders.Proofs.Text.BracketPieces
import MusicProviders.Proofs.Text.BlankRuns
import MusicProviders.Proofs.Text.TitleVersion
import MusicProviders.Proofs.Provider.Lookups
import MusicProviders.Proofs.Provider.Edits
import MusicProviders.Proofs.Provider.SignIn
import MusicProviders.Proofs.Provider.ListenReport
import MusicProviders.Proofs.Text.TitleSlices
