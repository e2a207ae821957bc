import ConstrainedDecoding.Bitmask
import ConstrainedDecoding.Compression.Bits
import ConstrainedDecoding.Compression.Container
import ConstrainedDecoding.Compression.Inflate
import ConstrainedDecoding.Compression.PrefixCode
import ConstrainedDecoding.Environment
import ConstrainedDecoding.Fault
import ConstrainedDecoding.Grammar.Basic
import ConstrainedDecoding.Grammar.Constraint
import ConstrainedDecoding.Grammar.Lark
import ConstrainedDecoding.Http.Client
import ConstrainedDecoding.Http.ContentType
import ConstrainedDecoding.Http.Exchange
import ConstrainedDecoding.Http.Failure
import ConstrainedDecoding.Http.Headers
import ConstrainedDecoding.Http.Status
import ConstrainedDecoding.Hub
import ConstrainedDecoding.Json.Basic
import ConstrainedDecoding.Json.Reader
import ConstrainedDecoding.Json.Writer
import ConstrainedDecoding.Keyed
import ConstrainedDecoding.Masking.Mask
import ConstrainedDecoding.Masking.Rank
import ConstrainedDecoding.Masking.Score
import ConstrainedDecoding.Masking.Tensor
import ConstrainedDecoding.Matcher
import ConstrainedDecoding.Number.Binary
import ConstrainedDecoding.Number.Integer
import ConstrainedDecoding.Number.Rounding
import ConstrainedDecoding.Number.Shortest
import ConstrainedDecoding.Processor
import ConstrainedDecoding.Proofs.AddedContents
import ConstrainedDecoding.Proofs.AddedListings
import ConstrainedDecoding.Proofs.CandidateSearch
import ConstrainedDecoding.Proofs.Credentials
import ConstrainedDecoding.Proofs.DocumentFaults
import ConstrainedDecoding.Proofs.DocumentParsing
import ConstrainedDecoding.Proofs.DocumentReaders
import ConstrainedDecoding.Proofs.EncodingDetection
import ConstrainedDecoding.Proofs.EndOfSequence
import ConstrainedDecoding.Proofs.EngineAutomata
import ConstrainedDecoding.Proofs.EngineDocument
import ConstrainedDecoding.Proofs.EngineQueries
import ConstrainedDecoding.Proofs.EntryCapture
import ConstrainedDecoding.Proofs.Exchanges
import ConstrainedDecoding.Proofs.FailedOperations
import ConstrainedDecoding.Proofs.FetchOutcomes
import ConstrainedDecoding.Proofs.FreshMatcher
import ConstrainedDecoding.Proofs.GrammarConformity
import ConstrainedDecoding.Proofs.GrammarText
import ConstrainedDecoding.Proofs.GrammarWire
import ConstrainedDecoding.Proofs.GreedyDecoding
import ConstrainedDecoding.Proofs.HostNames
import ConstrainedDecoding.Proofs.JsonLimits
import ConstrainedDecoding.Proofs.JsonReading
import ConstrainedDecoding.Proofs.JsonText
import ConstrainedDecoding.Proofs.LarkLexicon
import ConstrainedDecoding.Proofs.LarkTokens
import ConstrainedDecoding.Proofs.LevelsLeft
import ConstrainedDecoding.Proofs.LineBreaks
import ConstrainedDecoding.Proofs.LoadingAlike
import ConstrainedDecoding.Proofs.MaskRefinement
import ConstrainedDecoding.Proofs.MaskedScores
import ConstrainedDecoding.Proofs.MatcherStates
import ConstrainedDecoding.Proofs.MergeRules
import ConstrainedDecoding.Proofs.NullFields
import ConstrainedDecoding.Proofs.NumberText
import ConstrainedDecoding.Proofs.Outcome
import ConstrainedDecoding.Proofs.PackedMask
import ConstrainedDecoding.Proofs.Preference
import ConstrainedDecoding.Proofs.ProcessorStates
import ConstrainedDecoding.Proofs.ReadingAlike
import ConstrainedDecoding.Proofs.RecordText
import ConstrainedDecoding.Proofs.RecordedSession
import ConstrainedDecoding.Proofs.Rejections
import ConstrainedDecoding.Proofs.ScoreOrder
import ConstrainedDecoding.Proofs.ScriptedAutomata
import ConstrainedDecoding.Proofs.ScriptedNetworks
import ConstrainedDecoding.Proofs.SentGrammar
import ConstrainedDecoding.Proofs.SentRecord
import ConstrainedDecoding.Proofs.SignedWords
import ConstrainedDecoding.Proofs.StartRule
import ConstrainedDecoding.Proofs.StatisticsLedger
import ConstrainedDecoding.Proofs.TokenAutomata
import ConstrainedDecoding.Proofs.TokenIds
import ConstrainedDecoding.Proofs.UrlOrigins
import ConstrainedDecoding.Proofs.ValueText
import ConstrainedDecoding.Proofs.VocabularyPlaces
import ConstrainedDecoding.Scripted.Automaton
import ConstrainedDecoding.Scripted.Network
import ConstrainedDecoding.Scripted.Parse
import ConstrainedDecoding.Scripted.Session
import ConstrainedDecoding.Scripted.Surroundings
import ConstrainedDecoding.Scripted.Tensors
import ConstrainedDecoding.Scripted.TokenEngine
import ConstrainedDecoding.Session.Action
import ConstrainedDecoding.Session.Basic
import ConstrainedDecoding.Session.Event
import ConstrainedDecoding.Settings
import ConstrainedDecoding.Stack
import ConstrainedDecoding.Text.Base64
import ConstrainedDecoding.Text.Blank
import ConstrainedDecoding.Text.Charset.Basic
import ConstrainedDecoding.Text.Charset.China
import ConstrainedDecoding.Text.Charset.Error
import ConstrainedDecoding.Text.Charset.Escaped
import ConstrainedDecoding.Text.Charset.Grid
import ConstrainedDecoding.Text.Charset.Japan
import ConstrainedDecoding.Text.Charset.Korea
import ConstrainedDecoding.Text.Charset.Names
import ConstrainedDecoding.Text.Charset.Reading
import ConstrainedDecoding.Text.Charset.Switching
import ConstrainedDecoding.Text.Charset.Unicode
import ConstrainedDecoding.Text.CodeSet
import ConstrainedDecoding.Text.Combining
import ConstrainedDecoding.Text.Composition
import ConstrainedDecoding.Text.Digit
import ConstrainedDecoding.Text.Encoding
import ConstrainedDecoding.Text.Half
import ConstrainedDecoding.Text.Hex
import ConstrainedDecoding.Text.Lowercase
import ConstrainedDecoding.Text.Printable
import ConstrainedDecoding.Text.Quoted
import ConstrainedDecoding.TokenEngine.Basic
import ConstrainedDecoding.TokenEngine.Session
import ConstrainedDecoding.Tokenizer.Basic
import ConstrainedDecoding.Tokenizer.Description
import ConstrainedDecoding.Tokenizer.EngineForm
import ConstrainedDecoding.Url.Basic
import ConstrainedDecoding.Url.DomainName
import ConstrainedDecoding.Url.Error
import ConstrainedDecoding.Url.Host
import ConstrainedDecoding.Url.Label.Basic
import ConstrainedDecoding.Url.Label.Direction
import ConstrainedDecoding.Url.Label.Joining
import ConstrainedDecoding.Url.Label.Plain
import ConstrainedDecoding.Url.Percent
import ConstrainedDecoding.Url.Punycode
import ConstrainedDecoding.Url.Resolve
import ConstrainedDecoding.Value.Basic
import ConstrainedDecoding.Value.Convert
import ConstrainedDecoding.Value.Display
import ConstrainedDecoding.Value.Encode
import ConstrainedDecoding.Value.Equality
import ConstrainedDecoding.Value.Field
import ConstrainedDecoding.Value.Sorted
