import PageAid.Alarm
import PageAid.Assistant.Gemini
import PageAid.Assistant.ImageFetch
import PageAid.Assistant.Prompt
import PageAid.Assistant.Query
import PageAid.Assistant.Translation
import PageAid.Environment
import PageAid.Failure
import PageAid.Guide
import PageAid.Host
import PageAid.Json.Basic
import PageAid.Json.Decode
import PageAid.Json.Numeral
import PageAid.Json.Printer
import PageAid.Json.Reader
import PageAid.Json.Token
import PageAid.Keyed
import PageAid.Main
import PageAid.MainContent
import PageAid.Message
import PageAid.Number.Binary
import PageAid.Number.Fixed
import PageAid.Number.Shortest
import PageAid.Page.Document
import PageAid.Page.Element
import PageAid.Page.Format
import PageAid.Page.Markup
import PageAid.Page.Selector
import PageAid.Pomodoro
import PageAid.Session.Action
import PageAid.Session.Basic
import PageAid.Session.Focus
import PageAid.Session.Platform
import PageAid.Session.Router
import PageAid.Session.Timeline
import PageAid.Session.Toggle
import PageAid.Session.Voice
import PageAid.Settings.Basic
import PageAid.Settings.Store
import PageAid.Speech.Command
import PageAid.Speech.Control
import PageAid.Speech.Event
import PageAid.Speech.Recognition
import PageAid.Speech.Synthesizer
import PageAid.Speech.Utterance
import PageAid.Text.Blank
import PageAid.Text.Case
import PageAid.Text.CaseTable
import PageAid.Text.Composition
import PageAid.Text.CompositionTable
import PageAid.Text.Digit
import PageAid.Text.Find
import PageAid.Text.Grid
import PageAid.Text.Packed
import PageAid.Text.Split
import PageAid.Timestamp
import PageAid.Toggle
import PageAid.Web.Address
import PageAid.Web.Answer
import PageAid.Web.Base64
import PageAid.Web.Blocking
import PageAid.Web.Charset
import PageAid.Web.Charset.Chinese
import PageAid.Web.Charset.Japanese
import PageAid.Web.Charset.JapaneseTable
import PageAid.Web.Charset.Korean
import PageAid.Web.Charset.KoreanTable
import PageAid.Web.Charset.MultiByte
import PageAid.Web.Charset.SimplifiedTable
import PageAid.Web.Charset.TraditionalTable
import PageAid.Web.Chunked
import PageAid.Web.CodePage
import PageAid.Web.ContentType
import PageAid.Web.Domain
import PageAid.Web.DomainTable
import PageAid.Web.Header
import PageAid.Web.Label
import PageAid.Web.LabelTable
import PageAid.Web.Network
import PageAid.Web.Percent
import PageAid.Web.Punycode
import PageAid.Web.Response
import PageAid.Web.Status
import PageAid.Web.Url
import PageAid.Web.Utf8
import PageAid.Worker.Basic
import PageAid.Worker.Browser
import PageAid.Worker.Format
import PageAid.Proofs.Page.Tree
import PageAid.Proofs.Page.Update
import PageAid.Proofs.Page.Removal
import PageAid.Proofs.Page.Sketch
import PageAid.Proofs.Page.Format
import PageAid.Proofs.Keyed
import PageAid.Proofs.Number.Layout
import PageAid.Proofs.Json.Numeral
import PageAid.Proofs.Json.Lexing
import PageAid.Proofs.Json.Reread
import PageAid.Proofs.Json.Normal
import PageAid.Proofs.Json.Lasting
import PageAid.Proofs.Json.Varied
import PageAid.Proofs.Json.Recast
import PageAid.Proofs.WireForm
import PageAid.Proofs.Settings.Text
import PageAid.Proofs.Settings.Sharing
import PageAid.Proofs.Settings.Reopened
import PageAid.Proofs.Session.Activation
import PageAid.Proofs.Session.Aside
import PageAid.Proofs.Session.Record
import PageAid.Proofs.Session.Change
import PageAid.Proofs.Page.Located
import PageAid.Proofs.Session.Band
import PageAid.Proofs.Session.Body
import PageAid.Proofs.Session.FocusMode
import PageAid.Proofs.Session.Timer
import PageAid.Proofs.Session.Load
import PageAid.Proofs.Session.Episode
import PageAid.Proofs.Session.ClassSwitch
import PageAid.Proofs.Session.ColorFilter
import PageAid.Proofs.Session.ScrollLock
import PageAid.Proofs.Session.Reload
import PageAid.Proofs.Session.OwnContent
import PageAid.Proofs.Translation.Batch
import PageAid.Proofs.Page.Lowered
import PageAid.Proofs.Translation.Unread
import PageAid.Proofs.LetterCase
import PageAid.Proofs.Translation.Write
import PageAid.Proofs.Translation.Progress
import PageAid.Proofs.Translation.Move
import PageAid.Proofs.Translation.Faithful
import PageAid.Proofs.Speech.Recognizers
import PageAid.Proofs.Session.VoiceControl
import PageAid.Proofs.Guide
import PageAid.Proofs.Guide.Following
import PageAid.Proofs.Session.Repeat
import PageAid.Proofs.Session.Storage
import PageAid.Proofs.Session.Drain
import PageAid.Proofs.Text.Lines
import PageAid.Proofs.Translation.Framing
import PageAid.Proofs.Translation.Chunk
import PageAid.Proofs.Translation.Course
import PageAid.Proofs.Translation.Request
import PageAid.Proofs.Translation.InFlight
import PageAid.Proofs.Worker.Injection
import PageAid.Proofs.Session.Dealings
import PageAid.Proofs.Session.Keyless
import PageAid.Proofs.Session.ReadingAloud
import PageAid.Proofs.Host
import PageAid.Proofs.Pomodoro
import PageAid.Proofs.Settings.Durations
import PageAid.Proofs.Worker.Installation
import PageAid.Proofs.Speech.Handed
import PageAid.Proofs.Session.FontScale
import PageAid.Proofs.Translation.Reply
import PageAid.Proofs.MainContent.Article
import PageAid.Proofs.Page.Pruning
import PageAid.Proofs.MainContent.AreaText
import PageAid.Proofs.Session.SkipLink
import PageAid.Proofs.Page.Erasure
import PageAid.Proofs.Page.Nearest
import PageAid.Proofs.Web.Blocking
import PageAid.Proofs.Worker.Click
import PageAid.Proofs.Page.Change
import PageAid.Proofs.Page.Walk
import PageAid.Proofs.MainContent.Spot
import PageAid.Proofs.MainContent.Surroundings
