import Omairc.Irc.Framer
import Omairc.Irc.FramerStream
import Omairc.Irc.Parser
import Omairc.Irc.TagEscaping
import Omairc.Irc.ParserRoundTrip
import Omairc.Irc.Capability
import Omairc.Irc.CommandBuilder
import Omairc.Irc.Presence
import Omairc.Irc.Source
import Omairc.Semantics.Execution
import Omairc.Session.Autojoin
import Omairc.Session.Batch
import Omairc.Session.Ctcp
import Omairc.Session.Dispatch
import Omairc.Session.Failure
import Omairc.Session.FrameSafety
import Omairc.Session.RegisteredStability
import Omairc.Session.LabelLedger
import Omairc.Session.MarkerLedger
import Omairc.Session.HistoryRequests
import Omairc.Session.BatchTrees
import Omairc.Session.ReplayedLines
import Omairc.Session.BatchBudget
import Omairc.Session.ChainRuns
import Omairc.Irc.CapabilityRuns
import Omairc.Net.Protocol
import Omairc.Irc.PrefixChanges
import Omairc.Irc.Reducer.TranscriptRuns
import Omairc.Irc.Reducer.AnchorRuns
import Omairc.Irc.Reducer.Replay
import Omairc.Controller.KeyAgreement
import Omairc.Controller.ChannelListOverlay
import Omairc.Controller.ChannelListAnswers
import Omairc.Storage.StsAgreement
import Omairc.Irc.Reducer.Stamps
import Omairc.Irc.Reducer.BadgeRuns
import Omairc.Irc.Reducer.Boundaries
import Omairc.Irc.ComposerBudget
import Omairc.Update.InstallerRuns
import Omairc.Controller.AutoawayRuns
import Omairc.Controller.ReplyRuns
import Omairc.Storage.SettingsSetters
import Omairc.Storage.SettingsRewrite
import Omairc.Controller.PlaybackRuns
import Omairc.Session.MonitorLists
import Omairc.Session.ScramRuns
import Omairc.Irc.TextFormat
import Omairc.Storage.StoragePath
import Omairc.Storage.ConversationLog
import Omairc.Irc.RedactedLines
import Omairc.Irc.CaptionRuns
import Omairc.Model.ScrollReturns
import Omairc.Model.TextHits
import Omairc.Model.ComposerRuns
import Omairc.Semantics.Fenwick
import Omairc.Model.TextEdit
import Omairc.Model.Transcript
import Omairc.Model.TranscriptRuns
import Omairc.Session.LinkMoves
import Omairc.Session.LinkRuns
import Omairc.Session.StopRuns
