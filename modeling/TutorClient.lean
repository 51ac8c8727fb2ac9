import TutorClient.Reply.Markup
import TutorClient.Session.Run
import TutorClient.Terminal.Handle
import TutorClient.Screen.Draw
import TutorClient.Proofs.Run
import TutorClient.Proofs.Ticket.Channel
import TutorClient.Proofs.Chat.Conversation
import TutorClient.Proofs.Slot.LatestChoice
import TutorClient.Proofs.Reply.RoundTrip
import TutorClient.Proofs.Reply.Recovery
import TutorClient.Proofs.Independence
import TutorClient.Proofs.Slot.Preview
import TutorClient.Proofs.Terminal.Run
import TutorClient.Proofs.Terminal.Typing
import TutorClient.Proofs.Screen.ChatEnd
import TutorClient.Proofs.Screen.Cursor
import TutorClient.Proofs.Language.Caption
import TutorClient.Proofs.Language.Agreement
import TutorClient.Proofs.Language.Toggle
import TutorClient.Proofs.Terminal.Editing
import TutorClient.Proofs.Slot.Showing
import TutorClient.Proofs.Server.StatusBlind
import TutorClient.Proofs.Settings.Theme
import TutorClient.Proofs.History.Refresh
import TutorClient.Proofs.History.Entry
import TutorClient.Proofs.Terminal.Background
import TutorClient.Proofs.Reply.Lossless
import TutorClient.Proofs.Refusal
import TutorClient.Proofs.Terminal.Chord
import TutorClient.Proofs.Settings.Edited
import TutorClient.Proofs.Server.ChatBody
import TutorClient.Proofs.Json.Exact
import TutorClient.Proofs.Server.HelpEntries
import TutorClient.Proofs.Slot.Comparison
import TutorClient.Proofs.Reply.Newline
import TutorClient.Proofs.Ticket.Calls
import TutorClient.Proofs.Lifetime
import TutorClient.Proofs.Screen.Popup
