import VoiceCursor.Files.Tree
import VoiceCursor.Main
import VoiceCursor.Proofs.Text.Lowercase
import VoiceCursor.Proofs.Text.Pieces
import VoiceCursor.Proofs.Utterance
import VoiceCursor.Proofs.Grammar.Role
import VoiceCursor.Proofs.Grammar.Taken
import VoiceCursor.Proofs.Listener.Calls
import VoiceCursor.Proofs.Listener.Utterances
import VoiceCursor.Proofs.Listener.Cutting
import VoiceCursor.Proofs.Listener.Commands
import VoiceCursor.Proofs.Session.Utterance
import VoiceCursor.Proofs.Buffer
import VoiceCursor.Proofs.Session.Dictation
import VoiceCursor.Proofs.Buffer.WellFormed
import VoiceCursor.Proofs.Buffer.Checked
import VoiceCursor.Proofs.Buffer.Saved
import VoiceCursor.Proofs.Session.Document
import VoiceCursor.Proofs.Run
import VoiceCursor.Proofs.Listener.Words
import VoiceCursor.Proofs.Session.Feedback
import VoiceCursor.Proofs.SpokenNumber
import VoiceCursor.Proofs.Listener.Completion
import VoiceCursor.Proofs.Text.Steady
import VoiceCursor.Proofs.Utterance.Speakable
import VoiceCursor.Proofs.Table
import VoiceCursor.Proofs.Vocabulary.Reachable
import VoiceCursor.Proofs.Vocabulary.SameSpeech
import VoiceCursor.Proofs.Session.SameSpeech
import VoiceCursor.Proofs.Run.Outcome
import VoiceCursor.Proofs.Buffer.Splice
import VoiceCursor.Proofs.Listener.Landing
import VoiceCursor.Proofs.Text.Lowered
import VoiceCursor.Proofs.Listener.Noise
import VoiceCursor.Proofs.Session.Retouch
import VoiceCursor.Proofs.Text.Utf8
import VoiceCursor.Proofs.Run.Retouch
import VoiceCursor.Proofs.Listener.ToLine
import VoiceCursor.Proofs.Listener.Misheard
import VoiceCursor.Proofs.Text.ByteOrder
import VoiceCursor.Proofs.Json.Written
import VoiceCursor.Proofs.Json.Scan
import VoiceCursor.Proofs.Json.Numeral
import VoiceCursor.Proofs.Json.Reader
import VoiceCursor.Proofs.Vocabulary.Documents
import VoiceCursor.Proofs.Vocabulary.Directory
import VoiceCursor.Proofs.Run.Listing
import VoiceCursor.Proofs.Toml.Entries
import VoiceCursor.Proofs.Files.Path
import VoiceCursor.Proofs.Settings
import VoiceCursor.Proofs.Run.Consulted
