import WerewolfSpeech.Content.Mention
import WerewolfSpeech.Content.Speech
import WerewolfSpeech.Line.Subject
import WerewolfSpeech.Main
import WerewolfSpeech.Proofs.Content.Speech
import WerewolfSpeech.Proofs.Content.Completion
import WerewolfSpeech.Text.Numeral
import WerewolfSpeech.Proofs.Content.Draft
import WerewolfSpeech.Proofs.Content.WellFormed
import WerewolfSpeech.Proofs.Text.Blank
import WerewolfSpeech.Proofs.Text.Numeral
import WerewolfSpeech.Proofs.Agent
import WerewolfSpeech.Proofs.Line.Word
import WerewolfSpeech.Proofs.Line.Spacing
import WerewolfSpeech.Proofs.Line.Layout
import WerewolfSpeech.Proofs.Line.Groups
import WerewolfSpeech.Proofs.Line.Phrase
import WerewolfSpeech.Proofs.Reading.Grammar
import WerewolfSpeech.Proofs.Reading.Acceptance
import WerewolfSpeech.Proofs.Reachable
import WerewolfSpeech.Proofs.Content.Phrase
import WerewolfSpeech.Proofs.Content.Rendering
import WerewolfSpeech.Proofs.Content.Silence
import WerewolfSpeech.Proofs.Reading.RoundTrip
import WerewolfSpeech.Proofs.Reading.Canonical
import WerewolfSpeech.Proofs.Reading.Settled
import WerewolfSpeech.Proofs.Content.Nodes
import WerewolfSpeech.Proofs.Content.Attribution
import WerewolfSpeech.Proofs.Reading.Leniency
import WerewolfSpeech.Proofs.SameSpeech
import WerewolfSpeech.Proofs.Reading.Clauses
import WerewolfSpeech.Proofs.Reading.Literal
import WerewolfSpeech.Inscription
import WerewolfSpeech.Proofs.Inscription.Building
import WerewolfSpeech.Proofs.Inscription.Reading
import WerewolfSpeech.Proofs.Inscription.Invariant
import WerewolfSpeech.Proofs.Json.Text
import WerewolfSpeech.Proofs.Reading.Truncation
import WerewolfSpeech.Proofs.Line.Reference
import WerewolfSpeech.Proofs.Content.Mention
import WerewolfSpeech.Proofs.Reading.Mention
import WerewolfSpeech.Proofs.Content.Participant
import WerewolfSpeech.Proofs.Reading.Survival
import WerewolfSpeech.Proofs.Reading.Fixpoint
import WerewolfSpeech.Proofs.Text.Lines
import WerewolfSpeech.Proofs.Command.Normalization
import WerewolfSpeech.Proofs.Inscription.Attribution
import WerewolfSpeech.Proofs.Line.Exchange
import WerewolfSpeech.Proofs.Reading.Substitution
import WerewolfSpeech.Proofs.Reading.DepthLimit
import WerewolfSpeech.Proofs.Line.Subject
import WerewolfSpeech.Proofs.Inscription.Body
import WerewolfSpeech.Proofs.Reading.Recognition
import WerewolfSpeech.Proofs.Line.Number
import WerewolfSpeech.Proofs.Reading.Diagnosis
import WerewolfSpeech.Proofs.Line.Spelling
import WerewolfSpeech.Proofs.Reading.Spelling
import WerewolfSpeech.Proofs.Json.Grammar
import WerewolfSpeech.Proofs.Json.Reading
import WerewolfSpeech.Proofs.Json.Writing
import WerewolfSpeech.Proofs.Record.RoundTrip
import WerewolfSpeech.Proofs.Record.Attribution
import WerewolfSpeech.Proofs.Content.SilentSubject
import WerewolfSpeech.Proofs.Command.Strictness
import WerewolfSpeech.Proofs.Text.Decimal
import WerewolfSpeech.Proofs.Agent.Label
import WerewolfSpeech.Line.Scan
import WerewolfSpeech.Proofs.Line.Scan
import WerewolfSpeech.Proofs.Line.Arrangement
import WerewolfSpeech.Inscription.View
import WerewolfSpeech.Proofs.Content.View
import WerewolfSpeech.Proofs.Inscription.View
import WerewolfSpeech.Directory
import WerewolfSpeech.Proofs.Directory.Filing
import WerewolfSpeech.Proofs.Directory.Session
import WerewolfSpeech.Proofs.Directory.Turns
