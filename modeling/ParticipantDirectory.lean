import ParticipantDirectory.Proofs.Server.Registration
import ParticipantDirectory.Proofs.Server.Resubmission
import ParticipantDirectory.Proofs.Service.Atomicity
import ParticipantDirectory.Proofs.Service.Commuting
import ParticipantDirectory.Proofs.Service.Conservation
import ParticipantDirectory.Proofs.Service.Credentials
import ParticipantDirectory.Proofs.Service.ReadBack
import ParticipantDirectory.Proofs.Service.Spelling
import ParticipantDirectory.Proofs.Store.Replaced
import ParticipantDirectory.Schema.Model
import ParticipantDirectory.Schema.Script
import ParticipantDirectory.Text.Template
import ParticipantDirectory.Fault.Description
import ParticipantDirectory.Journal.Description
import ParticipantDirectory.Proofs.Card.Conversions
import ParticipantDirectory.Proofs.Framework.Endings
import ParticipantDirectory.Proofs.Server.Traced
import ParticipantDirectory.Proofs.Framework.Matching
import ParticipantDirectory.Proofs.Service.Secrecy
import ParticipantDirectory.Proofs.Server.Secrecy
import ParticipantDirectory.Proofs.Card.Grammar
import ParticipantDirectory.Proofs.Identifier.Syntax
import ParticipantDirectory.Proofs.Service.Noted
import ParticipantDirectory.Proofs.Password.Stored
import ParticipantDirectory.Proofs.Card.Parts
import ParticipantDirectory.Proofs.Card.Construction
import ParticipantDirectory.Proofs.Service.Reading
import ParticipantDirectory.Proofs.Identifier.Separable
import ParticipantDirectory.Proofs.Service.Addressed
import ParticipantDirectory.Proofs.Service.Mismatch
import ParticipantDirectory.Proofs.Tally.History
import ParticipantDirectory.Proofs.Journal.Setups
import ParticipantDirectory.Proofs.Service.Startups
import ParticipantDirectory.Proofs.Schema.Frames
import ParticipantDirectory.Proofs.Store.Distinct
import ParticipantDirectory.Proofs.Schema.Columns
import ParticipantDirectory.Proofs.Schema.Stored
import ParticipantDirectory.Proofs.Service.DataOperations
import ParticipantDirectory.Proofs.Schema.Interchange
import ParticipantDirectory.Proofs.Journal.Levels
import ParticipantDirectory.Proofs.Framework.Nesting
