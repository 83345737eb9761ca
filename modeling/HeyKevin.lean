import HeyKevin.Core.Machine
import HeyKevin.Core.Binary64
import HeyKevin.Core.Fallible
import HeyKevin.L1Encoding.Text
import HeyKevin.L1Encoding.Datetime
import HeyKevin.L1Encoding.Value
import HeyKevin.L1Encoding.Json
import HeyKevin.L1Encoding.Python
import HeyKevin.L1Encoding.Sha256
import HeyKevin.L1Encoding.Iso
import HeyKevin.L2Domain.Exactness
import HeyKevin.L2Domain.Idempotency
import HeyKevin.L2Domain.Codec
import HeyKevin.L3Repository.Isolation
import HeyKevin.L3Repository.RateLimits
import HeyKevin.L4Worker.PostCallHandoff
import HeyKevin.L4Worker.Cutover
import HeyKevin.L4Worker.Admission
import HeyKevin.L4Worker.Settlement
import HeyKevin.L4Worker.EstimateClaims
import HeyKevin.L5Voice.Polling
import HeyKevin.L5Voice.PlaybackProof
import HeyKevin.L5Voice.TimerConservation
import HeyKevin.L5Voice.TimerIdentity
import HeyKevin.L5Voice.QuestionSlots
import HeyKevin.L5Voice.TranscriptBounds
import HeyKevin.L5Voice.InputCursor
import HeyKevin.L5Voice.ActTermination
import HeyKevin.L5Voice.SpeechAtomicity
import HeyKevin.L5Voice.Streaming
import HeyKevin.L5Voice.IntakeSurvival
import HeyKevin.L6Billing.DeliveryOrder
import HeyKevin.L6Billing.TransactionRegistry
import HeyKevin.L6Billing.HeldUpdates
import HeyKevin.L7Tokens.Revocation
import HeyKevin.L7Tokens.Envelopes
import HeyKevin.L7Tokens.TokenCipher
import HeyKevin.L7Tokens.RecoveryFairness
import HeyKevin.L8Triage.Chronology
import HeyKevin.L8Triage.EvidenceGating
import HeyKevin.L9Texting.CanadaConsent
import HeyKevin.L9Texting.EnrollmentTruth
import HeyKevin.L10Bakeoff.OneUse
import HeyKevin.L10Bakeoff.ReservationLedger
import HeyKevin.L10Bakeoff.ControlRefinement
import HeyKevin.L10Bakeoff.ControlSafety
import HeyKevin.L10Bakeoff.PreAuthStore
import HeyKevin.L10Bakeoff.SecuritySaga
import HeyKevin.L10Bakeoff.SagaSafety
import HeyKevin.L11Memory.Agreement
import HeyKevin.L12Deletion.Purge
import HeyKevin.L12Deletion.Redelivery
import HeyKevin.L13OwnerCalls.OnePickup
import HeyKevin.L13OwnerCalls.OneInstruction
import HeyKevin.L14Calendar.OfferedSlots
import HeyKevin.L6Billing.NumberRelease
import HeyKevin.L5Voice.DialoguePlanner
import HeyKevin.L4Worker.MirroredStatus
import HeyKevin.L4Worker.HandoffScans
import HeyKevin.L6Billing.NotificationReplay
import HeyKevin.L15Contacts.AddressBook
import HeyKevin.L1Encoding.JsonReader
import HeyKevin.L14Calendar.ServiceLabels
import HeyKevin.L14Calendar.ServiceMetadata
import HeyKevin.L16Acquisition.AttributionAttempts
import HeyKevin.L4Worker.EstimateRecovery
import HeyKevin.L4Worker.ContinuationSurvival
import HeyKevin.L5Voice.WordExact
import HeyKevin.L14Calendar.RescheduleCertainty
import HeyKevin.L3Repository.RecoveryLeases
