import PaymentSystem.Proof.Drivers
import PaymentSystem.Proof.Locks
import PaymentSystem.Properties.Announcements
import PaymentSystem.Properties.Answers
import PaymentSystem.Properties.AssembledSystem
import PaymentSystem.Properties.Attempts
import PaymentSystem.Properties.AuditTrail
import PaymentSystem.Properties.Backoff
import PaymentSystem.Properties.BodyAuthentication
import PaymentSystem.Properties.BodyHash
import PaymentSystem.Properties.CachedAnswers
import PaymentSystem.Properties.Cancellations
import PaymentSystem.Properties.ChargesAfterSuccess
import PaymentSystem.Properties.ClosedWindow
import PaymentSystem.Properties.ClosingProbes
import PaymentSystem.Properties.DurableAnswers
import PaymentSystem.Properties.FailedPayments
import PaymentSystem.Properties.FinishedPayments
import PaymentSystem.Properties.GatewayCalls
import PaymentSystem.Properties.IdempotentRequests
import PaymentSystem.Properties.Isolation
import PaymentSystem.Properties.Jobs
import PaymentSystem.Properties.KeyOrder
import PaymentSystem.Properties.LateResults
import PaymentSystem.Properties.LimitedProbing
import PaymentSystem.Properties.LockExclusion
import PaymentSystem.Properties.LockTokens
import PaymentSystem.Properties.OpenCircuit
import PaymentSystem.Properties.OrderedPayments
import PaymentSystem.Properties.Outcomes
import PaymentSystem.Properties.PagingInput
import PaymentSystem.Properties.PaymentPages
import PaymentSystem.Properties.QueuedPayments
import PaymentSystem.Properties.RateLimit
import PaymentSystem.Properties.RateRejections
import PaymentSystem.Properties.ReferenceBreaker
import PaymentSystem.Properties.RetryBudget
import PaymentSystem.Properties.SignatureCheck
import PaymentSystem.Properties.StateMachine
import PaymentSystem.Properties.StoredErrors
import PaymentSystem.Properties.StrandedPayments
import PaymentSystem.Properties.Validation
import PaymentSystem.Properties.WebhookAttempts
import PaymentSystem.Properties.WebhookBodies
import PaymentSystem.Properties.WebhookEvents
import PaymentSystem.Properties.WebhookFailures
import PaymentSystem.Properties.WebhookReceipts
import PaymentSystem.Properties.WebhookSources
