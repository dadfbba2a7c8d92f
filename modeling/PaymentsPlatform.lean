import PaymentsPlatform.Payments.StateAgreement
import PaymentsPlatform.Orchestration.PlainErrors
import PaymentsPlatform.Orchestration.AuditedWork
import PaymentsPlatform.Orchestration.ConcurrentFollowUps
import PaymentsPlatform.Orchestration.ConcurrentRefunds
import PaymentsPlatform.Orchestration.Velocity
import PaymentsPlatform.Idempotency.Ownership
import PaymentsPlatform.Webhook.Postings
import PaymentsPlatform.Orchestration.FundsHolder
import PaymentsPlatform.Orchestration.ConformingAnswers
import PaymentsPlatform.Orchestration.Candidates
import PaymentsPlatform.Webhook.ClaimQueue
import PaymentsPlatform.Webhook.Ingestion
import PaymentsPlatform.Webhook.PayPalEvents
import PaymentsPlatform.Workflows.Completion
import PaymentsPlatform.Workflows.Compensation
import PaymentsPlatform.Workflows.Signals
import PaymentsPlatform.Workflows.Tables
import PaymentsPlatform.Outbox.Relay
import PaymentsPlatform.Storage.StateGuards
import PaymentsPlatform.Secret.Pan
