import PamOlive.Audit.Commitment
import PamOlive.Gateway.Registry
import PamOlive.Console.CredentialEdit
import PamOlive.Gateway.Replay
import PamOlive.Api.TotpApproval
import PamOlive.Operations.AtMostOnce
import PamOlive.Operations.Progress
import PamOlive.Database.AllOrNothing
import PamOlive.Console.Termination
import PamOlive.Gateway.Cancellation
import PamOlive.Database.Deadlock
import PamOlive.Mfa.RecoveryCodes
import PamOlive.Gateway.Crypto
import PamOlive.Audit.Redaction
import PamOlive.Audit.Endpoint
import PamOlive.Audit.Siem
import PamOlive.Gateway.HostKeyCheck
import PamOlive.Operations.RestoreChecks
import PamOlive.Vault.KeyringMigration
import PamOlive.Vault.Rotated
import PamOlive.Approvals.Disabling
import PamOlive.Accounts.SessionSecurity
import PamOlive.Keyring.Threads
import PamOlive.Connectors.RemovedUsers
import PamOlive.Sessions.PolicyOrder
import PamOlive.Audit.Forwarding
import PamOlive.Console.SelfEscalation
import PamOlive.Connectors.GroupMatching
import PamOlive.Operations.Execution
import PamOlive.Operations.Scheduling
import PamOlive.Operations.Risk
import PamOlive.Foundations.Ceiling
import PamOlive.Licensing.Limits
import PamOlive.Licensing.Services
import PamOlive.Api.CloseReport
import PamOlive.Gateway.Alerts
import PamOlive.Gateway.Malformed
import PamOlive.Gateway.Recorder
import PamOlive.Console.CommandRules
import PamOlive.Mfa.Tokens
import PamOlive.Policies.Overnight
import PamOlive.Targets.KeyFormat
import PamOlive.Api.Justified
import PamOlive.Keyring.Sequential
import PamOlive.Keyring.History
