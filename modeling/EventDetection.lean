import EventDetection.Browse.MemorySource
import EventDetection.Browse.Sample
import EventDetection.Main
import EventDetection.Onboarding.Recorder
import EventDetection.Proofs.Browse.Title
import EventDetection.Proofs.Browse.View
import EventDetection.Proofs.Cli.Bearer
import EventDetection.Proofs.Cli.Onboard
import EventDetection.Proofs.Cli.Submit
import EventDetection.Proofs.Cli.Verdict
import EventDetection.Proofs.Config.EnvFile
import EventDetection.Proofs.Config.Secrets
import EventDetection.Proofs.Form.Constraints
import EventDetection.Proofs.Form.Credentials
import EventDetection.Proofs.Form.Independence
import EventDetection.Proofs.Form.Others
import EventDetection.Proofs.Form.Recorded
import EventDetection.Proofs.Form.Reopening
import EventDetection.Proofs.Form.Score
import EventDetection.Proofs.Form.Settled
import EventDetection.Proofs.Form.Template
import EventDetection.Proofs.Form.Validation
import EventDetection.Proofs.Json.Returned
import EventDetection.Proofs.Onboarding.Calls
import EventDetection.Proofs.Onboarding.Confirmation
import EventDetection.Proofs.Onboarding.Parity
import EventDetection.Proofs.Platform.Answer
import EventDetection.Proofs.Platform.Call
import EventDetection.Proofs.Platform.Project
import EventDetection.Proofs.Platform.Save
import EventDetection.Proofs.Platform.Target
import EventDetection.Proofs.Session.Atomicity
import EventDetection.Proofs.Session.Credentials
import EventDetection.Proofs.Session.Optimism
import EventDetection.Proofs.Session.Provenance
import EventDetection.Proofs.Session.Quota
import EventDetection.Proofs.Session.Rename
import EventDetection.Proofs.Session.Retry
import EventDetection.Proofs.Session.Rollback
import EventDetection.Proofs.Settings
import EventDetection.Proofs.Url.Authority
import EventDetection.Proofs.Url.Step
import EventDetection.Proofs.Wire.Closed
import EventDetection.Proofs.Wire.Cluster
import EventDetection.Proofs.Wire.Document
import EventDetection.Session.Sample
import EventDetection.Session.Step
