import VrfClient.CommandLine.Execute
import VrfClient.Ledger.Simulated
import VrfClient.Node.Simulated
import VrfClient.Files.Simulated
import VrfClient.Main
import VrfClient.Proofs.Transcript
import VrfClient.Proofs.Base58
import VrfClient.Proofs.Document
import VrfClient.Proofs.Companion
import VrfClient.Proofs.Lookup
import VrfClient.Proofs.Scan
import VrfClient.Proofs.Verification
import VrfClient.Proofs.Requesting
import VrfClient.Proofs.Session
import VrfClient.Proofs.Compilation
import VrfClient.Proofs.Legacy
import VrfClient.Proofs.SignedRequest
import VrfClient.Proofs.Separation
import VrfClient.Proofs.NetworkConfig
import VrfClient.Proofs.Outcomes
import VrfClient.Proofs.SeedForms
import VrfClient.Proofs.Failing
import VrfClient.Proofs.Paging
import VrfClient.Proofs.FirstEntry
import VrfClient.Proofs.Newest
import VrfClient.Proofs.Extraction
import VrfClient.Proofs.Acceptance
import VrfClient.Proofs.Announcement
import VrfClient.Proofs.BumpSearch
import VrfClient.Proofs.Treasury
import VrfClient.Proofs.Schedule
import VrfClient.Proofs.Truncation
import VrfClient.Proofs.Bystanders
import VrfClient.Proofs.KeyFile
import VrfClient.Proofs.Spelling
import VrfClient.Proofs.Telling
import VrfClient.Proofs.Agreement
import VrfClient.Proofs.Variables
import VrfClient.Proofs.Reading
import VrfClient.Proofs.OverNode
