import Scout.Main
import Scout.Service.Routes
import Scout.Proofs.Registry.Restart
import Scout.Proofs.Run.Alignment
import Scout.Proofs.Run.Deadline
import Scout.Proofs.Run.Interruptions
import Scout.Proofs.Run.PageLife
import Scout.Proofs.Registry.Faults
import Scout.Proofs.Registry.Containment
import Scout.Proofs.Library.Reading
import Scout.Proofs.Registry.Restored
import Scout.Proofs.Registry.Deletion
import Scout.Proofs.Run.Acceptance
import Scout.Proofs.Registry.Exchange
import Scout.Proofs.Registry.Chronology
import Scout.Proofs.Registry.Beginnings
import Scout.Proofs.Registry.Ids
import Scout.Proofs.Registry.Recording
import Scout.Proofs.Registry.Startup
import Scout.Proofs.Service.Routing
import Scout.Proofs.Service.Targets
import Scout.Proofs.Registry.Offers
import Scout.Proofs.Service.Agreement
import Scout.Proofs.Run.Browsers
import Scout.Proofs.Run.Trails
import Scout.Proofs.Run.Accounts
import Scout.Proofs.Run.Budgets
import Scout.Proofs.Run.Retries
import Scout.Proofs.Run.Bounds
import Scout.Proofs.Run.Filling
import Scout.Proofs.Run.Records
import Scout.Proofs.Run.Warnings
import Scout.Proofs.Lookup
import Scout.Proofs.Substitution
import Scout.Proofs.Findings
import Scout.Proofs.Run.Extraction
import Scout.Proofs.Library.Listing
import Scout.Proofs.CommandLine.Hindrances
import Scout.Proofs.Registry.Templating
import Scout.Proofs.Run.Written
import Scout.Proofs.Run.Measures
import Scout.Proofs.Run.Questions
import Scout.Proofs.Names
import Scout.Proofs.Settings.Precedence
