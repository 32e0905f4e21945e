import Switchboard.Main
import Switchboard.Proofs.Conservation
import Switchboard.Proofs.Delivery
import Switchboard.Proofs.Replacement
import Switchboard.Proofs.Restart
import Switchboard.Scenario.Run
import Switchboard.Proofs.Moments
import Switchboard.Proofs.Vigilance
import Switchboard.Proofs.Endurance
import Switchboard.Proofs.Dealing
import Switchboard.Proofs.Ownership
import Switchboard.Proofs.Registrations
import Switchboard.Proofs.Calls
import Switchboard.Proofs.Agreement
import Switchboard.Proofs.Abandonment
import Switchboard.Proofs.Retirement
import Switchboard.Proofs.Departure
import Switchboard.Proofs.Release
import Switchboard.Proofs.Draining
import Switchboard.Proofs.Isolation
import Switchboard.Proofs.Accounting
import Switchboard.Proofs.Fairness
import Switchboard.Proofs.Failures
import Switchboard.Proofs.Indifference
import Switchboard.Proofs.Catalogue
import Switchboard.Proofs.Interleaving
import Switchboard.Proofs.Timestamps
import Switchboard.Proofs.Losses
import Switchboard.Proofs.Tracing
import Switchboard.Proofs.DisplayName
import Switchboard.Proofs.Numbering
