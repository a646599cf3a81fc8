import SignedUpgrade.Audit.Trail
import SignedUpgrade.Main
import SignedUpgrade.Proofs.Audit.Lines
import SignedUpgrade.Proofs.Audit.Unnoticed
import SignedUpgrade.Proofs.CommandLine.Audited
import SignedUpgrade.Proofs.CommandLine.Exclusion
import SignedUpgrade.Proofs.Failure.Telling
import SignedUpgrade.Proofs.Process.Pieces
import SignedUpgrade.Proofs.Release.FirstTriple
import SignedUpgrade.Proofs.Release.InstallerNames
import SignedUpgrade.Proofs.Release.Installers
import SignedUpgrade.Proofs.Release.WrittenTriple
import SignedUpgrade.Proofs.Schedule.Guards
import SignedUpgrade.Proofs.Schedule.Registration
import SignedUpgrade.Proofs.Script.Injection
import SignedUpgrade.Proofs.Settings.Fallback
import SignedUpgrade.Proofs.Settings.Precedence
import SignedUpgrade.Proofs.Settings.RegistryAnswers
import SignedUpgrade.Proofs.Signature.Acceptance
import SignedUpgrade.Proofs.Signature.KeyText
import SignedUpgrade.Proofs.Upgrade.Aborts
import SignedUpgrade.Proofs.Upgrade.Ascent
import SignedUpgrade.Proofs.Upgrade.Cleanup
import SignedUpgrade.Proofs.Upgrade.Delivery
import SignedUpgrade.Proofs.Upgrade.Feed
import SignedUpgrade.Proofs.Upgrade.Prediction
import SignedUpgrade.Proofs.Upgrade.Session
import SignedUpgrade.Proofs.Upgrade.Untouched
import SignedUpgrade.Schedule.Task
