import CkbAccount.RecoverySinceProofs
import CkbAccount.HostDigestProofs
import CkbAccount.HostStateProofs
import CkbAccount.HostCodecProofs
import CkbAccount.HostConfigProofs
import CkbAccount.LedgerProofs
import CkbAccount.EndToEndProofs
import CkbAccount.BrowserCodecProofs
import CkbAccount.MergeProofs
import CkbAccount.TransportProofs
import CkbAccount.DemoServiceProofs
import CkbAccount.BootstrapProofs
import CkbAccount.NoPanicProofs
import CkbAccount.ChallengeProofs
import CkbAccount.NestingProofs
import CkbAccount.DeploymentProofs
import CkbAccount.ArchiveProofs
import CkbAccount.SpendRunProofs
import CkbAccount.SpendVerdictProofs
import CkbAccount.SpendExactProofs
import CkbAccount.StateExporterProofs
import CkbAccount.WizardRunProofs
import CkbAccount.DemoClientProofs
