import Aead.Config.Reader
import Aead.Family
import Aead.Host.Registration
import Aead.Proofs.Disclosure
import Aead.Proofs.HostCalls
import Aead.Proofs.Lookup
import Aead.Proofs.Precomputation
import Aead.Proofs.RoundTrip
import Aead.Proofs.Validation
import Aead.Proofs.HostRoundTrip
import Aead.Proofs.RegistrationRuns
import Aead.Proofs.ContextProtocol
import Aead.Proofs.OfferedNames
import Aead.Proofs.AlikeCalls
import Aead.Proofs.Keystream
import Aead.Proofs.UniqueTag
import Aead.Proofs.Forwarding
import Aead.Proofs.SoftwareGate
import Aead.Proofs.DetachedCalls
import Aead.Proofs.CombinedCalls
import Aead.Proofs.Refusals
import Aead.Proofs.SpelledNames
import Aead.Proofs.EntryPoints
import Aead.Proofs.Redaction
import Aead.Proofs.GivenSettings
import Aead.Proofs.TagInput
