import UrlTemplate.Filter.Stock
import UrlTemplate.Host.Command
import UrlTemplate.Expansion.Schedule
import UrlTemplate.Proofs.Expansion.Interleaving
import UrlTemplate.Proofs.Expansion.Concurrency
import UrlTemplate.Proofs.Expansion.Run
import UrlTemplate.Proofs.Filter.Chain
import UrlTemplate.Proofs.Scope
import UrlTemplate.Proofs.Expansion.Containment
import UrlTemplate.Proofs.Expansion.Secrecy
import UrlTemplate.Proofs.Expansion.Budget
import UrlTemplate.Proofs.Expansion.Tree
import UrlTemplate.Proofs.Template.Segmentation
import UrlTemplate.Proofs.Expansion.Composition
import UrlTemplate.Proofs.Encoding
import UrlTemplate.Proofs.Template.RoundTrip
import UrlTemplate.Proofs.Filter.Fate
import UrlTemplate.Proofs.Expansion.Accounting
import UrlTemplate.Proofs.Expansion.Dependence
import UrlTemplate.Proofs.Host
import UrlTemplate.Proofs.Settings.Precedence
import UrlTemplate.Proofs.Filter.Pending
import UrlTemplate.Proofs.Encoding.Clean
import UrlTemplate.Proofs.Template.Places
import UrlTemplate.Proofs.Template.Replacement
import UrlTemplate.Proofs.Expansion.Circle
import UrlTemplate.Proofs.Expansion.Encoded
import UrlTemplate.Proofs.Host.Configuration
import UrlTemplate.Proofs.Filter.Slice
import UrlTemplate.Proofs.Expansion.Nameless
import UrlTemplate.Proofs.Filter.Base64
import UrlTemplate.Proofs.Encoding.Reference
import UrlTemplate.Proofs.Host.Search
