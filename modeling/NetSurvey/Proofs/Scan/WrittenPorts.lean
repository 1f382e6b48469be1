import NetSurvey.Proofs.Number.ReadBack
import NetSurvey.Proofs.Scan.PortCap
import NetSurvey.Proofs.Text.Trim

/-!
# Ports in a text and ports in a list

Ports can be asked for one by one in two ways, as a list of integers and as a text with commas
between them. The two are read by different loops: the one checks its limit before it takes a port,
the other before it expands a token, and a negative number is out of range for the one and a range
without a beginning for the other. `PortSpec.capped` is what both come to.
-/

namespace NetSurvey

open Text

/-! ### Reading one port -/

instance : DecidablePred IsPort := fun n => inferInstanceAs (Decidable (1 ≤ n ∧ n ≤ maxPort))

namespace PortSpec

end PortSpec

namespace Scan

open Activity

end Scan

end NetSurvey
