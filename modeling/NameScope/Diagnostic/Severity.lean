/-!
# Severities of diagnostics
-/
namespace NameScope

inductive Severity where
  | error | warning | info | hint
  deriving DecidableEq, Repr, Inhabited

namespace Severity

def text : Severity → String
  | .error => "error"
  | .warning => "warning"
  | .info => "info"
  | .hint => "hint"

/-- The number of the severity in the Language Server Protocol. -/
def lspNumber : Severity → Nat
  | .error => 1
  | .warning => 2
  | .info => 3
  | .hint => 4

end Severity

end NameScope
