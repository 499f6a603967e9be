import DynamicDns.Diagnostic
import DynamicDns.FileTree
import DynamicDns.Schema

/-! # Failed loads

Why a configuration as a whole cannot be used.
-/

namespace DynamicDns

/-- Why there is no configuration to run with. -/
inductive LoadError where
  | unreadable (path : String) (cause : ReadError)
  | malformed (origin : String) (cause : DocumentError)
  /-- Sections were refused, each for a reason of its own. -/
  | rejected (diagnostics : List Diagnostic)
  | http (reason : String)
  deriving Repr, DecidableEq

namespace LoadError

def message : LoadError → String
  | .unreadable path cause => s!"Cannot read configuration file {path}: {cause.message}"
  | .malformed origin cause => s!"Error parsing configuration file {origin}: {cause.message}"
  | .rejected diagnostics =>
    s!"{diagnostics.length} provider section(s) rejected: " ++
      "; ".intercalate (diagnostics.map Diagnostic.display)
  | .http reason => s!"HTTP error: {reason}"

/-- The refused sections, none for any other failure. -/
def diagnostics : LoadError → List Diagnostic
  | .rejected diagnostics => diagnostics
  | _ => []

end LoadError

end DynamicDns
