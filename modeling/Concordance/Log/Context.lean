import Concordance.Value.Basic

/-! The fields that are stamped on log records. Bindings are nested: each adds to the fields of the
one around it, and taking it back restores those. -/
namespace Concordance

structure LogContext where
  bindings : List Fields := []
deriving Inhabited

namespace LogContext

def fields (c : LogContext) : Fields := c.bindings.head?.getD []

def bind (c : LogContext) (more : Fields) : LogContext :=
  ⟨c.fields.putAll more :: c.bindings⟩

def reset (c : LogContext) : LogContext := ⟨c.bindings.tail⟩

theorem reset_bind (c : LogContext) (more : Fields) : (c.bind more).reset = c := rfl

end LogContext
end Concordance
