import SqlBinding.Proofs.Leaves
import SqlBinding.Proofs.RewritingSteps

namespace SqlBinding

namespace Text

end Text

namespace Ident

/-- The canonical name of an identifier in quotes. -/
def quoted (ident : Ident) : Ident := ⟨ident.canonical, some .double⟩

end Ident

section
variable {spelling : Ident → Ident} (keeps : ∀ ident, (spelling ident).canonical = ident.canonical)
include keeps

end

end SqlBinding
