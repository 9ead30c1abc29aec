import FieldRules.Proofs.Compiler.Alike
import FieldRules.Proofs.Record
import FieldRules.Rule.Standard

namespace FieldRules

namespace Likeness

end Likeness

namespace Compiler

end Compiler

end FieldRules
