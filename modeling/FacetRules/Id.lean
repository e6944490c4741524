import Std.Data.ExtTreeMap
import Std.Data.ExtTreeSet

/-!
# Identifiers

Attributes, options and categories are named by 32-bit numbers.  Attributes and
options share one number space, so a number alone does not tell which of the two
it names.

Maps and sets over these numbers are extensional search trees: two maps with the
same look-ups are equal, and they are listed in ascending order.
-/

namespace FacetRules

abbrev Id := UInt32

abbrev CategoryId := UInt32

abbrev IdMap (α : Type) := Std.ExtTreeMap UInt32 α

abbrev IdSet := Std.ExtTreeSet UInt32

end FacetRules
