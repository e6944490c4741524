import FacetRules.Query.Visible
import FacetRules.Wire.Conditions

/-!
# Answers to queries in JSON

The form in which an answer is printed for other programs.
-/

namespace FacetRules
namespace Wire

open Json

def ofVisibleOption (o : VisibleOption) : Value :=
  .record [("id", .ofNat o.id.toNat), ("title", .ofString o.title)]

def ofVisibleAttribute (a : VisibleAttribute) : Value :=
  .record
    [("id", .ofNat a.id.toNat),
      ("title", .ofString a.title),
      ("options", .array (a.options.map ofVisibleOption))]

def ofVisible (v : Visible) : Value :=
  .record
    [("pages", .ofNat v.pages),
      ("page_size", .ofNat v.pageSize.toNat),
      ("attributes", .array (v.attributes.map ofVisibleAttribute)),
      ("corrected", ofConditions v.corrected)]

end Wire
end FacetRules
