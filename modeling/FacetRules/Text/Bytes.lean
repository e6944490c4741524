/-!
# Texts in bytes

Files hold their texts in UTF-8.  Bytes that are no UTF-8 are no text.
-/

namespace FacetRules
namespace Text

def ofBytes? (bytes : List UInt8) : Option String :=
  String.fromUTF8? ⟨bytes.toArray⟩

end Text
end FacetRules
