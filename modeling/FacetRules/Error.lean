import FacetRules.Id
import FacetRules.Text.Quoted

/-!
# Errors

The causes for which an operation is abandoned, and their wording.  Rows that
cannot be used are not errors: they are counted with the reason for leaving them
out, and loading goes on.
-/

namespace FacetRules

inductive Error
  | emptyUuid
  | unknownAttribute (id : Id) (uuid : String)
  | unknownOption (id : Id) (uuid : String)
  | unknownCategoryRule (category : CategoryId)
  | severalCategories
  | invalidPair (text : String)
  | invalidFilter (text : String)
  | unreadable (path : String)
  | damagedTable (path : String)
  | malformedJson (source : String)
  | malformedSettings (path : String)
  /-- Neither the command line nor the settings name a data directory. -/
  | noDataDirectory
  deriving DecidableEq, Repr

namespace Error

def message : Error -> String
  | emptyUuid => "Got empty uuid"
  | unknownAttribute id uuid => s!"Could not find attribute {id} (uuid: {uuid})"
  | unknownOption id uuid => s!"Could not find option {id} (uuid: {uuid})"
  | unknownCategoryRule category => s!"Could not find rule for category {category}"
  | severalCategories => "Unimplemented: cannot handle multiple category IDs yet"
  | invalidPair text =>
      "Invalid condition: expected <attribute>-<option>, got " ++ Text.quoted text
  | invalidFilter text =>
      "Invalid condition: expected <attribute>:<prefix>, got " ++ Text.quoted text
  | unreadable path => "IO error: cannot read " ++ path
  | damagedTable path => "CSV error: damaged table file " ++ path
  | malformedJson source => "Serialization error: malformed JSON in " ++ source
  | malformedSettings path => "Config error: malformed settings in " ++ path
  | noDataDirectory => "Config error: no data directory given (use --data)"

end Error
end FacetRules
