import FacetRules.Id
import FacetRules.Table
import FacetRules.Text.Blank
import FacetRules.Text.Decimal

/-!
# Rows

A record of a table is a list of fields, told apart by their positions.  It is
read into a typed row, or into the reason for leaving it out.  Keys stay texts
here: they are numbered when a row is added to a catalog under construction.

A flag column is true when it is exactly the letter t.  A reference column that
is empty or 0 is not set.  Order columns may be empty, which stands for 0.  The
checks are made column by column in the order of the columns, and the first that
fails names the reason.
-/

namespace FacetRules

structure AttributeRow where
  uuid : String
  kind : String
  isMultipleAllowed : Bool
  isRequired : Bool
  isDisabled : Bool
  title : String
  displayOrder : Int64
  isSearchable : Bool
  listingType : String
  displayPage : Int64
  deriving DecidableEq, Repr

structure OptionRow where
  uuid : String
  attributeUuid : String
  title : String
  isDisabled : Bool
  displayOrder : Int64
  color : String
  subtitle : String
  deriving DecidableEq, Repr

/-- A row of the assignment table: the category has the attribute. -/
structure AssignmentRow where
  uuid : String
  categoryId : CategoryId
  attributeUuid : String
  isDisabled : Bool
  deriving DecidableEq, Repr

/-- A row of the dynamic option table: the category shows the option if the
precondition is met. -/
structure DynamicOptionRow where
  uuid : String
  categoryId : CategoryId
  optionUuid : String
  precondition : String
  isDisabled : Bool
  deriving DecidableEq, Repr

inductive Row
  | ofAttribute (row : AttributeRow)
  | ofOption (row : OptionRow)
  | ofAssignment (row : AssignmentRow)
  | ofDynamicOption (row : DynamicOptionRow)
  deriving DecidableEq, Repr

namespace Row

/-! ## Columns -/

def flag (field : String) : Bool :=
  field == "t"

def required (reason : SkipReason) (field : String) : Except SkipReason String :=
  if field = "" ∨ field = "0" then .error reason else .ok field

def orderOrZero (field : String) : Except SkipReason Int64 :=
  match Text.trim field.toList with
  | [] => .ok 0
  | cs =>
      match Text.readInt64? cs with
      | some n => .ok n
      | none => .error .invalidNumber

def category (field : String) : Except SkipReason CategoryId := do
  let field <- required .missingCategory field
  match Text.readUInt32? (Text.trim field.toList) with
  | some n => .ok n
  | none => .error .invalidNumber

/-! ## Records -/

/-- A record of the attribute table.  The eighth and ninth columns are dates,
which are not used. -/
def readAttribute : List String -> Except SkipReason AttributeRow
  | uuid :: kind :: multiple :: mandatory :: disabled :: title :: order :: _ :: _ ::
      searchable :: listing :: page :: _ => do
      let uuid <- required .missingAttribute uuid
      let displayOrder <- orderOrZero order
      let displayPage <- orderOrZero page
      return {
        uuid, kind, title, displayOrder, displayPage
        isMultipleAllowed := flag multiple
        isRequired := flag mandatory
        isDisabled := flag disabled
        isSearchable := flag searchable
        listingType := listing }
  | _ => .error .tooFewFields

/-- A record of the option table.  The sixth and seventh columns are dates, which
are not used. -/
def readOption : List String -> Except SkipReason OptionRow
  | uuid :: owner :: title :: disabled :: order :: _ :: _ :: color :: subtitle :: _ => do
      let uuid <- required .missingOption uuid
      let attributeUuid <- required .missingAttribute owner
      let displayOrder <- orderOrZero order
      return {
        uuid, attributeUuid, title, displayOrder, color, subtitle
        isDisabled := flag disabled }
  | _ => .error .tooFewFields

def readAssignment : List String -> Except SkipReason AssignmentRow
  | uuid :: cat :: owner :: disabled :: _ => do
      let categoryId <- category cat
      let attributeUuid <- required .missingAttribute owner
      return { uuid, categoryId, attributeUuid, isDisabled := flag disabled }
  | _ => .error .tooFewFields

def readDynamicOption : List String -> Except SkipReason DynamicOptionRow
  | uuid :: cat :: option :: precondition :: disabled :: _ => do
      let categoryId <- category cat
      let optionUuid <- required .missingOption option
      return { uuid, categoryId, optionUuid, precondition, isDisabled := flag disabled }
  | _ => .error .tooFewFields

def read (table : Table) (fields : List String) : Except SkipReason Row :=
  match table with
  | .attributes => (readAttribute fields).map .ofAttribute
  | .options => (readOption fields).map .ofOption
  | .assignments => (readAssignment fields).map .ofAssignment
  | .dynamicOptions => (readDynamicOption fields).map .ofDynamicOption

end Row
end FacetRules
