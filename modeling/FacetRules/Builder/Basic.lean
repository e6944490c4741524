import FacetRules.Catalog
import FacetRules.OptionTable
import FacetRules.Report

/-!
# Catalogs under construction

A builder takes the rows of the tables in any order.  Attributes and options are
stored at once, the later of two rows with one key replacing the earlier one.
Assignments and dynamic options are put aside, because they can only be judged
when all tables are loaded.

A row whose keys are numbered one after the other may fail at the second key.
The number of the first key is then kept, so a failing call gives back the
builder as it left it.
-/

namespace FacetRules

structure Assignment where
  categoryId : CategoryId
  attributeId : Id
  isDisabled : Bool
  deriving DecidableEq, Repr

/-- A dynamic option that waits for the end of loading.  Its precondition is to be
looked up with the suffix that was in force when the row was read. -/
structure DynamicOption where
  categoryId : CategoryId
  optionId : Id
  precondition : String
  isDisabled : Bool
  suffix : Option String
  deriving DecidableEq, Repr

structure Builder where
  registry : Registry := ∅
  attributes : IdMap Attribute := ∅
  options : OptionTable := ∅
  categories : CategoryTree := ∅
  assignments : Array Assignment := #[]
  dynamicOptions : Array DynamicOption := #[]
  report : Report := {}

/-- What a call answers, and the builder after it. -/
abbrev Builder.Outcome := Except Error Unit × Builder

namespace Builder

instance : EmptyCollection Builder where
  emptyCollection := {}

instance : Inhabited Builder where
  default := ∅

def withCategories (b : Builder) (tree : CategoryTree) : Builder :=
  { b with categories := tree }

def setSuffix (b : Builder) (suffix : Option String) : Builder :=
  { b with registry := b.registry.setSuffix suffix }

def numbering (b : Builder) (uuid : String) (next : Id -> Builder -> Outcome) : Outcome :=
  let (number, registry) := b.registry.resolve uuid
  let b := { b with registry }
  match number with
  | .error e => (.error e, b)
  | .ok id => next id b

def addAttribute (b : Builder) (row : AttributeRow) : Outcome :=
  b.numbering row.uuid fun id b =>
    (.ok (), { b with attributes := b.attributes.insert id (Attribute.ofRow id row) })

def addOption (b : Builder) (row : OptionRow) : Outcome :=
  b.numbering row.uuid fun id b =>
    b.numbering row.attributeUuid fun attributeId b =>
      (.ok (), { b with options := b.options.insert (AttributeOption.ofRow id attributeId row) })

def addAssignment (b : Builder) (row : AssignmentRow) : Outcome :=
  b.numbering row.attributeUuid fun attributeId b =>
    let staged :=
      { categoryId := row.categoryId, attributeId, isDisabled := row.isDisabled }
    (.ok (), { b with assignments := b.assignments.push staged })

def addDynamicOption (b : Builder) (row : DynamicOptionRow) : Outcome :=
  b.numbering row.optionUuid fun optionId b =>
    let staged :=
      { categoryId := row.categoryId
        optionId
        precondition := row.precondition
        isDisabled := row.isDisabled
        suffix := b.registry.suffix }
    (.ok (), { b with dynamicOptions := b.dynamicOptions.push staged })

def addRow (b : Builder) : Row -> Outcome
  | .ofAttribute row => b.addAttribute row
  | .ofOption row => b.addOption row
  | .ofAssignment row => b.addAssignment row
  | .ofDynamicOption row => b.addDynamicOption row

/-- Reads a record of a table and adds its row.  A record that cannot be used is
counted and left out. -/
def addFields (b : Builder) (table : Table) (fields : List String) : Outcome :=
  let b := { b with report := b.report.read table }
  match Row.read table fields with
  | .ok row => b.addRow row
  | .error reason => (.ok (), { b with report := b.report.skip reason })

/-! ## Histories -/

inductive Call
  | fields (table : Table) (fields : List String)
  | row (row : Row)
  | suffix (suffix : Option String)

def perform (b : Builder) : Call -> Outcome
  | .fields table fields => b.addFields table fields
  | .row row => b.addRow row
  | .suffix suffix => (.ok (), b.setSuffix suffix)

/-- Makes calls one after the other, whatever they answer. -/
def performAll (b : Builder) (calls : List Call) : Builder :=
  calls.foldl (fun b call => (b.perform call).2) b

@[simp]
theorem performAll_nil (b : Builder) : b.performAll [] = b :=
  rfl

@[simp]
theorem performAll_cons (b : Builder) (call : Call) (calls : List Call) :
    b.performAll (call :: calls) = (b.perform call).2.performAll calls :=
  rfl

theorem performAll_append (b : Builder) (front back : List Call) :
    b.performAll (front ++ back) = (b.performAll front).performAll back := by
  simp [performAll]

end Builder
end FacetRules
