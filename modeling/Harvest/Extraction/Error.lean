import Harvest.Record.Field

/-!
# Errors of an Extraction

An extraction stops at an unknown filter, at a value that its field does not take, and at a
required rule that matches nothing.
-/

namespace Harvest.Extraction

/-- What stops an extraction. -/
inductive FindError where
  /-- A filter is neither registered nor built in. -/
  | unknownFilter (name : String)
  /-- A field does not take a value. -/
  | assign (field : String) (cause : Record.FieldError)
  /-- A required rule at the top matches nothing. -/
  | noMatch (selectorText : String)
  deriving DecidableEq, Repr

/-- The text of an error. -/
def FindError.message : FindError → String
  | .unknownFilter name => s!"{Text.quoted name} is not a defined filter"
  | .assign field cause => s!"cannot assign to {field}: {cause.message}"
  | .noMatch selectorText => s!"no match for required pattern `{selectorText}`"

end Harvest.Extraction
