import InputGuard.Schema.Definition

/-!
# Reports

An error is reported under a name, with a message and with members that say more about it.
-/

namespace InputGuard

/-- A member of a report: a value, or the details of refusals. -/
inductive Member
  | value (v : Value)
  | details (ds : List Detail)

structure Report where
  name : String
  message : String
  members : Option (List (String × Member))

namespace Report

def text (s : String) : Member := .value (.str s)

/-- The report of an error about which nothing is known but its name and its message. -/
def plain (name message : String) : Report :=
  ⟨name, message, some [("error", text name), ("message", text message)]⟩

end Report

/-- The messages of details, one after the other. -/
def detailsMessage (details : List Detail) : String :=
  joinText ". " (details.map (·.message))

/-- The report of a value that was refused. -/
def refusalReport (details : List Detail) : Report where
  name := "ValidationFailure"
  message := detailsMessage details
  members :=
    some [("error", Report.text "VALIDATION_FAILURE"), ("details", .details details)]

/-- The report of a definition that was refused with a message. -/
def definitionReport (message : String) : Report := ⟨"SchemaDefinitionError", message, none⟩

def DefinitionError.report (e : DefinitionError) : Report := definitionReport e.message

end InputGuard
