/-
  HomeAutomation.Storage.Rules

  Rules on file. A rule is filed under its id; filing it again keeps its place. A rule that was
  deleted stays on file, marked as inactive.
-/
import HomeAutomation.Table

namespace HomeAutomation

/-- A rule on file. -/
structure StoredRule where
  text : String
  active : Bool
  /-- Whether the rule was filed more than once. -/
  touched : Bool := false
  deriving DecidableEq, Repr, Inhabited

/-- What is to be filed about a rule. -/
structure RuleWrite where
  id : String
  text : String
  active : Bool
  deriving DecidableEq, Repr, Inhabited

/-- The rules on file by id, oldest first. -/
abbrev RuleRows := Table StoredRule

namespace RuleRows

/-- Files a rule. -/
def upsert (rows : RuleRows) (write : RuleWrite) : RuleRows :=
  Table.set rows write.id ⟨write.text, write.active, Table.has rows write.id⟩

/-- The active rules with their ids. -/
def active (rows : RuleRows) : RuleRows := rows.filter fun row => row.2.active

/-- The ids and texts of the active rules. -/
def activeTexts (rows : RuleRows) : List (String × String) :=
  (active rows).map fun row => (row.1, row.2.text)

end RuleRows

end HomeAutomation
