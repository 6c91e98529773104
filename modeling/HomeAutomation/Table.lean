/-
  HomeAutomation.Table

  Tables from names to values that keep the order in which the names were first entered. Setting
  a name that is there keeps its place; a name that is erased and set again comes last.
-/
namespace HomeAutomation

/-- A table: its entries in order, meant to have no name twice. -/
abbrev Table (β : Type) := List (String × β)

namespace Table

variable {β : Type}

/-- The value of a name. -/
def get? : Table β → String → Option β
  | [], _ => none
  | (key, value) :: rest, name => if key = name then some value else get? rest name

/-- Whether a name is entered. -/
def has (table : Table β) (name : String) : Bool := (table.get? name).isSome

/-- Sets the value of a name. -/
def set : Table β → String → β → Table β
  | [], name, value => [(name, value)]
  | (key, held) :: rest, name, value =>
    if key = name then (key, value) :: rest else (key, held) :: set rest name value

/-- Removes a name. -/
def erase (table : Table β) (name : String) : Table β :=
  table.filter fun entry => decide (entry.1 ≠ name)

/-- Sets the value of a name, or removes the name if there is none. -/
def put (table : Table β) (name : String) : Option β → Table β
  | some value => table.set name value
  | none => table.erase name

/-- The names in order. -/
def names (table : Table β) : List String := table.map (·.1)

/-- The values in order. -/
def values (table : Table β) : List β := table.map (·.2)

/-! ## Laws -/

@[simp] theorem get?_nil (name : String) : get? ([] : Table β) name = none := rfl

theorem get?_set_self (table : Table β) (name : String) (value : β) :
    (table.set name value).get? name = some value := by
  induction table with
  | nil => simp [set, get?]
  | cons entry rest ih =>
    obtain ⟨key, held⟩ := entry
    by_cases h : key = name
    · simp [set, get?, h]
    · simp [set, get?, h, ih]

theorem get?_set_ne (table : Table β) {name other : String} (value : β) (h : other ≠ name) :
    (table.set name value).get? other = table.get? other := by
  induction table with
  | nil => simp [set, get?, Ne.symm h]
  | cons entry rest ih =>
    obtain ⟨key, held⟩ := entry
    by_cases hk : key = name
    · subst hk
      simp [set, get?, Ne.symm h]
    · by_cases ho : key = other
      · subst ho
        simp [set, get?, hk]
      · simp [set, get?, hk, ho, ih]

/-- Setting a name keeps the order of the names; a new name comes last. -/
theorem names_set (table : Table β) (name : String) (value : β) :
    (table.set name value).names
      = if table.has name then table.names else table.names ++ [name] := by
  induction table with
  | nil => simp [set, names, has]
  | cons entry rest ih =>
    obtain ⟨key, held⟩ := entry
    by_cases h : key = name
    · simp [set, names, has, get?, h]
    · simp only [names, has] at ih
      by_cases hn : (get? rest name).isSome = true <;> simp [set, names, has, get?, h, hn, ih]

end Table

end HomeAutomation
