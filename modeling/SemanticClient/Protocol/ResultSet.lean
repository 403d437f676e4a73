import SemanticClient.Json.Printer

/-!
# Result sets

A result set is an array whose first entry lists the columns and whose further entries are rows. It is
read as one object a row, each cell under the name of its column.
-/

namespace SemanticClient

/-- A row: its cells by column. -/
abbrev Row := Keyed Json

namespace ResultSet

/-- The name of a column; a name that is not a string is its JSON text. -/
def columnName (v : Json) : String := v.plainText

/-- A row from the columns and the cells, up to the end of the shorter list. -/
def row (columns cells : List Json) : Row := Keyed.ofList ((columns.map columnName).zip cells)

/-- The rows of a result set. Entries that are no arrays are no rows, and a value that does not start
with a list of columns has none. -/
def rows : Json → List Row
  | .array (.array columns :: entries) =>
    entries.filterMap fun
      | .array cells => some (row columns cells)
      | _ => none
  | _ => []

end ResultSet
end SemanticClient
