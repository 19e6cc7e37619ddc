/-!
# Values of a document

Names stand for text, truth values, arrays and tables. Numbers and dates are checked when they are
read, and nothing else is kept of them.
-/

namespace Aead.Toml

/-- A value of a document. -/
inductive Value where
  | text (s : String)
  | bool (b : Bool)
  /-- A number, a date or a time. -/
  | scalar
  | array (items : List Value)
  /-- A table. One that dotted names have made takes further names. -/
  | table (isDotted : Bool) (entries : List (String × Value))

/-- Names and values in the order in which they were given. -/
abbrev Table := List (String × Value)

namespace Table

/-- The table with the first entry of a name changed, or a new entry at its end. -/
def alter? (name : String) (change : Option Value → Option Value) : Table → Option Table
  | [] => (change none).map fun value => [(name, value)]
  | (n, v) :: rest =>
    if n = name then (change (some v)).map fun value => (n, value) :: rest
    else (alter? name change rest).map fun rest => (n, v) :: rest

/-- The table with a value set under a dotted name. A name on the way has to stand for a table that
dotted names have made; the last name is added, whether or not it is there already. -/
def add? (table : Table) (path : List String) (value : Value) : Option Table :=
  match path with
  | [] => none
  | [name] => some (table ++ [(name, value)])
  | name :: path =>
    table.alter? name fun
      | none => (add? [] path value).map (.table true)
      | some (.table true entries) => (add? entries path value).map (.table true)
      | some _ => none

end Table

end Aead.Toml
