/-!
# Headers of sections

A header names the table that a section fills, or opens the next element of an array of tables.
Sections may come in any order, with two exceptions: a table is filled once, and a name stands for
an array of tables only if the first header that begins with it opens the array.
-/

namespace Aead.Toml

/-- The header of a section. -/
structure Header where
  path : List String
  isArray : Bool
  deriving DecidableEq

namespace Header

/-- The headers that begin with a name, without it. -/
def below (name : String) (headers : List Header) : List Header :=
  headers.filterMap fun h =>
    match h.path with
    | n :: path => if n = name then some { h with path } else none
    | [] => none

/-- The first names, each once. -/
def firstNames (headers : List Header) : List String :=
  (headers.filterMap (·.path.head?)).eraseDups

/-- The headers of each element: one ends where the next is opened. -/
def elements : List Header → List (List Header)
  | [] => [[]]
  | h :: rest =>
    let later := elements rest
    if h.path = [] && h.isArray then [] :: later
    else (h :: later.headD []) :: later.drop 1

/-- The headers in each of the tables that a name stands for: its own, or those of the elements if
the first header opens an array. -/
def tables (name : String) (headers : List Header) : List (List Header) :=
  match below name headers with
  | ⟨[], true⟩ :: rest => (elements rest).map (⟨[], false⟩ :: ·)
  | headers => [headers]

/-- The headers below a table agree with each other; `depth` bounds the length of their paths. -/
def tableAgrees : (depth : Nat) → List Header → Bool
  | 0, headers => headers.length ≤ 1 && headers.all fun h => h.path = [] && !h.isArray
  | depth + 1, headers =>
    let own := headers.filter (·.path = [])
    own.length ≤ 1 && own.all (!·.isArray) &&
      (firstNames headers).all fun name => (tables name headers).all (tableAgrees depth)

/-- The headers of a document agree with each other. -/
def agree (headers : List Header) : Bool :=
  tableAgrees (headers.foldl (fun depth h => max depth h.path.length) 0) headers

end Header

end Aead.Toml
