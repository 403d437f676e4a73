import SemanticClient.Error

/-!
# Pagers

The page that each pager shows. A pager has a state from the time it is bound, and only answers change
it.
-/

namespace SemanticClient

/-- What a pager shows. -/
structure PagingState where
  /-- The query form whose fields are conditions. -/
  queryForm : Option String
  /-- The rows of all pages. -/
  total : Int64
  /-- The page, from zero. -/
  page : Int64
  /-- The rows of a page. -/
  size : Int64
deriving DecidableEq

/-- A pager that has shown nothing yet. -/
def PagingState.initial (queryForm : Option String) (size : Int64) : PagingState :=
  ⟨queryForm, 0, 0, size⟩

/-- A paging state as JSON. -/
def PagingState.toJson (s : PagingState) : Json :=
  .ofMembers [("query_id", .ofOption s.queryForm), ("total", .int64 s.total), ("page", .int64 s.page),
    ("size", .int64 s.size)]

/-- The pagers that are bound, by id. -/
abbrev Pagers := Keyed PagingState

namespace Pagers

/-- Binds a pager; one that is bound already keeps its state. -/
def bind (p : Pagers) (id : String) (queryForm : Option String) (size : Int64) :
    Pagers × PagingState :=
  match Keyed.get? p id with
  | some s => (p, s)
  | none =>
    let s := .initial queryForm size
    (Keyed.insert id s p, s)

/-- Notes the page that an answer is for and the total it tells. -/
def apply (p : Pagers) (id : String) (page size total : Int64) :
    Except ClientError (Pagers × PagingState) :=
  match Keyed.get? p id with
  | some s =>
    let s := { s with page := page, size := size, total := total }
    .ok (Keyed.insert id s p, s)
  | none => .error (.pagerNotBound id)

end Pagers
end SemanticClient
