import EntityQuery.Filter.Entity
import EntityQuery.Page.Basic
import EntityQuery.Settings.Defaults
import EntityQuery.Sort.Entity

namespace EntityQuery

/-- A filter, a sort and a page of entities of one type. -/
structure Query (model : Model) where
  filter : EntityFilter model
  sort : EntitySort model
  page : EntityPage

structure QueryResult (α : Type) where
  predicate : Predicate
  orderBy : String
  /-- The items that the filter accepts, in the order of the sort. -/
  sorted : List α
  /-- Those of them that are on the page. -/
  page : List α

/-- Filters a list of items, sorts what is left and takes a page of it. -/
def Query.run {model : Model} {α : Type} [AsEntity α] (schema : Schema) (query : Query model)
    (defaults : Defaults) (now : Calendar.DateTime) (items : List α) :
    Except Fault (QueryResult α) := do
  let filter ← query.filter.compile schema (defaults.currentFilter now)
  let selected ← filter.select items
  let sort ← query.sort.compile schema defaults.currentSort
  let sorted ← sort.sorted selected
  let page ← query.page.paginate defaults.currentPage sorted
  return { predicate := filter.predicate, orderBy := sort.toSql, sorted, page }

end EntityQuery
