import EntityQuery.Settings.Filter
import EntityQuery.Settings.Page
import EntityQuery.Settings.Sort

namespace EntityQuery

structure Settings where
  filter : FilterSettings
  sort : SortSettings
  page : PageSettings
deriving DecidableEq

def Settings.builtin (now : Calendar.DateTime) : Settings :=
  ⟨FilterSettings.builtin now, SortSettings.builtin, PageSettings.builtin⟩

/-- The settings that an application has published for all of its filters, sorts and pages.
    Each section can be published once. -/
structure Defaults where
  filter : Option FilterSettings := none
  sort : Option SortSettings := none
  page : Option PageSettings := none
deriving DecidableEq

namespace Defaults

/-- The settings of filters that have none of their own. -/
def currentFilter (defaults : Defaults) (now : Calendar.DateTime) : FilterSettings :=
  defaults.filter.getD (FilterSettings.builtin now)

/-- The settings of sorts that have none of their own. -/
def currentSort (defaults : Defaults) : SortSettings := defaults.sort.getD SortSettings.builtin

/-- The settings of pages that have none of their own. -/
def currentPage (defaults : Defaults) : PageSettings := defaults.page.getD PageSettings.builtin

def publishFilter (defaults : Defaults) (settings : FilterSettings) : Except Fault Defaults := do
  settings.validate
  if defaults.filter.isSome then throw (.defaultAlreadySet "filter")
  return { defaults with filter := some settings }

def publishSort (defaults : Defaults) (settings : SortSettings) : Except Fault Defaults :=
  if defaults.sort.isSome then .error (.defaultAlreadySet "sort")
  else .ok { defaults with sort := some settings }

def publishPage (defaults : Defaults) (settings : PageSettings) : Except Fault Defaults :=
  if defaults.page.isSome then .error (.defaultAlreadySet "page")
  else .ok { defaults with page := some settings }

/-- Publishes all sections in order, up to the first that cannot be published. The sections
    before it stay published. -/
def publish (defaults : Defaults) (settings : Settings) : Defaults × Except Fault Unit :=
  match defaults.publishFilter settings.filter with
  | .error fault => (defaults, .error fault)
  | .ok defaults =>
    match defaults.publishSort settings.sort with
    | .error fault => (defaults, .error fault)
    | .ok defaults =>
      match defaults.publishPage settings.page with
      | .error fault => (defaults, .error fault)
      | .ok defaults => (defaults, .ok ())

end Defaults

end EntityQuery
