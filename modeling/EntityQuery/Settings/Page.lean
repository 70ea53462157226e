namespace EntityQuery

structure PageSettings where
  /-- Whether a page number or size that is missing or cannot be read is passed over. -/
  ignoreParseExceptions : Bool
deriving DecidableEq

def PageSettings.builtin : PageSettings := ⟨false⟩

end EntityQuery
