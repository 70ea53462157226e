import EntityQuery.Span.Absolute
import EntityQuery.Span.Relative

namespace EntityQuery.Span

/-- The span that a date literal names. Dates are tried before phrases. -/
def read? (culture : Culture) (now : Calendar.DateTime) (raw : String) : Option Span :=
  let text := Text.trim raw.toList
  if text.isEmpty then none
  else absolute? culture text <|> relative? now text

end EntityQuery.Span
