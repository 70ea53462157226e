namespace EntityQuery.ValueFilter

/-- The characters of a text that neither are escapes nor follow one. -/
def unescapedChars (escape : Char) : List Char → List Char
  | [] => []
  | [c] => if c == escape then [] else [c]
  | c :: d :: rest =>
    if c == escape then unescapedChars escape rest else c :: unescapedChars escape (d :: rest)

/-- A list of pieces with more characters in front of the first one. -/
def prepend (front : List Char) : List (List Char) → List (List Char)
  | [] => [front]
  | piece :: rest => (front ++ piece) :: rest

/-- The pieces of a text between unescaped separators. Escapes stay in the pieces. -/
def splitUnescaped (escape separator : Char) : List Char → List (List Char)
  | [] => [[]]
  | [c] => if c != escape && c == separator then [[], []] else [[c]]
  | c :: d :: rest =>
    if c == escape then prepend [c, d] (splitUnescaped escape separator rest)
    else if c == separator then [] :: splitUnescaped escape separator (d :: rest)
    else prepend [c] (splitUnescaped escape separator (d :: rest))

/-- A text without its escapes. An escape at the very end stands for itself. -/
def unescape (escape : Char) : List Char → List Char
  | [] => []
  | [c] => [c]
  | c :: d :: rest =>
    if c == escape then d :: unescape escape rest else c :: unescape escape (d :: rest)

end EntityQuery.ValueFilter
