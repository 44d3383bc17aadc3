/-!
# Line ends

A text file may end its lines with a carriage return, a line feed, or both; read as text, every
line ends with a line feed.
-/

namespace StyleGauge.Text

/-- The text with every line end as a line feed. -/
def unifyNewlines : List Char → List Char
  | [] => []
  | '\r' :: '\n' :: rest => '\n' :: unifyNewlines rest
  | c :: rest => (if c = '\r' then '\n' else c) :: unifyNewlines rest

end StyleGauge.Text
