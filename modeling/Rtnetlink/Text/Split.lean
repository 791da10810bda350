/-!
# Splitting at a separator

A text is cut at every occurrence of a character; the parts may be empty, and there is always at
least one.
-/

namespace Rtnetlink.Text

/-- The parts of a text between the occurrences of a separator. -/
def splitOn (separator : Char) : List Char → List (List Char)
  | [] => [[]]
  | c :: rest =>
    if c = separator then
      [] :: splitOn separator rest
    else
      match splitOn separator rest with
      | [] => [[c]]
      | part :: parts => (c :: part) :: parts

end Rtnetlink.Text
