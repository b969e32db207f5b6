/-!
# Splitting texts

A text is split at every place where a character stands.
-/

namespace LineEcho.Text

/-- The pieces of a text between the separators. There is one more of them than there are
separators. -/
def split (separator : Char) : List Char → List (List Char)
  | [] => [[]]
  | character :: rest =>
    if character = separator then [] :: split separator rest
    else
      match split separator rest with
      | first :: others => (character :: first) :: others
      | [] => [[character]]

end LineEcho.Text
