/-!
# Splitting texts

The pieces between the occurrences of a character. There is one piece more than there are
occurrences.
-/

namespace Gatehouse.Split

def on (sep : Char) : List Char → List (List Char)
  | [] => [[]]
  | c :: rest =>
    if c = sep then [] :: on sep rest
    else
      match on sep rest with
      | first :: others => (c :: first) :: others
      | [] => [[c]]

end Gatehouse.Split
