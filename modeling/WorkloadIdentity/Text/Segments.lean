/-!
Cutting a text at a separator and joining parts with one. There is always one part more than there
are separators, so the empty text is one empty part.
-/

namespace WorkloadIdentity.Text

/-- The parts between the characters that `isSep` holds of. -/
def splitBy (isSep : Char → Bool) : List Char → List (List Char)
  | [] => [[]]
  | c :: rest =>
    if isSep c then [] :: splitBy isSep rest
    else
      match splitBy isSep rest with
      | part :: parts => (c :: part) :: parts
      | [] => [[c]]

/-- The parts between the occurrences of a character. -/
def splitOn (sep : Char) (cs : List Char) : List (List Char) := splitBy (· == sep) cs

/-- The parts with a separator between each two. -/
def join (sep : List Char) : List (List Char) → List Char
  | [] => []
  | [part] => part
  | part :: parts => part ++ sep ++ join sep parts

/-- The rest of a text behind the given beginning. -/
def after? (beginning cs : List Char) : Option (List Char) :=
  if beginning.isPrefixOf cs then some (cs.drop beginning.length) else none

/-- A text cut at the last occurrence of a character. -/
def cutLast? (sep : Char) (cs : List Char) : Option (List Char × List Char) :=
  if cs.contains sep then
    let back := cs.reverse
    some (((back.dropWhile (· != sep)).drop 1).reverse, (back.takeWhile (· != sep)).reverse)
  else none

end WorkloadIdentity.Text
