/-!
Cutting a text at a separator. There is one part more than there are separators, and parts may be
empty.
-/

namespace PoolRouting.Text

/-- The parts between the separators. -/
def split (separator : Char) : List Char → List (List Char)
  | [] => [[]]
  | c :: rest =>
    match split separator rest with
    | [] => [[c]]
    | part :: later => if c = separator then [] :: part :: later else (c :: part) :: later

example : split '/' "a//b".toList = [['a'], [], ['b']] := by decide

end PoolRouting.Text
