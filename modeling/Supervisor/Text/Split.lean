/-!
# Parts of a text

## Main definitions

* `Text.splitAtChar` - the parts of a text between separators
-/

namespace Supervisor.Text

/-- The parts of a text between the separators; there is at least one. -/
def splitAtChar (sep : Char) : List Char → List (List Char)
  | [] => [[]]
  | c :: cs =>
    if c = sep then [] :: splitAtChar sep cs
    else
      match splitAtChar sep cs with
      | part :: parts => (c :: part) :: parts
      | [] => [[c]]

end Supervisor.Text
