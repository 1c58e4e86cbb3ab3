import LiterateConfig.Keyed
import LiterateConfig.Text.Numeral

/-!
# JSON data

The tree that a JSON text spells. A record keeps its members in the order in
which their names first came; a repeated name replaces the value in place.
-/
namespace LiterateConfig.Json

inductive Data where
  | null
  | bool (b : Bool)
  | int (n : Int)
  | float (x : Float)
  | text (s : String)
  | list (items : List Data)
  | record (members : List (String × Data))

/-- A record that spells texts by number, by ascending number. -/
def Data.numbered (m : Keyed Int String) : Data :=
  .record (m.ascending.map fun (i, s) => (Text.intText i, .text s))

end LiterateConfig.Json
