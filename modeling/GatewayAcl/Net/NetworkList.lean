import GatewayAcl.Net.Network
import GatewayAcl.Text.Blank
import GatewayAcl.Text.Pieces

/-!
# Lists of networks

A list of networks in one text, with commas between the items. Blanks around an
item do not matter, and an item of nothing but blanks is none. One malformed item
spoils the whole list.
-/

namespace GatewayAcl.Net

open GatewayAcl.Text

/-- The items of a list in one text. -/
def listItems (text : List Char) : List (List Char) :=
  ((pieces ',' text).map trim).filter (· ≠ [])

def Network.parseList? (text : String) : Option (List Network) :=
  (listItems text.toList).mapM ofChars?

end GatewayAcl.Net
