/-!
# Pieces between separators

Splitting at a separator and joining with it. A text without the separator is
one piece, and the empty text is one empty piece, so there is always one piece
more than there are separators.
-/

namespace GatewayAcl.Text

/-- The pieces of a text between the occurrences of a separator. -/
def pieces (separator : Char) : List Char → List (List Char)
  | [] => [[]]
  | char :: rest =>
      if char = separator then [] :: pieces separator rest
      else
        match pieces separator rest with
        | [] => [[char]]
        | piece :: others => (char :: piece) :: others

/-- The texts one after the other, with a separator between neighbours. -/
def joined (separator : List Char) : List (List Char) → List Char
  | [] => []
  | [piece] => piece
  | piece :: others => piece ++ separator ++ joined separator others

end GatewayAcl.Text
