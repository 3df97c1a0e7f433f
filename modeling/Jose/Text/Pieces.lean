/-!
A text cut at every occurrence of a mark, and put together again. Empty pieces stay, so that
nothing but the marks is lost.
-/

namespace Jose.Text

def pieces (mark : Char) : List Char → List (List Char)
  | [] => [[]]
  | char :: rest =>
      if char = mark then [] :: pieces mark rest
      else match pieces mark rest with
        | first :: others => (char :: first) :: others
        | [] => [[char]]

def joined (mark : Char) : List (List Char) → List Char
  | [] => []
  | [last] => last
  | piece :: rest => piece ++ mark :: joined mark rest

end Jose.Text
