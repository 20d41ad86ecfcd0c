/-!
  Terminal colours.
-/

namespace EditionCheck

/-- A way to show a piece of text. -/
inductive Style where
  | green
  | red
  | yellow
  | bold
  | boldRed
  | boldBlue
  | dimmed
  deriving DecidableEq, Repr

namespace Style

/-- The parameters of the escape sequence that starts a style. -/
def code : Style → String
  | green => "32"
  | red => "31"
  | yellow => "33"
  | bold => "1"
  | boldRed => "1;31"
  | boldBlue => "1;34"
  | dimmed => "2"

/-- A text between the sequence of a style and the one that ends every style. -/
def paint (style : Style) (s : String) : String := "\x1b[" ++ style.code ++ "m" ++ s ++ "\x1b[0m"

end Style
end EditionCheck
