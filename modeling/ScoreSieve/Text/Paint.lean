namespace ScoreSieve.Text

/-- The colours and weights that text has on a terminal. -/
inductive Paint
  | cyan
  | green
  | red
  | bold
  | boldGreen
  deriving DecidableEq, Repr

def Paint.parameters : Paint → String
  | cyan => "36"
  | green => "32"
  | red => "31"
  | bold => "1"
  | boldGreen => "1;32"

/-- The text in a paint, or as it is if colours are off. -/
def Paint.apply (paint : Paint) (coloured : Bool) (text : String) : String :=
  if coloured then "\x1b[" ++ paint.parameters ++ "m" ++ text ++ "\x1b[0m" else text

end ScoreSieve.Text
