namespace ScoreSieve.Text

/-- Holds of a character between the first and the last code point of some range. -/
def inRanges (ranges : List (Nat × Nat)) (c : Char) : Bool :=
  ranges.any fun (first, last) => first ≤ c.toNat && c.toNat ≤ last

end ScoreSieve.Text
