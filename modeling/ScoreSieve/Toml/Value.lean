namespace ScoreSieve

/-- A TOML value. Integers fit in 64 bits; a table keeps its entries in the order of writing. -/
inductive Toml
  | string (text : String)
  | integer (value : Int)
  /-- A number with a fraction or an exponent, an infinity, or no number. -/
  | decimal (text : String)
  | boolean (value : Bool)
  | moment (text : String)
  | array (items : List Toml)
  | table (entries : List (String × Toml))
  deriving Repr

end ScoreSieve
