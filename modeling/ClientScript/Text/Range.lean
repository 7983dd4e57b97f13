namespace ClientScript.Text

-- Closed ranges of code points, ascending and apart.
abbrev Ranges := List (Nat × Nat)

def Ranges.has (rs : Ranges) (c : Char) : Bool :=
  rs.any fun (low, high) => low ≤ c.toNat && c.toNat ≤ high

end ClientScript.Text
