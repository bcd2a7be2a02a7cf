import IdentityChain.Decimal.Shortest

/-!
# Layout of decimals

How a decimal is written: positionally while the exponent of its leading digit
lies in a given range, with a mark and an exponent otherwise. A `DecimalLayout`
holds those decisions; each output format has one value of it.
-/

namespace IdentityChain

/-- The decisions of a number format. -/
structure DecimalLayout where
  /-- The leading exponents that are written positionally; without a range, all of them. -/
  positional : Option (Int × Int)
  /-- Whether an integral value keeps `.0`. -/
  pointZero : Bool
  /-- Which of two equally near shortest decimals is written. -/
  tie : TieRule

namespace DecimalLayout

/-- Digits around the decimal point, without an exponent. -/
def plain (layout : DecimalLayout) (d : Decimal) : List Char :=
  let zeros (n : Int) : List Char := List.replicate n.toNat '0'
  if 0 ≤ d.exponent then
    d.text ++ zeros d.exponent ++ (if layout.pointZero then ['.', '0'] else [])
  else if 0 ≤ d.leading then
    let whole := (d.leading + 1).toNat
    d.text.take whole ++ '.' :: d.text.drop whole
  else
    '0' :: '.' :: zeros (-d.leading - 1) ++ d.text

/-- One digit, the rest after the point, and the exponent with its sign. -/
def scientific (d : Decimal) : List Char :=
  let fraction := match d.text.drop 1 with
    | [] => []
    | rest => '.' :: rest
  d.text.take 1 ++ fraction ++ ['e', if d.leading < 0 then '-' else '+'] ++
    Nat.toDigits 10 d.leading.natAbs

/-- The text of a double. -/
def render (layout : DecimalLayout) (x : Binary64) : String :=
  let d := x.shortest layout.tie
  let isPlain := match layout.positional with
    | none => true
    | some (least, greatest) => decide (least ≤ d.leading ∧ d.leading ≤ greatest)
  let magnitude := if isPlain then layout.plain d else scientific d
  String.ofList (if x.negative then '-' :: magnitude else magnitude)

end DecimalLayout

end IdentityChain
