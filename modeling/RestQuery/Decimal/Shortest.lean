/-!
# Binary64 numbers and their shortest decimals

A finite binary64 number is `± m · 2 ^ q` for a significand `m` and an exponent `q` read off its
bits. The reals that round to it form an interval, whose ends belong to it exactly when `m` is even.
`Double.shortest` looks for the coarsest decimal grid with a point in that interval. On each grid
only the two neighbours of the value have to be tried: if a grid has any point in the interval, one
of these is in it too. Of two such neighbours the nearer is taken, and of two equally near the even
one. All of this is exact arithmetic on natural numbers.

`Layout` holds the decisions of a written form, and `Layout.render` writes a number in it.
-/

namespace RestQuery

/-- A binary64 number, by its bits. -/
structure Double where
  /-- One bit of sign, eleven of exponent, fifty-two of fraction. -/
  bits : UInt64
  deriving DecidableEq, Inhabited, Repr

namespace Double

/-- The binary64 number of the machine's type. -/
def ofFloat (f : Float) : Double := ⟨f.toBits⟩

/-- Whether the sign bit is set; it is for the negative zero too. -/
def isNegative (x : Double) : Bool :=
  0x8000000000000000 ≤ x.bits.toNat

/-- The eleven bits of the biased exponent, as a number. -/
def biased (x : Double) : Nat :=
  x.bits.toNat / 0x10000000000000 % 0x800

/-- The fifty-two bits of the fraction, as a number. -/
def fraction (x : Double) : Nat :=
  x.bits.toNat % 0x10000000000000

/-- The `m` of `± m · 2 ^ q`. -/
def significand (x : Double) : Nat :=
  if x.biased = 0 then x.fraction else 0x10000000000000 + x.fraction

/-- The `q` of `± m · 2 ^ q`. -/
def exponent (x : Double) : Int :=
  (max x.biased 1 : Nat) - 1075

/-- Whether the number is zero, of either sign. -/
def isZero (x : Double) : Bool :=
  x.significand == 0

/-- Whether two finite numbers have the same value: the two zeros have, other numbers only if they
are the same. -/
def sameValue (x y : Double) : Bool :=
  x == y || (x.isZero && y.isZero)

end Double

namespace Decimal

/-- A positive decimal `digits · 10 ^ scale`. -/
structure Scaled where
  digits : Nat
  scale : Int
  deriving DecidableEq, Repr

/-- The reals that round to a positive binary64 number, in units of `2 ^ unit`: its value, and the
ends of the interval. -/
structure Interval where
  unit : Int
  value : Nat
  low : Nat
  high : Nat
  /-- Whether the ends belong to the interval. -/
  closed : Bool

/-- The reals that round to a number. Below a power of two the neighbours are twice as dense, so
the lower end is nearer there. -/
def Interval.of (x : Double) : Interval :=
  let m := x.significand
  { unit := x.exponent - 2
    value := 4 * m
    low := if x.fraction = 0 ∧ 1 < x.biased then 4 * m - 1 else 4 * m - 2
    high := 4 * m + 2
    closed := m % 2 == 0 }

/-- The natural number whose ratio to `weight (-e)` is `b ^ e`. -/
def weight (b : Nat) (e : Int) : Nat := Nat.pow b e.toNat

/-- A decimal grid seen against an interval: a point `c` of the grid and a position `v` of the
interval compare as `c * step` and `v * span` do. -/
structure Grid where
  step : Nat
  span : Nat

/-- The multiples of `10 ^ scale` against an interval. -/
def Grid.of (i : Interval) (scale : Int) : Grid :=
  { step := weight 10 scale * weight 2 (-i.unit)
    span := weight 2 i.unit * weight 10 (-scale) }

/-- Whether a point of a grid lies in the interval. -/
def Grid.hits (g : Grid) (i : Interval) (c : Nat) : Bool :=
  if i.closed then i.low * g.span ≤ c * g.step && c * g.step ≤ i.high * g.span
  else i.low * g.span < c * g.step && c * g.step < i.high * g.span

/-- The point of a grid that stands for the value: of its neighbours in the interval the nearer,
and of two equally near the even one. -/
def Grid.point? (g : Grid) (i : Interval) : Option Nat :=
  let target := i.value * g.span
  let below := target / g.step
  let above := below + 1
  match g.hits i below && below != 0, g.hits i above with
  | false, false => none
  | true, false => some below
  | false, true => some above
  | true, true =>
    let down := target - below * g.step
    let up := above * g.step - target
    if down < up then some below
    else if up < down then some above
    else if below % 2 = 0 then some below else some above

/-- The exponent of the leading decimal digit of the value of an interval. The estimate from the
binary length is off by less than two. -/
def Interval.leading (i : Interval) : Int :=
  let estimate := ((Nat.log2 i.value : Int) + i.unit) * 30103 / 100000
  let reaches (e : Int) : Bool :=
    let g := Grid.of i e
    g.step ≤ i.value * g.span
  if reaches (estimate + 1) then estimate + 1
  else if reaches estimate then estimate
  else estimate - 1

/-- The decimal without the zeros at the end of its digits. There are at most `fuel` of them. -/
def Scaled.reduce : Nat → Scaled → Scaled
  | 0, d => d
  | fuel + 1, d =>
    if d.digits % 10 = 0 ∧ d.digits ≠ 0 then reduce fuel ⟨d.digits / 10, d.scale + 1⟩ else d

/-- The shortest decimal that rounds to a positive binary64 number, and of several the nearest to
it. Seventeen digits always suffice. -/
def shortest (x : Double) : Scaled :=
  let i := Interval.of x
  let leading := i.leading
  let hit := (List.range 17).findSome? fun (places : Nat) =>
    let scale := leading - (places : Int)
    ((Grid.of i scale).point? i).map fun c => Scaled.mk c scale
  match hit with
  | some d => d.reduce 20
  | none => ⟨x.significand, x.exponent⟩

/-- The decisions of a written form of binary64 numbers. -/
structure Layout where
  /-- The least exponent of the leading digit that is written without an exponent part. -/
  plainFrom : Int
  /-- The greatest exponent of the leading digit that is written without an exponent part. -/
  plainTo : Int
  /-- What follows the digits of a whole number written without an exponent part. -/
  wholeEnd : String
  /-- What stands before a positive exponent. -/
  plus : String

/-- A run of zeros. -/
def zeros (n : Nat) : String := String.ofList (List.replicate n '0')

/-- A positive decimal in a layout. -/
def Layout.renderPositive (l : Layout) (d : Scaled) : String :=
  let digits := Nat.toDigits 10 d.digits
  let leading : Int := d.scale + digits.length - 1
  if l.plainFrom ≤ leading ∧ leading ≤ l.plainTo then
    if 0 ≤ d.scale then String.ofList digits ++ zeros d.scale.toNat ++ l.wholeEnd
    else if 0 ≤ leading then
      let whole := leading.toNat + 1
      String.ofList (digits.take whole) ++ "." ++ String.ofList (digits.drop whole)
    else "0." ++ zeros (-leading - 1).toNat ++ String.ofList digits
  else
    let tail := digits.drop 1
    String.ofList (digits.take 1) ++ (if tail.isEmpty then "" else "." ++ String.ofList tail) ++
      "e" ++ (if leading < 0 then "-" else l.plus) ++ toString leading.natAbs

/-- A finite binary64 number in a layout. -/
def Layout.render (l : Layout) (x : Double) : String :=
  (if x.isNegative then "-" else "") ++
    if x.isZero then "0" ++ l.wholeEnd else l.renderPositive (shortest x)

end Decimal

end RestQuery
