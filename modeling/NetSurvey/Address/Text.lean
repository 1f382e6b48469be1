import NetSurvey.Address.Basic
import NetSurvey.Text.Digit
import NetSurvey.Text.Fields

/-!
# The text of addresses

An address of 32 bits is written as four numbers with points between them. An address of 128 bits
is written as eight groups of hexadecimal digits with colons between them, where the longest run of
zero groups, the first one if there are several, is left out if it has at least two groups.

Reading is more liberal: any one run of zero groups may be left out, groups may have leading zeros
up to four digits, hexadecimal digits may be of either case, the last two groups may be written as
an address of 32 bits, and a scope may follow after a percent sign.
-/

namespace NetSurvey

open Text

namespace Dotted

/-- Reads one of the four numbers: up to three digits, no leading zero, at most 255. -/
def octet? (cs : Text) : Option Nat :=
  if cs.isEmpty || !cs.all isAsciiDigit || 3 < cs.length then none
  else if cs.head? = some (.char '0') && 1 < cs.length then none
  else
    let n := (cs.filterMap digitValue?).foldl (fun n d => 10 * n + d) 0
    if n ≤ 255 then some n else none

/-- Reads four numbers with points between them. -/
def read? (cs : Text) : Option Nat :=
  match (fields '.' cs).mapM octet? with
  | some [a, b, c, d] => some (((a * 256 + b) * 256 + c) * 256 + d)
  | _ => none

/-- Writes a number as four octets with points between them. -/
def write (n : Nat) : Text :=
  joined "." ((Octets.ofNat 4 n).map fun b => numeral 10 b.toNat)

end Dotted

namespace Groups

/-- The number of groups of an address. -/
def count : Nat := 8

/-- The number that hexadecimal digits stand for, the first being the most significant. -/
def ofHex (ds : List Nat) : Nat :=
  ds.foldl (fun n d => 16 * n + d) 0

/-- Reads a group of one to four hexadecimal digits. -/
def group? (cs : Text) : Option Nat :=
  if cs.isEmpty || 4 < cs.length then none
  else (cs.mapM hexDigitValue?).map ofHex

/-- Reads groups with colons between them; an empty text has no groups. -/
def list? (cs : Text) : Option (List Nat) :=
  if cs.isEmpty then some [] else (fields ':' cs).mapM group?

/-- Replaces a dotted address after the last colon by the two groups that it stands for. -/
def expandDotted? (cs : Text) : Option (Text) :=
  let last := afterLast ':' cs
  if last.contains '.' then
    (Dotted.read? last).map fun n =>
      cs.take (cs.length - last.length) ++ numeral 16 (n / 65536) ++ ":" ++ numeral 16 (n % 65536)
  else some cs

/-- What stands before the first double colon, and what stands after it. -/
def splitDouble? : Text → Option (Text × Text)
  | .char ':' :: .char ':' :: cs => some ([], cs)
  | c :: cs => (splitDouble? cs).map fun (l, r) => (c :: l, r)
  | [] => none

/-- The number that groups stand for, the first being the most significant. -/
def value (gs : List Nat) : Nat :=
  gs.foldl (fun n g => 65536 * n + g) 0

/-- Reads groups, one run of zero groups possibly left out. -/
def read? (cs : Text) : Option Nat := do
  let cs ← expandDotted? cs
  match splitDouble? cs with
  | some (l, r) =>
    let left ← list? l
    let right ← list? r
    if left.length + right.length < count then
      some (value (left ++ List.replicate (count - left.length - right.length) 0 ++ right))
    else none
  | none =>
    let gs ← list? cs
    if gs.length = count then some (value gs) else none

/-- The groups of an address. -/
def ofNat (n : Nat) : List Nat :=
  [112, 96, 80, 64, 48, 32, 16, 0].map fun place => n / Nat.pow 2 place % 65536

/-- The number of zero groups at the front. -/
def zeros (gs : List Nat) : Nat :=
  (gs.takeWhile (· == 0)).length

/-- Where the longest run of zero groups begins, and its length; the first of equally long runs. -/
def longestZeros : List Nat → Nat × Nat
  | [] => (0, 0)
  | g :: gs =>
    let (start, length) := longestZeros gs
    if length ≤ zeros (g :: gs) then (0, zeros (g :: gs)) else (start + 1, length)

/-- Writes groups with colons between them. -/
def plain (gs : List Nat) : Text :=
  joined ":" (gs.map (numeral 16))

/-- Writes an address as groups. -/
def write (n : Nat) : Text :=
  let gs := ofNat n
  let (start, length) := longestZeros gs
  if 2 ≤ length then plain (gs.take start) ++ "::" ++ plain (gs.drop (start + length))
  else plain gs

end Groups

namespace Address

/-- The text of an address. -/
def text (a : Address) : Text :=
  match a.family with
  | .v4 => Dotted.write a.value
  | .v6 => Groups.write a.value

/-- An address with the scope that its text names. -/
structure Scoped where
  address : Address
  scope : Option Text
deriving DecidableEq

/-- Divides a text at its first percent sign into an address and a scope, which is not empty and
holds no further percent sign. -/
def splitScope? (cs : Text) : Option (Text × Option Text) :=
  match startingAt '%' cs with
  | [] => some (cs, none)
  | _ :: scope =>
    if scope.isEmpty || scope.contains '%' then none
    else some (before '%' cs, some scope)

/-- Reads the text of an address of either family. -/
def read? (cs : Text) : Option Scoped :=
  if cs.contains '/' then none
  else
    match Dotted.read? cs with
    | some n => some ⟨ofNat .v4 n, none⟩
    | none => do
      let (cs, scope) ← splitScope? cs
      return ⟨ofNat .v6 (← Groups.read? cs), scope⟩

/-- Whether a text is an address. -/
def isAddress (t : Text) : Bool :=
  (read? t).isSome

/-- Whether a number is the number of an address of some family. -/
def isAddressNumber (n : Int) : Bool :=
  0 ≤ n && n < Nat.pow 2 Family.v6.width

end Address

end NetSurvey
