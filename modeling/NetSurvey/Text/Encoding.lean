import NetSurvey.Text.Utf8

/-!
# Encodings of a body

The bytes of a JSON text are in one of five encodings. A mark of the byte order at the front tells
which one; without a mark the zeros among the first bytes do, since a JSON text begins with ASCII
characters. Halves of surrogate pairs are let pass in every encoding.
-/

namespace NetSurvey.Text

/-- Which byte of a unit comes first. -/
inductive ByteOrder where
  | big
  | little
deriving DecidableEq, Repr

/-- The encodings of a text. -/
inductive Encoding where
  | utf8
  | utf16 (order : ByteOrder)
  | utf32 (order : ByteOrder)
deriving DecidableEq, Repr

namespace Encoding

/-- The encoding of bytes without a mark. -/
def guess : List UInt8 → Encoding
  | 0 :: 0 :: _ :: _ :: _ => .utf32 .big
  | 0 :: _ :: _ :: _ :: _ => .utf16 .big
  | _ :: 0 :: 0 :: 0 :: _ => .utf32 .little
  | _ :: 0 :: _ :: _ :: _ => .utf16 .little
  | [0, _] => .utf16 .big
  | [_, 0] => .utf16 .little
  | _ => .utf8

/-- The encoding of bytes, and the bytes after a mark. -/
def detect : List UInt8 → Encoding × List UInt8
  | 0 :: 0 :: 0xFE :: 0xFF :: rest => (.utf32 .big, rest)
  | 0xFF :: 0xFE :: 0 :: 0 :: rest => (.utf32 .little, rest)
  | 0xFE :: 0xFF :: rest => (.utf16 .big, rest)
  | 0xFF :: 0xFE :: rest => (.utf16 .little, rest)
  | 0xEF :: 0xBB :: 0xBF :: rest => (.utf8, rest)
  | bytes => (guess bytes, bytes)

/-- The number that the bytes of a unit stand for. -/
def unit (order : ByteOrder) (bytes : List UInt8) : Nat :=
  let bytes := match order with | .big => bytes | .little => bytes.reverse
  bytes.foldl (fun n b => 256 * n + b.toNat) 0

/-- The units of two bytes each, if no byte is left over. -/
def units16? (order : ByteOrder) : List UInt8 → Option (List Nat)
  | [] => some []
  | [_] => none
  | a :: b :: rest => (units16? order rest).map (unit order [a, b] :: ·)

/-- The units of four bytes each, if no byte is left over. -/
def units32? (order : ByteOrder) : List UInt8 → Option (List Nat)
  | a :: b :: c :: d :: rest => (units32? order rest).map (unit order [a, b, c, d] :: ·)
  | [] => some []
  | _ => none

/-- Whether a unit is the first half of a surrogate pair. -/
def isFirstHalf (n : Nat) : Bool :=
  0xD800 ≤ n && n ≤ 0xDBFF

/-- Whether a unit is the second half of a surrogate pair. -/
def isSecondHalf (n : Nat) : Bool :=
  0xDC00 ≤ n && n ≤ 0xDFFF

/-- The character that two halves of a surrogate pair stand for. -/
def paired (first second : Nat) : CodePoint :=
  .ofNat (0x10000 + (first - 0xD800) * 1024 + (second - 0xDC00))

/-- The text of units of two bytes, halves of a surrogate pair taken together. -/
def ofUnits16 : List Nat → Text
  | m :: n :: rest =>
    if isFirstHalf m && isSecondHalf n then paired m n :: ofUnits16 rest
    else .ofNat m :: ofUnits16 (n :: rest)
  | [n] => [.ofNat n]
  | [] => []

/-- The text of units of four bytes, none of which is beyond Unicode. -/
def ofUnits32? (units : List Nat) : Option Text :=
  units.mapM fun n => if n < 0x110000 then some (.ofNat n) else none

/-- The text that bytes in an encoding stand for. -/
def decode? : Encoding → List UInt8 → Option Text
  | utf8, bytes => (scanUtf8 true bytes).mapM id
  | utf16 order, bytes => (units16? order bytes).map ofUnits16
  | utf32 order, bytes => (units32? order bytes).bind ofUnits32?

/-- The text that bytes stand for, in whichever encoding they are. -/
def read? (bytes : List UInt8) : Option Text :=
  let (encoding, rest) := detect bytes
  encoding.decode? rest

end Encoding

end NetSurvey.Text
