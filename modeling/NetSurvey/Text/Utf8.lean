import NetSurvey.Text.Basic

/-!
# UTF-8

Any sequence of bytes is taken apart into code points and faults: each longest beginning of a
well-formed sequence that is not completed is one fault, as is each byte that can begin no sequence.
`decodeUtf8` puts a replacement character for every fault. Halves of surrogate pairs have no
well-formed sequence, but a reader may let the sequences pass that would be theirs.
-/

namespace NetSurvey.Text

/-- What stands for bytes that are no text. -/
def replacement : Char := Char.ofNat 0xFFFD

/-- A byte that continues a sequence. -/
def isContinuation (b : UInt8) : Bool :=
  0x80 ≤ b && b ≤ 0xBF

/-- The bytes that may stand second after a lead byte: narrower than all continuations where a
wider range would give an overlong form, half of a surrogate pair, or a number beyond Unicode. -/
def followsLead (halves : Bool) (lead b : UInt8) : Bool :=
  if lead = 0xE0 then 0xA0 ≤ b && b ≤ 0xBF
  else if lead = 0xED then 0x80 ≤ b && b ≤ (if halves then 0xBF else 0x9F)
  else if lead = 0xF0 then 0x90 ≤ b && b ≤ 0xBF
  else if lead = 0xF4 then 0x80 ≤ b && b ≤ 0x8F
  else isContinuation b

/-- The six payload bits of a continuation byte. -/
def payload (b : UInt8) : Nat :=
  b.toNat % 64

/-- The code points and faults of a sequence of bytes. -/
def scanUtf8 (halves : Bool) : List UInt8 → List (Option CodePoint)
  | [] => []
  | a :: rest =>
    if a < 0x80 then some (.ofNat a.toNat) :: scanUtf8 halves rest
    else if 0xC2 ≤ a && a ≤ 0xDF then
      match rest with
      | [] => [none]
      | b :: rest' =>
        if isContinuation b then
          some (.ofNat (a.toNat % 32 * 64 + payload b)) :: scanUtf8 halves rest'
        else none :: scanUtf8 halves (b :: rest')
    else if 0xE0 ≤ a && a ≤ 0xEF then
      match rest with
      | [] => [none]
      | b :: rest' =>
        if followsLead halves a b then
          match rest' with
          | [] => [none]
          | c :: rest'' =>
            if isContinuation c then
              some (.ofNat ((a.toNat % 16 * 64 + payload b) * 64 + payload c)) ::
                scanUtf8 halves rest''
            else none :: scanUtf8 halves (c :: rest'')
        else none :: scanUtf8 halves (b :: rest')
    else if 0xF0 ≤ a && a ≤ 0xF4 then
      match rest with
      | [] => [none]
      | b :: rest' =>
        if followsLead halves a b then
          match rest' with
          | [] => [none]
          | c :: rest'' =>
            if isContinuation c then
              match rest'' with
              | [] => [none]
              | d :: rest''' =>
                if isContinuation d then
                  some (.ofNat
                    (((a.toNat % 8 * 64 + payload b) * 64 + payload c) * 64 + payload d)) ::
                    scanUtf8 halves rest'''
                else none :: scanUtf8 halves (d :: rest''')
            else none :: scanUtf8 halves (c :: rest'')
        else none :: scanUtf8 halves (b :: rest')
    else none :: scanUtf8 halves rest

/-- The text that a sequence of bytes stands for, with a replacement for every fault. -/
def decodeUtf8 (bytes : List UInt8) : Text :=
  (scanUtf8 false bytes).map (·.getD replacement)

/-- The bytes of a code point, if it is a character. -/
def pointBytes? : CodePoint → Option (List UInt8)
  | .char c => some (String.utf8EncodeChar c)
  | .half _ => none

/-- The bytes of a text, if all its code points are characters. -/
def encodeUtf8? (t : Text) : Option (List UInt8) :=
  (t.mapM pointBytes?).map List.flatten

end NetSurvey.Text
