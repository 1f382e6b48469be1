import NetSurvey.Block.Basic
import NetSurvey.Journal
import NetSurvey.Specification

/-!
# Blocks in text

A block is written `address/length`. The address need not be the base of the block, blanks may
surround both parts, and the length may have leading zeros and digits of any script.
-/

namespace NetSurvey

open Text

namespace Block

/-- The block with a written address and a length, if there is one. -/
def find? (address : Text) (length : Int) : Option Block := do
  let a ← Address.read? address
  if h : 0 ≤ length ∧ length.toNat ≤ a.address.family.width then
    some (around a length.toNat h.2)
  else none

/-- Reads a block. -/
def ofText (cidr : Text) : Except SpecificationError Block :=
  match fields '/' cidr with
  | [address, length] =>
    let address := trim address
    let length := trim length
    if length.isEmpty || !length.all isDigitSign then .error (.blockLength cidr)
    else
      match Integer.read length with
      | .error cause => .error (.blockNumeral cause)
      | .ok n =>
        match find? address n with
        | some b => .ok b
        | none => .error (.noBlock (address ++ "/" ++ toString n))
  | _ => .error (.blockForm (quoted cidr))

/-- Reads a block from data, which has to be a text. -/
def ofDatum : Datum → Except SpecificationError Block
  | .text cidr => ofText cidr
  | d => .error (.blockForm d.shown)

/-- Why the hosts of a block are not listed. -/
inductive ExpandError where
  | specification (cause : SpecificationError)
  | exhaustion (cause : Exhaustion)
deriving DecidableEq, Repr

/-- The texts of the hosts of a block, unless there are more than a limit allows. The number of
hosts is known before any of them is listed. -/
def expand (cidr : Datum) (limit : Option Int) : Except ExpandError (List Text) :=
  match ofDatum cidr with
  | .error cause => .error (.specification cause)
  | .ok b =>
    match limit with
    | some limit =>
      if limit < b.hostCount then .error (.exhaustion ⟨b.hostCount, limit, .hosts⟩)
      else .ok (b.hosts.map Address.text)
    | none => .ok (b.hosts.map Address.text)

/-- What is logged when a block has been expanded. -/
def expandedEntry (cidr : Datum) (hosts : List Text) : Entry :=
  ⟨.debug, .enumeration,
    "Expanded " ++ cidr.display ++ s!" into {hosts.length} host addresses."⟩

end Block

end NetSurvey
