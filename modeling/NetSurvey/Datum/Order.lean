import NetSurvey.Datum.Basic

/-!
# Comparing and sorting data

Data of one kind can be compared: numbers by value, where a truth value counts as one or zero, texts
by their code points, and lists by their first items that differ. Data of different kinds can be
equal or not, but neither is less than the other, and records and nothing are never less.

A list is sorted by insertion: the run at its front, ascending or strictly descending, is in order
once it is read in the right direction, and every further item is put behind its equals at a place
that is found by halving. Sorting is stable, and it fails at the first two items that cannot be
compared.
-/

namespace NetSurvey

/-! ### Sorting -/

namespace Sorting

variable {ε α : Type}

/-- The place between `l` and `r` in an ascending array behind the items that are not greater. -/
def place (less : α → α → Except ε Bool) (a : α) (as : Array α) (l r : Nat) (h : r ≤ as.size) :
    Except ε Nat :=
  if hlr : l < r then
    have hm : l + (r - l) / 2 < as.size := by omega
    match less a (as[l + (r - l) / 2]) with
    | .error e => .error e
    | .ok true => place less a as l (l + (r - l) / 2) (by omega)
    | .ok false => place less a as (l + (r - l) / 2 + 1) r h
  else .ok l
termination_by r - l

/-- Puts an item at its place in an ascending array. -/
def insert (less : α → α → Except ε Bool) (as : Array α) (a : α) : Except ε (Array α) := do
  let i ← place less a as 0 as.size (Nat.le_refl _)
  return as.insertIdxIfInBounds i a

/-- Reads on while each item is less than the one before; the items read, the last one first. -/
def descend (less : α → α → Except ε Bool) (last : α) (read : List α) :
    List α → Except ε (List α × List α)
  | [] => .ok (last :: read, [])
  | a :: as => do
    if ← less a last then descend less a (last :: read) as
    else return (last :: read, a :: as)

/-- Reads on while no item is less than the one before; the items read, the last one first. -/
def ascend (less : α → α → Except ε Bool) (last : α) (read : List α) :
    List α → Except ε (List α × List α)
  | [] => .ok (last :: read, [])
  | a :: as => do
    if ← less a last then return (last :: read, a :: as)
    else ascend less a (last :: read) as

/-- The run at the front in ascending order, and the items after it. -/
def firstRun (less : α → α → Except ε Bool) : List α → Except ε (List α × List α)
  | a :: b :: as => do
    if ← less b a then descend less b [a] as
    else
      let (read, rest) ← ascend less b [a] as
      return (read.reverse, rest)
  | as => .ok (as, [])

/-- The items of a list in ascending order. -/
def sorted (less : α → α → Except ε Bool) (as : List α) : Except ε (List α) := do
  let (run, rest) ← firstRun less as
  let all ← rest.foldlM (insert less) run.toArray
  return all.toList

end Sorting

/-! ### Comparing -/

/-- Two data that cannot be compared, by the words for their kinds. -/
structure Incomparable where
  left : String
  right : String
deriving DecidableEq, Repr

namespace Datum

/-- The number that a datum counts as. -/
def number? : Datum → Option Number
  | number n => some n
  | bool b => some (.int (if b then 1 else 0))
  | _ => none

mutual

/-- Whether two data are equal. -/
def same : Datum → Datum → Bool
  | null, null => true
  | text s, text t => s == t
  | list as, list bs => sameItems as bs
  | record fs, record gs => fs.length == gs.length && sameFields fs gs
  | bool a, d => (number? d).any (Number.same (.int (if a then 1 else 0)))
  | number a, d => (number? d).any (Number.same a)
  | _, _ => false

/-- Whether the items of two lists are equal. -/
def sameItems : List Datum → List Datum → Bool
  | [], [] => true
  | a :: as, b :: bs => same a b && sameItems as bs
  | _, _ => false

/-- Whether every field of a record is equal to a field of another one. -/
def sameFields : List (Text × Datum) → List (Text × Datum) → Bool
  | [], _ => true
  | (k, d) :: fs, gs => (gs.lookup k).any (same d) && sameFields fs gs

end

mutual

/-- Whether a datum is less than another one. -/
def less : Datum → Datum → Except Incomparable Bool
  | text s, text t => .ok (s.precedes t)
  | list as, list bs => lessItems as bs
  | a, b =>
    match number? a, number? b with
    | some m, some n => .ok (m.less n)
    | _, _ => .error ⟨a.kindName, b.kindName⟩

/-- Whether a list is less than another one: the first items that differ decide, or the length. -/
def lessItems : List Datum → List Datum → Except Incomparable Bool
  | _, [] => .ok false
  | [], _ :: _ => .ok true
  | a :: as, b :: bs => if same a b then lessItems as bs else less a b

end

end Datum

end NetSurvey
