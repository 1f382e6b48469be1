import NetSurvey.Number.Basic
import NetSurvey.Text.Fields
import NetSurvey.Text.Quoted

/-!
# Plain data

Candidates, details of outcomes and the bodies of requests are plain data: nothing, truth values,
numbers, texts, lists and records. A record keeps its fields in the order in which they were first
set; setting a field again changes its value and not its place.
-/

namespace NetSurvey

/-- A piece of plain data. -/
inductive Datum where
  | null
  | bool (b : Bool)
  | number (n : Number)
  | text (s : Text)
  | list (items : List Datum)
  | record (fields : List (Text × Datum))
deriving Inhabited

-- Lists and records hold data in turn, so all three equalities are decided together.
mutual

/-- Whether two data are the same, of the same kind and with their fields in the same order. -/
def Datum.decEq (a b : Datum) : Decidable (a = b) :=
  match a with
  | .null =>
    match b with
    | .null => isTrue rfl
    | .bool _ | .number _ | .text _ | .list _ | .record _ => isFalse nofun
  | .bool a =>
    match b with
    | .bool b => decidable_of_iff (a = b) (by simp)
    | .null | .number _ | .text _ | .list _ | .record _ => isFalse nofun
  | .number a =>
    match b with
    | .number b => decidable_of_iff (a = b) (by simp)
    | .null | .bool _ | .text _ | .list _ | .record _ => isFalse nofun
  | .text a =>
    match b with
    | .text b => decidable_of_iff (a = b) (by simp)
    | .null | .bool _ | .number _ | .list _ | .record _ => isFalse nofun
  | .list as =>
    match b with
    | .list bs =>
      haveI := decEqItems as bs
      decidable_of_iff (as = bs) (by simp)
    | .null | .bool _ | .number _ | .text _ | .record _ => isFalse nofun
  | .record as =>
    match b with
    | .record bs =>
      haveI := decEqFields as bs
      decidable_of_iff (as = bs) (by simp)
    | .null | .bool _ | .number _ | .text _ | .list _ => isFalse nofun

/-- Whether two lists of data are the same. -/
def Datum.decEqItems (as bs : List Datum) : Decidable (as = bs) :=
  match as, bs with
  | [], [] => isTrue rfl
  | a :: as, b :: bs =>
    haveI := decEq a b
    haveI := decEqItems as bs
    decidable_of_iff (a = b ∧ as = bs) (by simp)
  | [], _ :: _ | _ :: _, [] => isFalse nofun

/-- Whether two lists of fields are the same. -/
def Datum.decEqFields (as bs : List (Text × Datum)) : Decidable (as = bs) :=
  match as, bs with
  | [], [] => isTrue rfl
  | (k, a) :: as, (l, b) :: bs =>
    haveI := decEq a b
    haveI := decEqFields as bs
    decidable_of_iff ((k = l ∧ a = b) ∧ as = bs) (by simp)
  | [], _ :: _ | _ :: _, [] => isFalse nofun

end

instance : DecidableEq Datum := Datum.decEq

/-- The fields of a record. -/
abbrev Fields := List (Text × Datum)

namespace Fields

/-- The value of a field. -/
def get? (fields : Fields) (key : Text) : Option Datum :=
  fields.lookup key

/-- Sets a field, in its place if it is there, and at the end otherwise. -/
def set : Fields → Text → Datum → Fields
  | [], key, value => [(key, value)]
  | (k, v) :: fields, key, value =>
    if k = key then (k, value) :: fields else (k, v) :: set fields key value

/-- Sets the fields of one record in another, one after the other. -/
def update (fields new : Fields) : Fields :=
  new.foldl (fun acc kv => acc.set kv.1 kv.2) fields

/-- The names of the fields, in order. -/
def keys (fields : Fields) : List Text :=
  fields.map (·.1)

@[simp]
theorem keys_nil : keys [] = [] := rfl

@[simp]
theorem keys_cons (k : Text) (v : Datum) (fields : Fields) :
    keys ((k, v) :: fields) = k :: keys fields := rfl

/-- Setting a field that is there keeps the names. -/
theorem keys_set_of_mem {fields : Fields} {key : Text} (h : key ∈ keys fields) (value : Datum) :
    keys (fields.set key value) = keys fields := by
  induction fields with
  | nil => simp at h
  | cons kv fields ih =>
    obtain ⟨k, v⟩ := kv
    by_cases hk : k = key
    · simp [set, hk]
    · simp only [keys_cons, List.mem_cons, Ne.symm hk, false_or] at h
      simp [set, hk, ih h]

/-- Setting a new field puts its name at the end. -/
theorem set_of_not_mem {fields : Fields} {key : Text} (h : key ∉ keys fields) (value : Datum) :
    fields.set key value = fields ++ [(key, value)] := by
  induction fields with
  | nil => rfl
  | cons kv fields ih =>
    obtain ⟨k, v⟩ := kv
    simp only [keys_cons, List.mem_cons, not_or] at h
    simp [set, Ne.symm h.1, ih h.2]

end Fields

namespace Datum

/-- An integer as data. -/
abbrev int (n : Int) : Datum := .number (.int n)

/-- Whether a datum counts as present: not nothing, not false, not zero and not empty. -/
def isPresent : Datum → Bool
  | null => false
  | bool b => b
  | number n => !n.isZero
  | text s => !s.isEmpty
  | list items => !items.isEmpty
  | record fields => !fields.isEmpty

mutual

/-- A datum as it is shown inside a message: texts are quoted. -/
def shown : Datum → Text
  | null => "None"
  | bool b => if b then "True" else "False"
  | number n => n.text
  | text s => Text.quoted s
  | list items => "[" ++ Text.commaSeparated (shownItems items) ++ "]"
  | record fields => "\x7b" ++ Text.commaSeparated (shownFields fields) ++ "\x7d"

/-- The items of a list as they are shown. -/
def shownItems : List Datum → List Text
  | [] => []
  | d :: ds => d.shown :: shownItems ds

/-- The fields of a record as they are shown. -/
def shownFields : List (Text × Datum) → List Text
  | [] => []
  | (k, d) :: fields => (Text.quoted k ++ ": " ++ d.shown) :: shownFields fields

end

/-- A datum as text: a text is itself, and anything else is as shown. -/
def display : Datum → Text
  | text s => s
  | d => d.shown

/-- The word for the kind of a datum. -/
def kindName : Datum → String
  | null => "NoneType"
  | bool _ => "bool"
  | number (.int _) => "int"
  | number (.float _) => "float"
  | text _ => "str"
  | list _ => "list"
  | record _ => "dict"

/-- What a datum is made of: the items of a list, the names of a record's fields, or the code points
of a text, one by one. Nothing else is made of anything. -/
def parts? : Datum → Option (List Datum)
  | list items => some items
  | record fields => some (fields.map fun kv => .text kv.1)
  | text s => some (s.map fun c => .text [c])
  | _ => none

/-- Whether a datum can be a key: lists and records, which can change, cannot. -/
def isKey : Datum → Bool
  | list _ => false
  | record _ => false
  | _ => true

end Datum

end NetSurvey
