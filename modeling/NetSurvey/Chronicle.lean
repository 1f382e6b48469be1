/-!
# Chronicles

A chronicle is a sequence that grows at its end and is read from its beginning. Adding takes the
same time however long the chronicle is, since the newest item stands first.
-/

namespace NetSurvey

/-- A sequence that grows at its end. -/
structure Chronicle (α : Type) where
  newestFirst : List α := []

namespace Chronicle

variable {α : Type}

/-- A chronicle with nothing in it. -/
def empty : Chronicle α := {}

/-- Adds an item at the end. -/
def add (c : Chronicle α) (a : α) : Chronicle α :=
  ⟨a :: c.newestFirst⟩

/-- Adds items at the end, one after the other. -/
def addAll (c : Chronicle α) (as : List α) : Chronicle α :=
  ⟨as.reverseAux c.newestFirst⟩

/-- The items in the order in which they were added. -/
def toList (c : Chronicle α) : List α := c.newestFirst.reverse

/-- The number of items. -/
def size (c : Chronicle α) : Nat := c.newestFirst.length

@[simp]
theorem toList_add (c : Chronicle α) (a : α) : (c.add a).toList = c.toList ++ [a] := by
  simp [add, toList]

@[simp]
theorem toList_addAll (c : Chronicle α) (as : List α) :
    (c.addAll as).toList = c.toList ++ as := by
  simp [addAll, toList, List.reverseAux_eq]

@[simp]
theorem length_toList (c : Chronicle α) : c.toList.length = c.size := by
  simp [toList, size]

@[simp]
theorem size_add (c : Chronicle α) (a : α) : (c.add a).size = c.size + 1 := rfl

end Chronicle

end NetSurvey
