import Mathlib.Data.List.InsertIdx
import Mathlib.Order.Lattice
import NetSurvey.Datum.Order
import NetSurvey.Proofs.Activity

/-!
# Sorting

Sorting may fail at two items that cannot be compared. Where every comparison of the items at hand
succeeds and goes by a key in a linear order (`GoesBy`), sorting succeeds, and its result has the
same items in ascending order of their keys (`sorted_of_goesBy`).

The argument follows the parts: the run at the front is read in the right direction, the place of
a further item is found by halving (`IsPlace`), and an item that is put there keeps the order.
-/

namespace NetSurvey.Sorting

variable {ε α κ : Type} [LinearOrder κ] {less : α → α → Except ε Bool} {key : α → κ} {P : α → Prop}

/-- Items of a kind are compared by their keys. -/
def GoesBy (less : α → α → Except ε Bool) (key : α → κ) (P : α → Prop) : Prop :=
  ∀ a b, P a → P b → less a b = .ok (decide (key a < key b))

/-- The keys of items ascend. -/
def Ascends (key : α → κ) (as : List α) : Prop :=
  as.Pairwise (key · ≤ key ·)

/-! ### The place of an item -/

/-- The place of an item is from `l` on and not behind `r`: the items before `l` are not greater,
and those from `r` on are greater. -/
structure IsPlace (key : α → κ) (a : α) (as : Array α) (l r : Nat) : Prop where
  le : l ≤ r
  le_size : r ≤ as.size
  below : ∀ i (h : i < as.size), i < l → key as[i] ≤ key a
  above : ∀ i (h : i < as.size), r ≤ i → key a < key as[i]

theorem ascends_getElem {as : Array α} (h : Ascends key as.toList) {i j : Nat} (hij : i ≤ j)
    (hj : j < as.size) : key as[i] ≤ key as[j] := by
  obtain rfl | hlt := Nat.eq_or_lt_of_le hij
  · exact le_rfl
  · exact List.pairwise_iff_getElem.mp h i j (by simpa using hlt.trans hj) hj hlt

/-- Halving comes to the one place where the item can stand. -/
theorem place_of_goesBy (hless : GoesBy less key P) {a : α} (ha : P a) {as : Array α}
    (has : ∀ b ∈ as, P b) (hsorted : Ascends key as.toList) {l r : Nat}
    (hplace : IsPlace key a as l r) (h : r ≤ as.size) :
    ∃ i, place less a as l r h = .ok i ∧ IsPlace key a as i i := by
  fun_induction place less a as l r h with
  | case1 l r h hlr hm e he =>
    rw [hless a _ ha (has _ (Array.getElem_mem hm))] at he
    cases he
  | case2 l r h hlr hm htrue ih =>
    rw [hless a _ ha (has _ (Array.getElem_mem hm))] at htrue
    have hlt := of_decide_eq_true (Except.ok.inj htrue)
    refine ih ⟨by omega, by omega, hplace.below, fun i hi hle => ?_⟩
    exact hlt.trans_le (ascends_getElem hsorted hle hi)
  | case3 l r h hlr hm hfalse ih =>
    rw [hless a _ ha (has _ (Array.getElem_mem hm))] at hfalse
    have hle := not_lt.mp (of_decide_eq_false (Except.ok.inj hfalse))
    refine ih ⟨by omega, h, fun i hi hlt => ?_, hplace.above⟩
    exact (ascends_getElem hsorted (by omega) hm).trans hle
  | case4 l r h hlr =>
    have heq : l = r := by have := hplace.le; omega
    exact ⟨l, rfl, heq ▸ hplace⟩

/-- An item that is put behind those that are not greater keeps the order. -/
theorem ascends_insertIdx {as : List α} (h : Ascends key as) {a : α} {i : Nat}
    (hbelow : ∀ b ∈ as.take i, key b ≤ key a) (habove : ∀ b ∈ as.drop i, key a ≤ key b) :
    Ascends key (as.insertIdx i a) := by
  induction as generalizing i with
  | nil =>
    cases i with
    | zero => exact List.pairwise_singleton _ _
    | succ i => exact .nil
  | cons b as ih =>
    obtain ⟨hb, has⟩ := List.pairwise_cons.mp h
    cases i with
    | zero => exact List.pairwise_cons.mpr ⟨habove, h⟩
    | succ i =>
      rw [List.insertIdx_succ_cons]
      refine List.pairwise_cons.mpr ⟨fun c hc => ?_, ih has ?_ habove⟩
      · obtain rfl | hc := List.eq_or_mem_of_mem_insertIdx hc
        · exact hbelow b List.mem_cons_self
        · exact hb c hc
      · exact fun c hc => hbelow c (List.mem_cons_of_mem b hc)

theorem insert_of_goesBy (hless : GoesBy less key P) {a : α} (ha : P a) {as : Array α}
    (has : ∀ b ∈ as, P b) (hsorted : Ascends key as.toList) :
    ∃ bs : Array α, insert less as a = .ok bs ∧ bs.toList.Perm (a :: as.toList) ∧
      Ascends key bs.toList := by
  have hstart : IsPlace key a as 0 as.size := ⟨Nat.zero_le _, le_rfl, nofun, by omega⟩
  obtain ⟨i, hi, hplace⟩ := place_of_goesBy hless ha has hsorted hstart le_rfl
  refine ⟨as.insertIdx i a hplace.le_size, ?_, ?_, ?_⟩
  · rw [insert, hi]
    exact congrArg Except.ok (dif_pos hplace.le_size)
  · rw [Array.toList_insertIdx]
    exact List.perm_insertIdx a _ hplace.le_size
  · rw [Array.toList_insertIdx]
    refine ascends_insertIdx hsorted (fun b hb => ?_) fun b hb => ?_
    · obtain ⟨j, hj, rfl⟩ := List.mem_take_iff_getElem.mp hb
      exact hplace.below j (by simp at hj; omega) (by omega)
    · obtain ⟨j, hj, rfl⟩ := List.mem_drop_iff_getElem.mp hb
      exact (hplace.above (i + j) (by simp at hj; omega) (by omega)).le

/-! ### The run at the front -/

/-- Each item that is read is less than those read before, so the last one first is the right
direction. -/
theorem descend_of_goesBy (hless : GoesBy less key P) {last : α} {read as : List α}
    (hP : ∀ a ∈ last :: read ++ as, P a) (hread : Ascends key (last :: read)) :
    ∃ run rest, descend less last read as = .ok (run, rest) ∧
      (run ++ rest).Perm (last :: read ++ as) ∧ Ascends key run := by
  induction as generalizing last read with
  | nil => exact ⟨last :: read, [], rfl, .refl _, hread⟩
  | cons a as ih =>
    have hperm : (a :: last :: read ++ as).Perm (last :: read ++ a :: as) := List.perm_middle.symm
    have hcompare := hless a last (hP a (by simp)) (hP last (by simp))
    by_cases hlt : key a < key last
    · have hnext : Ascends key (a :: last :: read) := by
        refine List.pairwise_cons.mpr ⟨fun b hb => ?_, hread⟩
        obtain rfl | hb := List.mem_cons.mp hb
        · exact hlt.le
        · exact hlt.le.trans (List.rel_of_pairwise_cons hread hb)
      obtain ⟨run, rest, hrun, hitems, hascends⟩ :=
        ih (fun b hb => hP b (hperm.mem_iff.mp hb)) hnext
      refine ⟨run, rest, ?_, hitems.trans hperm, hascends⟩
      rw [descend, hcompare, decide_eq_true hlt]
      exact hrun
    · refine ⟨last :: read, a :: as, ?_, .refl _, hread⟩
      rw [descend, hcompare, decide_eq_false hlt]
      rfl

/-- No item that is read is less than one read before, so the first one first is the right
direction. -/
theorem ascend_of_goesBy (hless : GoesBy less key P) {last : α} {read as : List α}
    (hP : ∀ a ∈ last :: read ++ as, P a) (hread : Ascends key (last :: read).reverse) :
    ∃ run rest, ascend less last read as = .ok (run, rest) ∧
      (run ++ rest).Perm (last :: read ++ as) ∧ Ascends key run.reverse := by
  induction as generalizing last read with
  | nil => exact ⟨last :: read, [], rfl, .refl _, hread⟩
  | cons a as ih =>
    have hperm : (a :: last :: read ++ as).Perm (last :: read ++ a :: as) := List.perm_middle.symm
    have hcompare := hless a last (hP a (by simp)) (hP last (by simp))
    by_cases hlt : key a < key last
    · refine ⟨last :: read, a :: as, ?_, .refl _, hread⟩
      rw [ascend, hcompare, decide_eq_true hlt]
      rfl
    · have hnext : Ascends key (a :: last :: read).reverse := by
        rw [Ascends, List.pairwise_reverse] at hread ⊢
        refine List.pairwise_cons.mpr ⟨fun b hb => ?_, hread⟩
        obtain rfl | hb := List.mem_cons.mp hb
        · exact not_lt.mp hlt
        · exact (List.rel_of_pairwise_cons hread hb).trans (not_lt.mp hlt)
      obtain ⟨run, rest, hrun, hitems, hascends⟩ :=
        ih (fun b hb => hP b (hperm.mem_iff.mp hb)) hnext
      refine ⟨run, rest, ?_, hitems.trans hperm, hascends⟩
      rw [ascend, hcompare, decide_eq_false hlt]
      exact hrun

theorem firstRun_of_goesBy (hless : GoesBy less key P) {as : List α} (hP : ∀ a ∈ as, P a) :
    ∃ run rest, firstRun less as = .ok (run, rest) ∧ (run ++ rest).Perm as ∧ Ascends key run := by
  match as with
  | [] => exact ⟨[], [], rfl, .refl _, .nil⟩
  | [a] => exact ⟨[a], [], rfl, .refl _, List.pairwise_singleton _ _⟩
  | a :: b :: as =>
    have hcompare := hless b a (hP b (by simp)) (hP a (by simp))
    have hP' : ∀ c ∈ b :: [a] ++ as, P c := fun c hc => hP c (by simpa [or_left_comm] using hc)
    by_cases hlt : key b < key a
    · obtain ⟨run, rest, hrun, hitems, hascends⟩ := descend_of_goesBy hless hP'
        (List.pairwise_pair.mpr hlt.le)
      refine ⟨run, rest, ?_, hitems.trans (.swap a b as), hascends⟩
      rw [firstRun, hcompare, decide_eq_true hlt]
      exact hrun
    · obtain ⟨run, rest, hrun, hitems, hascends⟩ := ascend_of_goesBy hless hP'
        (List.pairwise_pair.mpr (not_lt.mp hlt))
      refine ⟨run.reverse, rest, ?_, ?_, hascends⟩
      · rw [firstRun, hcompare, decide_eq_false hlt]
        exact bind_eq_ok_iff.mpr ⟨false, rfl, bind_eq_ok_iff.mpr ⟨(run, rest), hrun, rfl⟩⟩
      · exact ((List.reverse_perm run).append_right rest).trans (hitems.trans (.swap a b as))

/-! ### All items -/

theorem foldlM_insert_of_goesBy (hless : GoesBy less key P) {run : Array α} {rest : List α}
    (hP : ∀ a ∈ run.toList ++ rest, P a) (hrun : Ascends key run.toList) :
    ∃ all : Array α, rest.foldlM (insert less) run = .ok all ∧
      all.toList.Perm (run.toList ++ rest) ∧ Ascends key all.toList := by
  induction rest generalizing run with
  | nil => exact ⟨run, rfl, by simp, hrun⟩
  | cons a rest ih =>
    obtain ⟨next, hinsert, hitems, hnext⟩ := insert_of_goesBy hless (hP a (by simp))
      (fun b hb => hP b (by simp [hb])) hrun
    have hperm : (next.toList ++ rest).Perm (run.toList ++ a :: rest) :=
      (hitems.append_right rest).trans List.perm_middle.symm
    obtain ⟨all, hall, hall_items, hascends⟩ := ih (fun b hb => hP b (hperm.mem_iff.mp hb)) hnext
    refine ⟨all, ?_, hall_items.trans hperm, hascends⟩
    rw [List.foldlM_cons, hinsert]
    exact hall

/-- **Sorting sorts.** Where the items can be compared by their keys, sorting comes to the same
items in ascending order of their keys. -/
theorem sorted_of_goesBy (hless : GoesBy less key P) {as : List α} (hP : ∀ a ∈ as, P a) :
    ∃ bs, sorted less as = .ok bs ∧ bs.Perm as ∧ Ascends key bs := by
  obtain ⟨run, rest, hrun, hitems, hascends⟩ := firstRun_of_goesBy hless hP
  have hstart : Ascends key run.toArray.toList := hascends
  obtain ⟨all, hall, hall_items, hall_ascends⟩ := foldlM_insert_of_goesBy hless
    (fun a ha => hP a (hitems.mem_iff.mp ha)) hstart
  refine ⟨all.toList, ?_, hall_items.trans hitems, hall_ascends⟩
  rw [sorted, hrun]
  exact bind_eq_ok_iff.mpr ⟨(run, rest), rfl, bind_eq_ok_iff.mpr ⟨all, hall, rfl⟩⟩

end NetSurvey.Sorting
