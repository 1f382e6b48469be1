import Mathlib.Algebra.BigOperators.Group.List.Lemmas
import Mathlib.Algebra.GroupWithZero.Nat
import Mathlib.Data.List.Dedup
import Mathlib.Data.List.Forall2
import Mathlib.Data.List.Lex
import NetSurvey.Proofs.Datum.Sorting
import NetSurvey.Proofs.Scan.Findings
import NetSurvey.Scan.Subdomain

/-!
# Names grouped by address

`IsGrouping` says what it is to group names by address: the addresses ascend and are those that were
found, and under each of them the names ascend, each as often as the address was found for it. There
is one such grouping, and it does not depend on the order in which the names were found
(`IsGrouping.unique`).

The groups are formed in the order in which the addresses are first met (`Grouped`), and then they
and their names are sorted, which does not fail, since they are texts.
-/

namespace NetSurvey

namespace Text

/-- The numbers of the code points of a text, by which texts are ordered. -/
def codes (t : Text) : List Nat :=
  t.map CodePoint.toNat

theorem codes_injective : Function.Injective codes :=
  List.map_injective_iff.mpr fun _ _ => CodePoint.toNat_injective

theorem precedes_eq (s t : Text) : s.precedes t = decide (s.codes < t.codes) :=
  decide_eq_decide.mpr Iff.rfl

end Text

/-- Items are as many as there are of each of them together. -/
theorem sum_length_filter {κ : Type} [DecidableEq κ] {keys items : List κ} (hnodup : keys.Nodup)
    (hmem : ∀ key, key ∈ keys ↔ key ∈ items) :
    (keys.map fun key => (items.filter (· = key)).length).sum = items.length := by
  have hcount (key : κ) : (items.filter (· = key)).length = items.count key := by
    rw [List.filter_eq, List.length_replicate]
  have hperm : keys.Perm items.dedup := by
    refine (List.perm_ext_iff_of_nodup hnodup (List.nodup_dedup _)).mpr fun key => ?_
    rw [List.mem_dedup, hmem]
  simp only [hcount]
  rw [(hperm.map _).sum_eq, List.sum_map_count_dedup_eq_length]

namespace Scan

open Schedule Probe Sorting

/-! ### What a grouping is -/

/-- Groups of names by address, of names that were found with their addresses. -/
structure IsGrouping (found groups : List (Text × List Text)) : Prop where
  ascending : groups.Pairwise fun g h => g.1.precedes h.1 = true
  mem_iff : ∀ address, (∃ g ∈ groups, g.1 = address) ↔ ∃ f ∈ found, address ∈ f.2
  names_ascending : ∀ g ∈ groups, g.2.Pairwise fun s t => t.precedes s = false
  count_eq : ∀ g ∈ groups, ∀ name,
    g.2.count name = ((found.filter (·.1 = name)).map (·.2.count g.1)).sum

namespace IsGrouping

variable {found found' groups groups' : List (Text × List Text)}

theorem of_perm (h : IsGrouping found groups) (hperm : found.Perm found') :
    IsGrouping found' groups where
  ascending := h.ascending
  mem_iff address := by
    rw [h.mem_iff]
    simp only [hperm.mem_iff]
  names_ascending := h.names_ascending
  count_eq g hg name := by
    rw [h.count_eq g hg]
    exact ((hperm.filter _).map _).sum_eq

/-- Names in ascending order are known by how often each of them occurs. -/
theorem names_eq {names names' : List Text} (h : names.Pairwise fun s t => t.precedes s = false)
    (h' : names'.Pairwise fun s t => t.precedes s = false)
    (hcount : ∀ name, names.count name = names'.count name) : names = names' := by
  refine List.Perm.eq_of_pairwise (fun s t _ _ hst hts => ?_) h h' (List.perm_iff_count.mpr hcount)
  rw [Text.precedes_eq, decide_eq_false_iff_not, not_lt] at hst hts
  exact Text.codes_injective (le_antisymm hst hts)

theorem nodup (h : IsGrouping found groups) : groups.Nodup := by
  refine h.ascending.imp fun {g k} hgk heq => ?_
  rw [heq, Text.precedes_eq, decide_eq_true_iff] at hgk
  exact lt_irrefl _ hgk

theorem mem_of_mem (h : IsGrouping found groups) (h' : IsGrouping found groups')
    {g : Text × List Text} (hg : g ∈ groups) : g ∈ groups' := by
  have haddress : ∃ f ∈ found, g.1 ∈ f.2 := (h.mem_iff g.1).mp ⟨g, hg, rfl⟩
  obtain ⟨g', hg', heq⟩ := (h'.mem_iff g.1).mpr haddress
  have hnames : g.2 = g'.2 := by
    refine names_eq (h.names_ascending g hg) (h'.names_ascending g' hg') fun name => ?_
    rw [h.count_eq g hg, h'.count_eq g' hg', heq]
  rwa [Prod.ext heq.symm hnames]

/-- There is one grouping of what was found. -/
theorem unique (h : IsGrouping found groups) (h' : IsGrouping found groups') :
    groups = groups' := by
  have hperm : groups.Perm groups' :=
    (List.perm_ext_iff_of_nodup h.nodup h'.nodup).mpr fun g => ⟨h.mem_of_mem h', h'.mem_of_mem h⟩
  refine List.Perm.eq_of_pairwise (fun g k _ _ hgk hkg => ?_) h.ascending h'.ascending hperm
  rw [Text.precedes_eq, decide_eq_true_iff] at hgk hkg
  exact absurd hgk hkg.asymm

end IsGrouping

/-! ### What was found -/

/-- An outcome is about a name with addresses. -/
structure Finds (o : Outcome) (f : Text × List Text) : Prop where
  candidate_eq : o.candidate = .text f.1
  addresses_eq : addressesOf o = .ok (f.2.map .text)

/-- Every address that was found, with the name that it was found for. -/
def occurrences (found : List (Text × List Text)) : List (Text × Text) :=
  found.flatMap fun f => f.2.map fun address => (address, f.1)

/-- An address and a name as data. -/
def pairOf (p : Text × Text) : Datum × Datum :=
  (.text p.1, .text p.2)

/-- Names under an address as data. -/
def groupOf (g : Text × List Text) : Group :=
  ⟨.text g.1, g.2.map .text⟩

theorem addressPairs_of_finds {r : Report} {found : List (Text × List Text)}
    (h : List.Forall₂ Finds r.summary.positives found) :
    addressPairs r = .ok ((occurrences found).map pairOf) := by
  rw [addressPairs]
  refine bind_eq_ok_iff.mpr ⟨found.map fun f => f.2.map fun address => pairOf (address, f.1),
    mapM_of_forall₂ (h.imp fun o f hf => ?_), congrArg Except.ok ?_⟩
  · rw [hf.addresses_eq, hf.candidate_eq, ok_bind]
    refine mapM_of_forall₂ (List.forall₂_map_left_iff.mpr ?_)
    exact List.forall₂_same.mpr fun address _ => rfl
  · rw [occurrences, List.flatMap_def, List.map_flatten, List.map_map]
    simp [Function.comp_def]

theorem mem_occurrences {found : List (Text × List Text)} {address : Text} :
    address ∈ (occurrences found).map (·.1) ↔ ∃ f ∈ found, address ∈ f.2 := by
  simp [occurrences]

theorem length_occurrences (found : List (Text × List Text)) :
    (occurrences found).length = (found.map (·.2.length)).sum := by
  simp [occurrences, List.length_flatMap]

/-- A name is found for an address as often as the address is among the answers for the name. -/
theorem count_occurrences (found : List (Text × List Text)) (address name : Text) :
    (((occurrences found).filter (·.1 = address)).map (·.2)).count name =
      ((found.filter (·.1 = name)).map (·.2.count address)).sum := by
  induction found with
  | nil => rfl
  | cons f found ih =>
    have hfirst : ((f.2.map fun a => (a, f.1)).filter (·.1 = address)).map (·.2) =
        List.replicate (f.2.count address) f.1 := by
      simp [List.filter_map, Function.comp_def, List.filter_eq]
    rw [occurrences, List.flatMap_cons, List.filter_append, List.map_append, List.count_append,
      hfirst, List.count_replicate, ← occurrences, ih]
    by_cases hname : f.1 = name
    · simp [hname]
    · simp [hname]

/-! ### Groups as they are met -/

/-- Groups of pairs: each address that is met has one group, which holds its names in order. -/
structure Grouped (pairs : List (Text × Text)) (groups : List (Text × List Text)) : Prop where
  nodup : (groups.map (·.1)).Nodup
  mem_iff : ∀ address, address ∈ groups.map (·.1) ↔ address ∈ pairs.map (·.1)
  names_eq : ∀ g ∈ groups, g.2 = (pairs.filter (·.1 = g.1)).map (·.2)

section Grouped

variable {pairs : List (Text × Text)} {groups before after : List (Text × List Text)}
  {address name : Text} {names : List Text}

theorem same_groupOf (g : Text × List Text) (address : Text) :
    (groupOf g).address.same (.text address) = (g.1 == address) := by
  simp [groupOf, Datum.same]

theorem addToGroup_of_not_mem (h : address ∉ groups.map (·.1)) (name : Text) :
    addToGroup (.text address) (.text name) (groups.map groupOf) =
      (groups ++ [(address, [name])]).map groupOf := by
  induction groups with
  | nil => rfl
  | cons g groups ih =>
    rw [List.map_cons, List.mem_cons, not_or] at h
    rw [List.map_cons, addToGroup, same_groupOf, beq_false_of_ne (Ne.symm h.1),
      if_neg Bool.false_ne_true, ih h.2]
    rfl

theorem addToGroup_of_mem (h : address ∉ before.map (·.1)) (name : Text) :
    addToGroup (.text address) (.text name) ((before ++ (address, names) :: after).map groupOf) =
      (before ++ (address, names ++ [name]) :: after).map groupOf := by
  induction before with
  | nil =>
    rw [List.nil_append, List.map_cons, addToGroup, same_groupOf, beq_self_eq_true, if_pos rfl]
    simp [groupOf]
  | cons g before ih =>
    rw [List.map_cons, List.mem_cons, not_or] at h
    rw [List.cons_append, List.map_cons, addToGroup, same_groupOf, beq_false_of_ne (Ne.symm h.1),
      if_neg Bool.false_ne_true, ih h.2]
    rfl

/-- The names of an address after another pair. -/
theorem names_append (pairs : List (Text × Text)) (address name key : Text) :
    ((pairs ++ [(address, name)]).filter (·.1 = key)).map (·.2) =
      (pairs.filter (·.1 = key)).map (·.2) ++ if address = key then [name] else [] := by
  rw [List.filter_append, List.map_append]
  by_cases h : address = key
  · simp [h]
  · simp [h]

theorem Grouped.names_eq_append (h : Grouped pairs groups) {g : Text × List Text} (hg : g ∈ groups)
    (hne : address ≠ g.1) (name : Text) :
    g.2 = ((pairs ++ [(address, name)]).filter (·.1 = g.1)).map (·.2) := by
  rw [names_append, if_neg hne, List.append_nil]
  exact h.names_eq g hg

theorem Grouped.not_mem {g : Text × List Text} (h : Grouped pairs (before ++ g :: after)) :
    g.1 ∉ before.map (·.1) ∧ g.1 ∉ after.map (·.1) := by
  have hnodup := h.nodup
  rw [List.map_append, List.map_cons, List.nodup_middle, List.nodup_cons, List.mem_append,
    not_or] at hnodup
  exact hnodup.1

/-- Another pair of an address that has a group. -/
theorem Grouped.append_of_mem {g : Text × List Text} (h : Grouped pairs (before ++ g :: after))
    (name : Text) :
    Grouped (pairs ++ [(g.1, name)]) (before ++ (g.1, g.2 ++ [name]) :: after) := by
  have hg : g ∈ before ++ g :: after := by simp
  have hkeys : (before ++ (g.1, g.2 ++ [name]) :: after).map (·.1) =
      (before ++ g :: after).map (·.1) := by simp
  refine ⟨hkeys ▸ h.nodup, fun a => ?_, fun k hk => ?_⟩
  · have hmet : g.1 ∈ pairs.map (·.1) := (h.mem_iff g.1).mp (List.mem_map_of_mem hg)
    rw [hkeys, h.mem_iff, List.map_append, List.mem_append]
    exact (or_iff_left_of_imp fun ha => List.mem_singleton.mp ha ▸ hmet).symm
  · obtain ⟨hbefore, hafter⟩ := h.not_mem
    obtain hk | hk := List.mem_append.mp hk
    · refine h.names_eq_append (List.mem_append_left _ hk) (fun heq => hbefore ?_) name
      exact heq ▸ List.mem_map_of_mem hk
    obtain rfl | hk := List.mem_cons.mp hk
    · rw [names_append, if_pos rfl, ← h.names_eq g hg]
    · refine h.names_eq_append (List.mem_append_right _ (List.mem_cons_of_mem g hk))
        (fun heq => hafter ?_) name
      exact heq ▸ List.mem_map_of_mem hk

/-- A pair of an address that has no group. -/
theorem Grouped.append_of_not_mem (h : Grouped pairs groups) (hnew : address ∉ groups.map (·.1))
    (name : Text) : Grouped (pairs ++ [(address, name)]) (groups ++ [(address, [name])]) := by
  refine ⟨?_, fun a => ?_, fun g hg => ?_⟩
  · rw [List.map_append]
    refine List.nodup_append.mpr ⟨h.nodup, List.nodup_singleton _, fun a ha b hb heq => hnew ?_⟩
    have hb : b = address := List.mem_singleton.mp hb
    rwa [← hb, ← heq]
  · rw [List.map_append, List.map_append, List.mem_append, List.mem_append, h.mem_iff]
    rfl
  · obtain hg | hg := List.mem_append.mp hg
    · refine h.names_eq_append hg (fun heq => hnew ?_) name
      exact heq ▸ List.mem_map_of_mem hg
    · obtain rfl := List.mem_singleton.mp hg
      have hnone : pairs.filter (·.1 = address) = [] := by
        refine List.filter_eq_nil_iff.mpr fun p hp heq => hnew ((h.mem_iff address).mpr ?_)
        exact List.mem_map.mpr ⟨p, hp, of_decide_eq_true heq⟩
      rw [names_append, if_pos rfl, hnone]
      rfl

/-- Another pair goes into the group of its address, or into a new one. -/
theorem Grouped.exists_addToGroup (h : Grouped pairs groups) (address name : Text) :
    ∃ next, addToGroup (.text address) (.text name) (groups.map groupOf) = next.map groupOf ∧
      Grouped (pairs ++ [(address, name)]) next := by
  by_cases hmet : address ∈ groups.map (·.1)
  · obtain ⟨g, hg, rfl⟩ := List.mem_map.mp hmet
    obtain ⟨before, after, rfl⟩ := List.append_of_mem hg
    exact ⟨_, addToGroup_of_mem h.not_mem.1 name, h.append_of_mem name⟩
  · exact ⟨_, addToGroup_of_not_mem hmet name, h.append_of_not_mem hmet name⟩

theorem exists_groupPairs (pairs : List (Text × Text)) :
    ∃ groups, groupPairs (pairs.map pairOf) = groups.map groupOf ∧ Grouped pairs groups := by
  induction pairs using List.reverseRecOn with
  | nil => exact ⟨[], rfl, .nil, fun _ => .rfl, nofun⟩
  | append_singleton pairs p ih =>
    obtain ⟨groups, hgroups, hgrouped⟩ := ih
    obtain ⟨next, hnext, hgrouped'⟩ := hgrouped.exists_addToGroup p.1 p.2
    refine ⟨next, ?_, hgrouped'⟩
    rw [List.map_append, groupPairs, List.foldl_append, ← groupPairs, hgroups]
    exact hnext

/-- Every pair is in one group. -/
theorem Grouped.sum_length (h : Grouped pairs groups) :
    (groups.map (·.2.length)).sum = pairs.length := by
  have hlength : groups.map (·.2.length) =
      (groups.map (·.1)).map fun address => ((pairs.map (·.1)).filter (· = address)).length := by
    rw [List.map_map]
    refine List.map_congr_left fun g hg => ?_
    rw [h.names_eq g hg, List.length_map, Function.comp_apply, List.filter_map, List.length_map]
    rfl
  rw [hlength, sum_length_filter h.nodup h.mem_iff, List.length_map]

end Grouped

/-! ### Groups in order -/

/-- Items whose keys are texts can be put in ascending order. -/
theorem exists_ascending {α β : Type} (key : α → Datum) (f : β → α) (text : β → Text)
    (hkey : ∀ b, key (f b) = .text (text b)) (bs : List β) :
    ∃ cs : List β, ascending key (bs.map f) = .ok (cs.map f) ∧ cs.Perm bs ∧
      cs.Pairwise fun b c => (text c).precedes (text b) = false := by
  have hless : GoesBy (fun a b => (key a).less (key b)) (fun a => (key a).display.codes)
      (· ∈ Set.range f) := by
    rintro _ _ ⟨b, rfl⟩ ⟨c, rfl⟩
    simp only [hkey, Datum.less, Datum.display, Text.precedes_eq]
  have hrange : ∀ a ∈ bs.map f, a ∈ Set.range f := by simp
  obtain ⟨sorted, hsorted, hperm, hascends⟩ := sorted_of_goesBy hless hrange
  obtain ⟨cs, rfl, hcs⟩ := exists_of_perm_map hperm
  refine ⟨cs, ?_, hcs, ?_⟩
  · rw [ascending, hsorted]
    rfl
  · refine (List.pairwise_map.mp hascends).imp fun {b c} hle => ?_
    simpa only [hkey, Datum.display, Text.precedes_eq, decide_eq_false_iff_not, not_lt] using hle

/-- Names can be put in ascending order. -/
theorem exists_ascending_names (names : List Text) :
    ∃ sorted : List Text, ascending id (names.map .text) = .ok (sorted.map .text) ∧
      sorted.Perm names ∧ sorted.Pairwise fun s t => t.precedes s = false :=
  exists_ascending id .text id (fun _ => rfl) names

/-- The groups of what was found, once they and their names are in order. -/
theorem Grouped.isGrouping {found groups sorted : List (Text × List Text)}
    (h : Grouped (occurrences found) groups) (hperm : sorted.Perm groups)
    (hsorted : sorted.Pairwise fun g k => k.1.precedes g.1 = false)
    {arrange : List Text → List Text} (harrange : ∀ names, (arrange names).Perm names ∧
      (arrange names).Pairwise fun s t => t.precedes s = false) :
    IsGrouping found (sorted.map fun g => (g.1, arrange g.2)) where
  ascending := by
    have hnodup : (sorted.map (·.1)).Nodup := (hperm.map _).nodup_iff.mpr h.nodup
    have hboth := hsorted.and (List.pairwise_map.mp hnodup)
    refine List.pairwise_map.mpr (hboth.imp fun {g k} ⟨hle, hne⟩ => ?_)
    rw [Text.precedes_eq, decide_eq_false_iff_not, not_lt] at hle
    rw [Text.precedes_eq, decide_eq_true_iff]
    exact hle.lt_of_ne fun heq => hne (Text.codes_injective heq)
  mem_iff address := by
    have hmem : address ∈ groups.map (·.1) ↔ ∃ f ∈ found, address ∈ f.2 :=
      (h.mem_iff address).trans mem_occurrences
    rw [← hmem, ← (hperm.map (·.1)).mem_iff]
    simp
  names_ascending g hg := by
    obtain ⟨k, -, rfl⟩ := List.mem_map.mp hg
    exact (harrange k.2).2
  count_eq g hg name := by
    obtain ⟨k, hk, rfl⟩ := List.mem_map.mp hg
    rw [(harrange k.2).1.count_eq, h.names_eq k (hperm.mem_iff.mp hk), count_occurrences]

/-- Names that were found with their addresses are grouped by address. -/
theorem exists_byAddress {r : Report} {found : List (Text × List Text)}
    (h : List.Forall₂ Finds r.summary.positives found) :
    ∃ groups, byAddress r = .ok (groups.map groupOf) ∧ IsGrouping found groups ∧
      (groups.map (·.2.length)).sum = (found.map (·.2.length)).sum := by
  obtain ⟨groups, hgroups, hgrouped⟩ := exists_groupPairs (occurrences found)
  obtain ⟨sorted, hsorted, hperm, hascends⟩ :=
    exists_ascending Group.address groupOf (·.1) (fun _ => rfl) groups
  choose arrange harrange using exists_ascending_names
  refine ⟨sorted.map fun g => (g.1, arrange g.2), ?_,
    hgrouped.isGrouping hperm hascends fun names => (harrange names).2, ?_⟩
  · have hnames : (sorted.map groupOf).mapM (fun g => do
        return { g with names := ← ascending id g.names }) =
        .ok ((sorted.map fun g => (g.1, arrange g.2)).map groupOf) := by
      refine mapM_of_forall₂ ?_
      rw [List.forall₂_map_left_iff, List.forall₂_map_right_iff, List.forall₂_same]
      exact fun g _ => bind_eq_ok_iff.mpr ⟨_, (harrange g.2).1, rfl⟩
    rw [byAddress, addressPairs_of_finds h, ok_bind, hgroups, hsorted, ok_bind]
    exact hnames
  · have hlength : (sorted.map fun g => (g.1, arrange g.2)).map (·.2.length) =
        sorted.map (·.2.length) := by
      rw [List.map_map]
      exact List.map_congr_left fun g _ => (harrange g.2).2.1.length_eq
    rw [hlength, (hperm.map _).sum_eq, hgrouped.sum_length, length_occurrences]

/-- The order of what was found makes no difference to the groups. -/
theorem byAddress_of_perm {r r' : Report} {found : List (Text × List Text)}
    (h : List.Forall₂ Finds r.summary.positives found)
    (hperm : r'.summary.positives.Perm r.summary.positives) : byAddress r' = byAddress r := by
  obtain ⟨found', h', hfound⟩ := List.perm_comp_forall₂ hperm h
  obtain ⟨groups, hgroups, hgrouping, -⟩ := exists_byAddress h
  obtain ⟨groups', hgroups', hgrouping', -⟩ := exists_byAddress h'
  rw [hgroups, hgroups', (hgrouping'.of_perm hfound).unique hgrouping]

/-! ### Scans for subdomains -/

/-- What is recorded about a name that was found is the name with its addresses. -/
theorem exists_finds_nameFinding {w : World} {scanner : Scanner} {resolver : Resolver} {name : Text}
    (h : (nameFinding w scanner resolver name).positive = true) :
    ∃ f, Finds (nameFinding w scanner resolver name) f := by
  have htimed : (nameFinding w scanner resolver name).Timed (.text name) HasAddresses :=
    timed_nameFinding resolver name
  generalize nameFinding w scanner resolver name = o at h htimed
  cases htimed with
  | positive time hdetails =>
    obtain ⟨addresses, -, rfl⟩ := hdetails rfl
    exact ⟨(name, addresses), rfl, rfl⟩
  | negative => cases h

/-- A scan for subdomains that comes to a report comes to the same groups in every order. -/
theorem exists_groups_of_scan (w : World) (scanner : Scanner) (resolver : Resolver)
    (domain : Datum) (file : Option WordFile) :
    ∃ groups, ∀ order watch report,
      ((subdomains order w scanner resolver domain file).run watch).result = .ok report →
        byAddress report = .ok groups := by
  cases hwords : Survey.wordsOf scanner.settings domain file with
  | error e =>
    refine ⟨[], fun order watch report hreport => ?_⟩
    obtain ⟨words, hok, -⟩ := tells_subdomains hreport
    cases hwords.symm.trans hok
  | ok words =>
    -- The groups of a report with the findings in the order of the words.
    let findings := (words.map (Survey.nameUnder domain.display)).map
      (nameFinding w scanner resolver)
    let first : Report := ⟨domain.display, findings, .figures findings (.int 0) 0⟩
    have hpositive : ∀ o ∈ first.summary.positives, ∃ f, Finds o f := by
      intro o ho
      obtain ⟨hmem, ho⟩ := List.mem_filter.mp ho
      obtain ⟨name, -, rfl⟩ := List.mem_map.mp hmem
      exact exists_finds_nameFinding ho
    choose! found hfound using hpositive
    have hfinds : List.Forall₂ Finds first.summary.positives (first.summary.positives.map found) :=
      List.forall₂_map_right_iff.mpr (List.forall₂_same.mpr hfound)
    obtain ⟨groups, hgroups, -⟩ := exists_byAddress hfinds
    refine ⟨groups.map groupOf, fun order watch report hreport => ?_⟩
    obtain ⟨words', hok, htells⟩ := tells_subdomains hreport
    obtain rfl := Except.ok.inj (hwords.symm.trans hok)
    obtain ⟨outcomes, elapsed, rate, rfl, hperm⟩ := htells.exists_eq
    rw [byAddress_of_perm hfinds (hperm.filter _), hgroups]

/-- With workers and a stopwatch that gives doubles, a scan for subdomains comes to a report. -/
theorem exists_report_subdomains {scanner : Scanner} {domain : Datum} {file : Option WordFile}
    {words : List Text} (hwords : Survey.wordsOf scanner.settings domain file = .ok words)
    (hworkers : 1 ≤ scanner.workers) (hcount : words.length.log2 < 1023) (order : Order)
    (w : World) (resolver : Resolver) (readings : List Float) :
    ∃ report, ((subdomains order w scanner resolver domain file).run
      (readings.map .float)).result = .ok report := by
  have hcandidates : (Survey.subdomains resolver domain file).candidates scanner.settings =
      .ok (words.map fun word => .text (Survey.nameUnder domain.display word)) :=
    map_eq_ok_iff.mpr ⟨words, hwords, rfl⟩
  exact Survey.exists_report hcandidates hworkers (by rwa [List.length_map]) order w readings

/-- **Grouping by address.** Of names that were found with their addresses, the groups have the
addresses in strictly ascending order, exactly those that were found. Under each address the names
ascend, each as often as the address was found for it, so the groups together are as long as all
addresses that were found. Reports with the same positive outcomes, in whatever order, have equal
groups. So a scan for subdomains has the same groups in whatever order its probes end, and with
workers and a stopwatch that gives doubles it has them. -/
theorem grouping_by_address :
    (∀ (r : Report) (found : List (Text × List Text)),
      List.Forall₂ Finds r.summary.positives found →
      ∃ groups : List (Text × List Text), byAddress r = .ok (groups.map groupOf) ∧
        (groups.Pairwise fun g h => g.1.precedes h.1 = true) ∧
        (∀ address, (∃ g ∈ groups, g.1 = address) ↔ ∃ f ∈ found, address ∈ f.2) ∧
        (∀ g ∈ groups, (g.2.Pairwise fun s t => t.precedes s = false) ∧
          ∀ name, g.2.count name = ((found.filter (·.1 = name)).map (·.2.count g.1)).sum) ∧
        (groups.map (·.2.length)).sum = (found.map (·.2.length)).sum ∧
        ∀ r' : Report, r'.summary.positives.Perm r.summary.positives →
          byAddress r' = byAddress r) ∧
    ∀ (w : World) (scanner : Scanner) (resolver : Resolver) (domain : Datum)
      (file : Option WordFile), ∃ groups : List Group, ∀ order : Order,
        let scan := subdomains order w scanner resolver domain file
        (∀ watch report, (scan.run watch).result = .ok report → byAddress report = .ok groups) ∧
        ∀ words, Survey.wordsOf scanner.settings domain file = .ok words →
          1 ≤ scanner.workers → words.length.log2 < 1023 →
          ∀ readings : List Float, ∃ report, (scan.run (readings.map .float)).result = .ok report ∧
            byAddress report = .ok groups := by
  constructor
  · intro r found h
    obtain ⟨groups, hgroups, hgrouping, hlength⟩ := exists_byAddress h
    exact ⟨groups, hgroups, hgrouping.ascending, hgrouping.mem_iff,
      fun g hg => ⟨hgrouping.names_ascending g hg, hgrouping.count_eq g hg⟩, hlength,
      fun r' hperm => byAddress_of_perm h hperm⟩
  · intro w scanner resolver domain file
    obtain ⟨groups, hgroups⟩ := exists_groups_of_scan w scanner resolver domain file
    refine ⟨groups, fun order => ⟨hgroups order, fun words hwords hworkers hcount readings => ?_⟩⟩
    obtain ⟨report, hreport⟩ :=
      exists_report_subdomains hwords hworkers hcount order w resolver readings
    exact ⟨report, hreport, hgroups order _ report hreport⟩

/-- A name with an address that was found twice, and another with the same address: of the four
answers the address has three, and the order of the names makes no difference. A scan for two names
comes to the same groups in every order. -/
theorem grouping_by_address_repeated :
    let found : List (Text × List Text) :=
      [("b.h", ["192.0.2.2", "192.0.2.1", "192.0.2.1"]), ("a.h", ["192.0.2.1"])]
    let outcome (f : Text × List Text) : Outcome :=
      { candidate := .text f.1, positive := true, details := addressDetails f.2 }
    let report (outcomes : List Outcome) : Report :=
      ⟨"h", outcomes, .figures outcomes (.int 0) 0⟩
    let r := report (found.map outcome)
    let scanner : Scanner :=
      { settings := { subdomainWords := ["b", "a"] }, workers := 2, timeout := .int 1 }
    let scan order := subdomains order World.closed scanner .default (.text "h.example") none
    (∃ groups : List (Text × List Text), byAddress r = .ok (groups.map groupOf) ∧
      (groups.map (·.2.length)).sum = 4 ∧
      ∃ names : List Text, (.ofString "192.0.2.1", names) ∈ groups ∧
        names.count (.ofString "a.h") = 1 ∧ names.count (.ofString "b.h") = 2) ∧
    byAddress (report (found.map outcome).reverse) = byAddress r ∧
    ∃ groups, ∀ order, ∃ report, ((scan order).run [.float 1.0]).result = .ok report ∧
      byAddress report = .ok groups := by
  intro found outcome report r scanner scan
  have hfinds : List.Forall₂ Finds r.summary.positives found :=
    .cons ⟨rfl, rfl⟩ (.cons ⟨rfl, rfl⟩ .nil)
  have hwords : Survey.wordsOf scanner.settings (.text "h.example") none = .ok ["b", "a"] := by rfl
  obtain ⟨hreports, hscans⟩ := grouping_by_address
  obtain ⟨groups, hgroups, -, hmem, hnames, hlength, hperm⟩ := hreports r found hfinds
  refine ⟨⟨groups, hgroups, hlength, ?_⟩, hperm _ ((List.reverse_perm _).filter _), ?_⟩
  · obtain ⟨⟨_, names⟩, hg, rfl⟩ := (hmem "192.0.2.1").mpr ⟨_, List.mem_cons_self, by decide⟩
    have hcount := (hnames _ hg).2
    exact ⟨names, hg, hcount "a.h", hcount "b.h"⟩
  · obtain ⟨groups, hscan⟩ := hscans World.closed scanner .default (.text "h.example") none
    exact ⟨groups, fun order => (hscan order).2 _ hwords (by decide) (by decide) [1.0]⟩

end Scan

end NetSurvey
