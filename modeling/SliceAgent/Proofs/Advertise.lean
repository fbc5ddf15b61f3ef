import SliceAgent.Slice

/-!
# The order of advertisements

Devices are kept under their own names, each name once (`IsKeyedByName`). Their slices are built in
the one order in which the names ascend, whatever the order in which the devices were found, and
the slices of one node have the same name only if their devices have.
-/

namespace SliceAgent

section SortByKey

variable {α : Type}

/-- Sorting by key loses nothing and adds nothing. -/
theorem sortByKey_perm (entries : List (String × α)) : (sortByKey entries).Perm entries :=
  List.mergeSort_perm entries _

/-- Entries that were sorted by a text ascend in it. -/
theorem pairwise_le_mergeSort (key : α → String) (entries : List α) :
    (entries.mergeSort fun a b => decide (key a ≤ key b)).Pairwise fun a b => key a ≤ key b := by
  have htrans : ∀ a b c : α, decide (key a ≤ key b) = true → decide (key b ≤ key c) = true →
      decide (key a ≤ key c) = true := by
    intro a b c hab hbc
    rw [decide_eq_true_eq] at hab hbc ⊢
    exact String.le_trans hab hbc
  have htotal : ∀ a b : α, (decide (key a ≤ key b) || decide (key b ≤ key a)) = true := by
    intro a b
    simpa using String.le_total (key a) (key b)
  exact (List.pairwise_mergeSort htrans htotal entries).imp fun h => of_decide_eq_true h

/-- Distinct texts ascend strictly once they are sorted. -/
theorem pairwise_lt_mergeSort (key : α → String) {entries : List α}
    (h : (entries.map key).Nodup) :
    (entries.mergeSort fun a b => decide (key a ≤ key b)).Pairwise fun a b => key a < key b := by
  have hperm := List.mergeSort_perm entries fun a b => decide (key a ≤ key b)
  have hnodup := (hperm.map key).nodup_iff.mpr h
  have hne := List.pairwise_map.mp hnodup
  refine (hne.and (pairwise_le_mergeSort key entries)).imp fun {a b} hab => ?_
  rw [← String.not_le]
  exact fun hba => hab.1 (String.le_antisymm hab.2 hba)

/-- Distinct keys ascend strictly. -/
theorem pairwise_lt_sortByKey {entries : List (String × α)} (h : (entries.map (·.1)).Nodup) :
    (sortByKey entries).Pairwise fun a b => a.1 < b.1 :=
  pairwise_lt_mergeSort (fun e : String × α => e.1) h

/-- Sorting by distinct keys forgets the order in which the entries come. -/
theorem sortByKey_eq_of_perm {entries entries' : List (String × α)}
    (hperm : entries'.Perm entries) (h : (entries.map (·.1)).Nodup) :
    sortByKey entries' = sortByKey entries := by
  have h' : (entries'.map (·.1)).Nodup := (hperm.map _).nodup_iff.mpr h
  have hsorted : (sortByKey entries').Perm (sortByKey entries) :=
    ((sortByKey_perm entries').trans hperm).trans (sortByKey_perm entries).symm
  refine hsorted.eq_of_pairwise (fun a b _ _ hab hba => ?_) (pairwise_lt_sortByKey h')
    (pairwise_lt_sortByKey h)
  exact absurd hba (String.lt_asymm hab)

end SortByKey

/-- Devices under their own names, each name once. -/
structure IsKeyedByName (devices : List (String × Device)) : Prop where
  key_eq : ∀ e ∈ devices, e.1 = e.2.name
  nodup : (devices.map (·.1)).Nodup

/-- The devices in the order of their keys. -/
def inKeyOrder (devices : List (String × Device)) : List Device :=
  (sortByKey devices).map (·.2)

theorem inKeyOrder_perm (devices : List (String × Device)) :
    (inKeyOrder devices).Perm (devices.map (·.2)) :=
  (sortByKey_perm devices).map _

theorem buildSlices_eq (driver node : String) (devices : List (String × Device)) :
    buildSlices driver node devices = (inKeyOrder devices).map (·.slice driver node) := by
  rw [buildSlices, inKeyOrder, List.map_map]
  rfl

namespace IsKeyedByName

variable {devices : List (String × Device)}

/-- The names ascend strictly in the order of the keys. -/
theorem pairwise_name_lt (h : IsKeyedByName devices) :
    (inKeyOrder devices).Pairwise fun a b => a.name < b.name := by
  rw [inKeyOrder, List.pairwise_map]
  refine (pairwise_lt_sortByKey h.nodup).imp_of_mem fun {a b} ha hb hlt => ?_
  rwa [h.key_eq a ((sortByKey_perm devices).mem_iff.mp ha),
    h.key_eq b ((sortByKey_perm devices).mem_iff.mp hb)] at hlt

theorem nodup_names (h : IsKeyedByName devices) :
    ((inKeyOrder devices).map (·.name)).Nodup :=
  List.pairwise_map.mpr (h.pairwise_name_lt.imp String.ne_of_lt)

end IsKeyedByName

/-- On one node the slices of two devices have the same name exactly if the devices have. -/
theorem sliceName_inj {driver node a b : String} :
    sliceName driver node a = sliceName driver node b ↔ a = b := by
  simp only [sliceName, String.append_right_inj]

end SliceAgent
