import SliceAgent.Proofs.Scan
import Mathlib.Data.List.Induction
import Mathlib.Data.List.Nodup
import Mathlib.Data.List.Perm.Basic

/-!
# Groups of devices near each other

The devices of a map are arranged by the NUMA node that they are near to. What makes groups of a
list is said without the way they are made (`IsGrouping`): the nodes are distinct and are those of
the list, and the group at a node is what the list has of it, in the order of the list.

Groups can grow: devices are taken one after another, and each joins the group at its node, or opens
one (`addToGroup`). One more device keeps groups those of the list so far (`IsGrouping.concat`), so
by induction on the list what has grown are its groups (`isGrouping_growGroups`). But for the order
of the nodes a list has one grouping (`IsGrouping.perm`), and so `groupByNuma` gives the groups that
grow.
-/

namespace SliceAgent

/-- The group at a node; where there is none it is empty. -/
def groupAt (n : Int) : List (Int × List Device) → List Device
  | [] => []
  | (m, group) :: rest => if m = n then group else groupAt n rest

/-- Groups are those of a list of devices by their nodes. -/
structure IsGrouping (devices : List Device) (groups : List (Int × List Device)) : Prop where
  nodup_nodes : (groups.map (·.1)).Nodup
  mem_nodes_iff : ∀ n, n ∈ groups.map (·.1) ↔ n ∈ devices.map (·.numaNode)
  groupAt_eq : ∀ n, groupAt n groups = devices.filter (·.numaNode = n)

/-- The groups with one device more, at the end of the group at its node, or in a new one. -/
def addToGroup (d : Device) : List (Int × List Device) → List (Int × List Device)
  | [] => [(d.numaNode, [d])]
  | (n, group) :: rest =>
    if n = d.numaNode then (n, group ++ [d]) :: rest else (n, group) :: addToGroup d rest

/-- The groups that grow as devices are taken one after another. -/
def growGroups (devices : List Device) : List (Int × List Device) :=
  devices.foldl (fun groups d => addToGroup d groups) []

/-! ### One device more -/

section AddToGroup

variable (d : Device) (groups : List (Int × List Device))

theorem nodes_addToGroup :
    (addToGroup d groups).map (·.1) =
      if d.numaNode ∈ groups.map (·.1) then groups.map (·.1)
      else groups.map (·.1) ++ [d.numaNode] := by
  induction groups with
  | nil => rfl
  | cons g rest ih =>
    obtain ⟨n, group⟩ := g
    rw [addToGroup]
    by_cases hn : n = d.numaNode
    · simp [hn]
    · have hn' : ¬d.numaNode = n := fun h => hn h.symm
      rw [if_neg hn, List.map_cons, ih]
      by_cases hmem : d.numaNode ∈ rest.map (·.1) <;> simp [hn', hmem]

/-- The group at the device's node has it at its end, and the others stay. -/
theorem groupAt_addToGroup (n : Int) :
    groupAt n (addToGroup d groups) =
      if d.numaNode = n then groupAt n groups ++ [d] else groupAt n groups := by
  induction groups with
  | nil => by_cases hd : d.numaNode = n <;> simp [addToGroup, groupAt, hd]
  | cons g rest ih =>
    obtain ⟨m, group⟩ := g
    rw [addToGroup]
    by_cases hm : m = d.numaNode
    · by_cases hd : d.numaNode = n <;> simp [groupAt, hm, hd]
    · rw [if_neg hm, groupAt, groupAt, ih]
      by_cases hn : m = n
      · have hd : ¬d.numaNode = n := fun h => hm (hn.trans h.symm)
        simp [hn, hd]
      · simp only [if_neg hn]

/-- One device more is put to those of all groups. -/
theorem flatMap_addToGroup :
    ((addToGroup d groups).flatMap (·.2)).Perm (groups.flatMap (·.2) ++ [d]) := by
  induction groups with
  | nil => exact .refl _
  | cons g rest ih =>
    obtain ⟨n, group⟩ := g
    rw [addToGroup]
    split
    · simp only [List.flatMap_cons, List.append_assoc]
      exact List.perm_append_comm.append_left group
    · simp only [List.flatMap_cons, List.append_assoc]
      exact ih.append_left group

end AddToGroup

/-! ### The groups of a list -/

section Grouping

variable {devices : List Device} {groups groups' : List (Int × List Device)}

theorem isGrouping_nil : IsGrouping [] [] where
  nodup_nodes := List.nodup_nil
  mem_nodes_iff _ := Iff.rfl
  groupAt_eq _ := rfl

/-- A group that is there is the one at its node. -/
theorem mem_iff_groupAt (h : (groups.map (·.1)).Nodup) {n : Int} {group : List Device} :
    (n, group) ∈ groups ↔ n ∈ groups.map (·.1) ∧ group = groupAt n groups := by
  induction groups with
  | nil => simp
  | cons g rest ih =>
    obtain ⟨m, first⟩ := g
    obtain ⟨hm, hrest⟩ := List.nodup_cons.mp h
    rw [groupAt, List.mem_cons, Prod.mk.injEq, ih hrest, List.map_cons, List.mem_cons]
    by_cases hn : m = n
    · subst hn
      have hnot : m ∉ rest.map (·.1) := hm
      simp [hnot]
    · have hn' : ¬n = m := fun heq => hn heq.symm
      simp [hn, hn']

namespace IsGrouping

/-- One device more. -/
theorem concat (h : IsGrouping devices groups) (d : Device) :
    IsGrouping (devices ++ [d]) (addToGroup d groups) where
  nodup_nodes := by
    rw [nodes_addToGroup]
    split
    · exact h.nodup_nodes
    · rename_i hnot
      exact List.nodup_append.mpr ⟨h.nodup_nodes, by simp, by
        intro a ha b hb hab
        exact hnot ((hab.trans (List.mem_singleton.mp hb)) ▸ ha)⟩
  mem_nodes_iff n := by
    rw [nodes_addToGroup, List.map_append, List.mem_append, ← h.mem_nodes_iff]
    split
    · rename_i hmem
      refine ⟨.inl, ?_⟩
      rintro (hn | hn)
      · exact hn
      · rw [List.map_singleton, List.mem_singleton] at hn
        exact hn ▸ hmem
    · simp
  groupAt_eq n := by
    rw [groupAt_addToGroup, h.groupAt_eq, List.filter_append]
    by_cases hd : d.numaNode = n <;> simp [hd]

/-- The group of a node is what the list has of it. -/
theorem mem_iff (h : IsGrouping devices groups) {n : Int} {group : List Device} :
    (n, group) ∈ groups ↔
      n ∈ devices.map (·.numaNode) ∧ group = devices.filter (·.numaNode = n) := by
  rw [mem_iff_groupAt h.nodup_nodes, h.mem_nodes_iff, h.groupAt_eq]

/-- But for the order of the nodes there is one grouping of a list. -/
theorem perm (h : IsGrouping devices groups) (h' : IsGrouping devices groups') :
    groups.Perm groups' := by
  refine (List.perm_ext_iff_of_nodup h.nodup_nodes.of_map h'.nodup_nodes.of_map).mpr ?_
  rintro ⟨n, group⟩
  rw [h.mem_iff, h'.mem_iff]

end IsGrouping

theorem growGroups_concat (devices : List Device) (d : Device) :
    growGroups (devices ++ [d]) = addToGroup d (growGroups devices) :=
  List.foldl_concat ..

/-- **Groups that grow** are those of the devices that were taken. -/
theorem isGrouping_growGroups (devices : List Device) :
    IsGrouping devices (growGroups devices) := by
  induction devices using List.reverseRecOn with
  | nil => exact isGrouping_nil
  | append_singleton devices d ih =>
    rw [growGroups_concat]
    exact ih.concat d

/-- No device is lost while groups grow, and none is added. -/
theorem flatMap_growGroups (devices : List Device) :
    ((growGroups devices).flatMap (·.2)).Perm devices := by
  induction devices using List.reverseRecOn with
  | nil => exact .refl _
  | append_singleton devices d ih =>
    rw [growGroups_concat]
    exact (flatMap_addToGroup d _).trans (ih.append_right [d])

theorem IsGrouping.flatMap_perm (h : IsGrouping devices groups) :
    (groups.flatMap (·.2)).Perm devices :=
  ((h.perm (isGrouping_growGroups devices)).flatMap_right _).trans (flatMap_growGroups devices)

/-- What a list has of a node has all of the devices near it and no others. -/
theorem count_filter_numaNode (devices : List Device) (d : Device) (n : Int) :
    (devices.filter (·.numaNode = n)).count d =
      if d.numaNode = n then devices.count d else 0 := by
  by_cases hd : d.numaNode = n
  · rw [if_pos hd]
    exact List.count_filter (by simpa using hd)
  · rw [if_neg hd, List.count_eq_zero]
    intro hmem
    exact hd (of_decide_eq_true (List.mem_filter.mp hmem).2)

end Grouping

/-! ### The groups of a map -/

section Map

variable {devices : List (String × Device)}

theorem groupAt_map (nodes : List Int) (f : Int → List Device) (n : Int) :
    groupAt n (nodes.map fun m => (m, f m)) = if n ∈ nodes then f n else [] := by
  induction nodes with
  | nil => rfl
  | cons m rest ih =>
    rw [List.map_cons, groupAt, ih]
    by_cases hm : m = n
    · simp [hm]
    · have hm' : ¬n = m := fun h => hm h.symm
      simp [hm, hm']

/-- The groups of a map are those of its devices in the order of their keys. -/
theorem isGrouping_groupByNuma (devices : List (String × Device)) :
    IsGrouping (inKeyOrder devices) (groupByNuma devices) := by
  have hnodes : (groupByNuma devices).map (·.1) =
      ((inKeyOrder devices).map (·.numaNode)).eraseDups.mergeSort fun a b => decide (a ≤ b) := by
    rw [groupByNuma, List.map_map]
    exact List.map_id _
  have hperm := List.mergeSort_perm ((inKeyOrder devices).map (·.numaNode)).eraseDups
    fun a b => decide (a ≤ b)
  have hmem (n : Int) : n ∈ (groupByNuma devices).map (·.1) ↔
      n ∈ (inKeyOrder devices).map (·.numaNode) := by
    rw [hnodes, hperm.mem_iff, List.mem_eraseDups]
  refine ⟨?_, hmem, fun n => ?_⟩
  · rw [hnodes]
    exact hperm.nodup_iff.mpr (nodup_eraseDups _)
  · have hgroup : groupAt n (groupByNuma devices) =
        if n ∈ (groupByNuma devices).map (·.1) then
          (inKeyOrder devices).filter (·.numaNode = n) else [] := by
      rw [hnodes]
      exact groupAt_map _ (fun n => (inKeyOrder devices).filter (·.numaNode = n)) n
    rw [hgroup]
    split
    · rfl
    · rename_i hnot
      -- A node that has no group is that of no device.
      refine (List.filter_eq_nil_iff.mpr fun d hd hn => hnot ?_).symm
      exact (hmem n).mpr (List.mem_map.mpr ⟨d, hd, of_decide_eq_true hn⟩)

/-- The group of a node has the devices of the entries near it, in the order of the keys. -/
theorem map_filter_sortByKey (devices : List (String × Device)) (n : Int) :
    ((sortByKey devices).filter (·.2.numaNode = n)).map (·.2) =
      (inKeyOrder devices).filter (·.numaNode = n) := by
  rw [inKeyOrder, List.filter_map]
  rfl

end Map

/-- **Grouping is a stable partition.** The groups of a map of devices are under distinct nodes,
which are those of the devices, and none is empty. The group of a node has the devices of exactly
the entries near it, each once and in ascending order of the keys; so a device is in the group of
its own node as often as it is in the map, and in no other. All groups together have the devices of
the map. They are the same for every order of its entries, and they are the groups that grow when
the devices are taken one after another in the order of their keys. -/
theorem grouping_is_partition {devices : List (String × Device)}
    (hkeys : (devices.map (·.1)).Nodup) :
    let groups := groupByNuma devices
    (groups.map (·.1)).Nodup ∧
      (∀ n, n ∈ groups.map (·.1) ↔ ∃ e ∈ devices, e.2.numaNode = n) ∧
      (∀ g ∈ groups, g.2 ≠ [] ∧
        (∃ entries : List (String × Device), g.2 = entries.map (·.2) ∧
          entries.Pairwise (fun e e' => e.1 < e'.1) ∧
          ∀ e, e ∈ entries ↔ e ∈ devices ∧ e.2.numaNode = g.1) ∧
        ∀ d, g.2.count d = if d.numaNode = g.1 then (devices.map (·.2)).count d else 0) ∧
      (groups.flatMap (·.2)).Perm (devices.map (·.2)) ∧
      (∀ devices', devices'.Perm devices → groupByNuma devices' = groups) ∧
      groups.Perm (growGroups (inKeyOrder devices)) := by
  intro groups
  have h : IsGrouping (inKeyOrder devices) groups := isGrouping_groupByNuma devices
  have hdevices := inKeyOrder_perm devices
  have hnodes (n : Int) : n ∈ groups.map (·.1) ↔ ∃ e ∈ devices, e.2.numaNode = n := by
    rw [h.mem_nodes_iff, (hdevices.map _).mem_iff, List.map_map, List.mem_map]
    rfl
  refine ⟨h.nodup_nodes, hnodes, ?_, h.flatMap_perm.trans hdevices, fun devices' hperm => ?_,
    h.perm (isGrouping_growGroups _)⟩
  · rintro ⟨n, group⟩ hg
    obtain ⟨hn, rfl⟩ := h.mem_iff.mp hg
    refine ⟨fun hnil => ?_, ⟨(sortByKey devices).filter (·.2.numaNode = n),
      (map_filter_sortByKey devices n).symm, (pairwise_lt_sortByKey hkeys).filter _,
      fun e => ?_⟩, fun d => ?_⟩
    · obtain ⟨d, hd, hnode⟩ := List.mem_map.mp hn
      exact List.filter_eq_nil_iff.mp hnil d hd (decide_eq_true hnode)
    · rw [List.mem_filter, (sortByKey_perm devices).mem_iff, decide_eq_true_eq]
    · rw [← hdevices.count_eq]
      exact count_filter_numaNode _ d n
  · have hsorted := sortByKey_eq_of_perm hperm hkeys
    simp only [groups, groupByNuma, hsorted]

/-- Three devices, two of them with no node near and found in the order against that of their
keys. -/
theorem grouping_is_partition_of_three :
    let device (name : String) (n : Int) : String × Device :=
      (name, ⟨name, "U", 1024, n, .primary, "0000:11:00.0", 0⟩)
    let devices := [device "c" (-1), device "b" 0, device "a" (-1)]
    (devices.map (·.1)).Nodup ∧
      groupByNuma [device "a" (-1), device "b" 0, device "c" (-1)] = groupByNuma devices ∧
      groupByNuma devices =
        [(-1, [(device "a" (-1)).2, (device "c" (-1)).2]), (0, [(device "b" 0).2])] := by
  intro device devices
  have hkeys : (devices.map (·.1)).Nodup := by decide
  obtain ⟨-, -, -, -, horder, -⟩ := grouping_is_partition hkeys
  have hsame := horder _ (List.reverse_perm devices)
  refine ⟨hkeys, hsame, ?_⟩
  have hsorted : sortByKey devices.reverse = devices.reverse :=
    List.mergeSort_of_pairwise (by decide)
  have hnodes : ([-1, 0].mergeSort fun a b : Int => decide (a ≤ b)) = [-1, 0] :=
    List.mergeSort_of_pairwise (by decide)
  rw [← hsame, groupByNuma, hsorted]
  change List.map _ ([-1, 0].mergeSort fun a b : Int => decide (a ≤ b)) = _
  rw [hnodes]
  rfl

end SliceAgent
