import SliceAgent.Proofs.Convergence
import Mathlib.Data.List.Nodup

/-!
# Building is complete and free of order

Devices come as a map, whose entries have no order that counts. The slices that are built of it are
in the order of the keys, one for each key, and each shows the device under its key (`Slice.Shows`).
Distinct keys have only one order, so that of the entries does not show in the slices.

When the keys are the names of the devices, nothing that tells slices apart is the same of two of
them: neither their own names, nor those of their pools and entries. All of these are found from the
name of the device (`IsKeyedByName.nodup_map_buildSlices`). So a slice that is stored never takes
the place of another one of the same map (`building_ignores_order`).
-/

namespace SliceAgent

/-- A slice shows one device: it is named for it, has its name for the pool, the only entry and the
label, and has not been stored. -/
structure Slice.Shows (slice : Slice) (driver node : String) (d : Device) : Prop where
  eq : slice = d.slice driver node
  name : slice.name = .text (driver ++ "-" ++ node ++ "-" ++ d.name)
  pool : slice.pool = ⟨.text d.name, .int 1, .int 1⟩
  entry : ∃ entry, slice.devices = [entry] ∧ entry.name = .text d.name
  label : slice.labels.find? (·.1 = .text "device") = some (.text "device", .text d.name)
  version : slice.version = .null

theorem Device.shows_slice (driver node : String) (d : Device) :
    (d.slice driver node).Shows driver node d where
  eq := rfl
  name := rfl
  pool := rfl
  entry := ⟨d.entry driver, rfl, rfl⟩
  label := by simp [slice]
  version := rfl

section Order

variable {devices devices' : List (String × Device)}

/-- The entries of a map have one order, so the slices that are built of it have. -/
theorem buildSlices_eq_of_perm (driver node : String) (hperm : devices'.Perm devices)
    (hkeys : (devices.map (·.1)).Nodup) :
    buildSlices driver node devices' = buildSlices driver node devices := by
  rw [buildSlices, buildSlices, sortByKey_eq_of_perm hperm hkeys]

/-- There is one slice for each key, in the order of the keys. -/
theorem forall₂_shows_buildSlices (driver node : String) (devices : List (String × Device)) :
    List.Forall₂ (fun e slice => Slice.Shows slice driver node e.2) (sortByKey devices)
      (buildSlices driver node devices) := by
  rw [buildSlices, List.forall₂_map_right_iff, List.forall₂_same]
  exact fun e _ => e.2.shows_slice driver node

/-- Each slice has one entry, named as its pool is. -/
theorem map_name_flatMap_buildSlices (driver node : String) (devices : List (String × Device)) :
    ((buildSlices driver node devices).flatMap (·.devices)).map (·.name) =
      (buildSlices driver node devices).map (·.pool.name) := by
  rw [buildSlices_eq, List.flatMap_map, List.map_map, List.map_flatMap, List.map_eq_flatMap]
  rfl

end Order

namespace IsKeyedByName

variable {devices : List (String × Device)}

/-- What is found of a slice from the name of its device, and of no other name, is found of no two
slices. -/
theorem nodup_map_buildSlices (h : IsKeyedByName devices) (driver node : String) {β : Type}
    {f : Slice → β} {g : String → β} (hg : Function.Injective g)
    (hf : ∀ d : Device, f (d.slice driver node) = g d.name) :
    ((buildSlices driver node devices).map f).Nodup := by
  have hmap : (buildSlices driver node devices).map f =
      ((inKeyOrder devices).map (·.name)).map g := by
    rw [buildSlices_eq, List.map_map, List.map_map]
    exact List.map_congr_left fun d _ => hf d
  rw [hmap]
  exact List.Nodup.map hg h.nodup_names

/-- After the slices of a map were stored, that of each of its devices is held. -/
theorem held?_after_buildSlices (h : IsKeyedByName devices) (driver node : String)
    (store : MemoryStore) {e : String × Device} (he : e ∈ devices) :
    (MemoryStore.asStore.after store (buildSlices driver node devices)).held?
      (.text (sliceName driver node e.1)) = some (e.2.slice driver node) := by
  have hmem : e.2 ∈ (inKeyOrder devices).reverse :=
    List.mem_reverse.mpr ((inKeyOrder_perm devices).mem_iff.mpr (List.mem_map_of_mem he))
  have hnodup : ((inKeyOrder devices).reverse.map (·.name)).Nodup := by
    rw [List.map_reverse, List.nodup_reverse]
    exact h.nodup_names
  have hfind : (inKeyOrder devices).reverse.find? (·.name = e.1) = some e.2 :=
    (find?_name_eq_some hnodup).mpr ⟨hmem, (h.key_eq e he).symm⟩
  have hheld := MemoryStore.held?_afterDevices store ⟨driver, node⟩ (inKeyOrder devices) e.1
  rw [hfind] at hheld
  rw [buildSlices_eq]
  exact hheld

/-- Whether the slices of a map are created or updated is told by what was held before all of
them. -/
theorem results_publish_buildSlices (h : IsKeyedByName devices) (driver node : String)
    (store : MemoryStore) :
    (publish MemoryStore.asStore store (buildSlices driver node devices)).2.map (·.result) =
      (buildSlices driver node devices).map fun slice =>
        .ok (if (store.held? slice.name).isSome then .updated else .created) := by
  rw [buildSlices_eq, List.map_map]
  exact @MemoryStore.results_publish ⟨driver, node⟩ _ h.nodup_names store

end IsKeyedByName

/-- **Building is free of order, complete and without collisions.** The slices of a map of devices
are the same for every order of its entries. There is one for each key, in ascending order of the
keys, and it shows the device under the key. If the keys are the names of the devices, the names of
the slices, of their pools and of their entries are distinct, and a slice's name tells that of its
device. When they are stored in memory, one after another, each is stored, is created exactly if
none of its name was held before all of them, and is held in the end. -/
theorem building_ignores_order (driver node : String) {devices : List (String × Device)}
    (hkeys : (devices.map (·.1)).Nodup) :
    let slices := buildSlices driver node devices
    (∀ devices', devices'.Perm devices → buildSlices driver node devices' = slices) ∧
      (∃ ordered, ordered.Perm devices ∧ ordered.Pairwise (fun e e' => e.1 < e'.1) ∧
        List.Forall₂ (fun e slice => Slice.Shows slice driver node e.2) ordered slices) ∧
      ((∀ e ∈ devices, e.1 = e.2.name) →
        (slices.map (·.name)).Nodup ∧ (slices.map (·.pool.name)).Nodup ∧
        ((slices.flatMap (·.devices)).map (·.name)).Nodup ∧
        (∀ d d' : Device, (d.slice driver node).name = (d'.slice driver node).name →
          d.name = d'.name) ∧
        ∀ store : MemoryStore,
          let stored := publish MemoryStore.asStore store slices
          stored.2.map (·.slice) = slices ∧
          stored.2.map (·.result) = (slices.map fun slice =>
            .ok (if (store.held? slice.name).isSome then .updated else .created)) ∧
          ∀ e ∈ devices, stored.1.held? (.text (sliceName driver node e.1)) =
            some (e.2.slice driver node)) := by
  intro slices
  refine ⟨fun _ hperm => buildSlices_eq_of_perm driver node hperm hkeys, ?_, fun hnames => ?_⟩
  · exact ⟨sortByKey devices, sortByKey_perm devices, pairwise_lt_sortByKey hkeys,
      forall₂_shows_buildSlices driver node devices⟩
  · have h : IsKeyedByName devices := ⟨hnames, hkeys⟩
    have hname : Function.Injective fun device => Json.text (sliceName driver node device) :=
      fun _ _ heq => sliceName_inj.mp (Json.text.inj heq)
    have hpools : (slices.map (·.pool.name)).Nodup :=
      h.nodup_map_buildSlices driver node (fun _ _ => Json.text.inj) fun _ => rfl
    refine ⟨h.nodup_map_buildSlices driver node hname fun _ => rfl, hpools, ?_,
      fun _ _ heq => hname heq, ?_⟩
    · rw [map_name_flatMap_buildSlices]
      exact hpools
    · intro store stored
      have horderly : MemoryStore.asStore.IsOrderly slices := by
        rw [show slices = _ from buildSlices_eq driver node devices]
        exact MemoryStore.isOrderly_asStore ⟨driver, node⟩ (inKeyOrder devices)
      obtain ⟨hafter, hslices, -⟩ := publish_of_isOrderly horderly store
      refine ⟨hslices, h.results_publish_buildSlices driver node store, fun e he => ?_⟩
      rw [show stored.1 = _ from hafter]
      exact h.held?_after_buildSlices driver node store he

/-- Two devices that were found in either order, one of them the virtual function of the other. -/
theorem building_ignores_order_of_two :
    let a : Device := ⟨"a", "U", 1024, 0, .primary, "0000:11:00.0", 0⟩
    let b : Device := ⟨"a_vf0", "V", 1024, -1, .virtual "a" (by decide), "0000:11:00.1", 0⟩
    let slices := buildSlices "driver" "node" [("a_vf0", b), ("a", a)]
    ([("a_vf0", b), ("a", a)].map (·.1)).Nodup ∧
      (∀ e ∈ [("a_vf0", b), ("a", a)], e.1 = e.2.name) ∧
      buildSlices "driver" "node" [("a", a), ("a_vf0", b)] = slices ∧
      slices.map (·.name) = [.text "driver-node-a", .text "driver-node-a_vf0"] ∧
      ((publish MemoryStore.asStore {} slices).1.held? (.text "driver-node-a")).map (·.pool.name) =
        some (.text "a") := by
  intro a b slices
  have hkeys : ([("a_vf0", b), ("a", a)].map (·.1)).Nodup := by decide
  have hnames : ∀ e ∈ [("a_vf0", b), ("a", a)], e.1 = e.2.name := by decide
  obtain ⟨horder, -, hdistinct⟩ := building_ignores_order "driver" "node" hkeys
  obtain ⟨-, -, -, -, hstored⟩ := hdistinct hnames
  obtain ⟨-, -, hheld⟩ := hstored {}
  have hswap : buildSlices "driver" "node" [("a", a), ("a_vf0", b)] = slices :=
    horder _ (List.Perm.swap _ _ _)
  have hsorted : buildSlices "driver" "node" [("a", a), ("a_vf0", b)] =
      [a.slice "driver" "node", b.slice "driver" "node"] := by
    rw [buildSlices, sortByKey, List.mergeSort_of_pairwise (by decide)]
    rfl
  refine ⟨hkeys, hnames, hswap, by rw [← hswap, hsorted]; rfl, ?_⟩
  have ha : (publish MemoryStore.asStore {} slices).1.held? (.text "driver-node-a") =
      some (a.slice "driver" "node") := hheld ("a", a) (by simp)
  rw [ha]
  rfl

end SliceAgent
