import Plotline.Save.Folder

/-!
A folder as a map from names to items: what stands under a name after an item has been put there, and after the items
of a name have been taken out.
-/

namespace Plotline.Folder

theorem lookup_cons (name : String) (item : Item) (items : List (String × Item)) (other : String) :
    List.lookup other ((name, item) :: items) = if other = name then some item else items.lookup other := by
  rw [List.lookup_cons]
  by_cases same : other = name
  · rw [beq_iff_eq.mpr same, if_pos same]
  · rw [beq_false_of_ne same, if_neg same]

theorem lookup_put (name : String) (item : Item) (items : List (String × Item)) (other : String) :
    (put name item items).lookup other = if other = name then some item else items.lookup other := by
  induction items with
  | nil => exact lookup_cons name item [] other
  | cons entry rest ih =>
      obtain ⟨n, x⟩ := entry
      by_cases here : n = name
      · rw [put, if_pos here, lookup_cons, lookup_cons, here]
        split <;> rfl
      · rw [put, if_neg here, lookup_cons, lookup_cons, ih]
        by_cases there : other = n
        · rw [if_pos there, if_pos there, if_neg fun same => here (there.symm.trans same)]
        · rw [if_neg there, if_neg there]

theorem lookup_without (name : String) (items : List (String × Item)) (other : String) :
    (items.filter (·.1 ≠ name)).lookup other = if other = name then none else items.lookup other := by
  induction items with
  | nil => split <;> rfl
  | cons entry rest ih =>
      obtain ⟨n, x⟩ := entry
      by_cases here : n = name
      · rw [List.filter_cons_of_neg (by simpa using here), ih, lookup_cons, here]
        split <;> rfl
      · rw [List.filter_cons_of_pos (by simpa using here), lookup_cons, lookup_cons, ih]
        by_cases there : other = n
        · rw [if_pos there, if_pos there, if_neg fun same => here (there.symm.trans same)]
        · rw [if_neg there, if_neg there]

/-- A name that is new is added, and one that is not stays where it stands. -/
theorem names_put (name : String) (item : Item) (items : List (String × Item)) :
    (put name item items).map (·.1) =
      if name ∈ items.map (·.1) then items.map (·.1) else items.map (·.1) ++ [name] := by
  induction items with
  | nil => rfl
  | cons entry rest ih =>
      obtain ⟨n, x⟩ := entry
      by_cases here : n = name
      · simp [put, here]
      · rw [put, if_neg here, List.map_cons, List.map_cons, ih]
        by_cases later : name ∈ rest.map (·.1)
        · rw [if_pos later, if_pos (List.mem_cons_of_mem n later)]
        · rw [if_neg later, if_neg fun member => later ((List.mem_cons.mp member).resolve_left (Ne.symm here))]
          rfl

theorem nodup_names_put {items : List (String × Item)} (distinct : (items.map (·.1)).Nodup) (name : String)
    (item : Item) : ((put name item items).map (·.1)).Nodup := by
  rw [names_put]
  split
  · exact distinct
  · rename_i new
    rw [List.nodup_append]
    refine ⟨distinct, List.pairwise_singleton _ name, ?_⟩
    rintro old member _ last rfl
    exact new (List.mem_singleton.mp last ▸ member)

theorem lookup_isSome_iff (items : List (String × Item)) (name : String) :
    (items.lookup name).isSome = true ↔ name ∈ items.map (·.1) := by
  rw [List.lookup_isSome_iff, List.mem_map]
  constructor
  · rintro ⟨entry, member, same⟩
    exact ⟨entry, member, (beq_iff_eq.mp same).symm⟩
  · rintro ⟨entry, member, same⟩
    exact ⟨entry, member, beq_iff_eq.mpr same.symm⟩

end Plotline.Folder
