import ParseTrace.Store.Lookup

/-!
# Gathering children

A table holds under every number the children that were entered under it, in the order in which they
came, and taking one entry out leaves the others. So nodes with different numbers get what was entered
for each of them.

The children of several nodes are searched for in chunks of the nodes. A node stands in one chunk, whose
search finds all its children, and the search of another chunk finds none of them. Wherever the chunks
are cut, the table holds for every node its children as they are stored.
-/

namespace ParseTrace

namespace ChildTable

theorem childrenOf_cons (other : NodeId) (children : List NodeId) (table : ChildTable)
    (parent : NodeId) :
    childrenOf ((other, children) :: table) parent =
      if parent = other then children else table.childrenOf parent := by
  rw [childrenOf, List.lookup_cons]
  by_cases here : parent = other
  · rw [if_pos here, beq_iff_eq.mpr here]
    rfl
  · rw [if_neg here, beq_eq_false_iff_ne.mpr here]
    rfl

/-- An entry goes behind those of the same parent. -/
theorem childrenOf_enter (table : ChildTable) (link : NodeId × NodeId) (parent : NodeId) :
    (table.enter link).childrenOf parent =
      table.childrenOf parent ++ if link.1 = parent then [link.2] else [] := by
  rcases link with ⟨above, child⟩
  induction table with
  | nil =>
      rw [enter, childrenOf_cons]
      simp only [eq_comm]
      rfl
  | cons entry rest ih =>
      rcases entry with ⟨other, children⟩
      rw [enter]
      by_cases here : other = above
      · subst here
        rw [if_pos rfl, childrenOf_cons, childrenOf_cons]
        by_cases wanted : parent = other
        · simp [wanted]
        · simp [wanted, Ne.symm wanted]
      · rw [if_neg here, childrenOf_cons, childrenOf_cons, ih]
        by_cases wanted : parent = other
        · subst wanted
          simp [Ne.symm here]
        · simp [wanted]

/-- Under a number stands what was entered under it, in order. -/
theorem childrenOf_foldl_enter (links : List (NodeId × NodeId)) (table : ChildTable)
    (parent : NodeId) :
    (links.foldl enter table).childrenOf parent =
      table.childrenOf parent ++ (links.filter (·.1 == parent)).map Prod.snd := by
  induction links generalizing table with
  | nil => simp
  | cons link rest ih =>
      rw [List.foldl_cons, ih, childrenOf_enter, List.filter_cons, List.append_assoc]
      by_cases here : link.1 = parent
      · simp [here]
      · simp [here]

theorem childrenOf_remove {table : ChildTable} {parent other : NodeId} (different : other ≠ parent) :
    (table.remove parent).childrenOf other = table.childrenOf other := by
  induction table with
  | nil => rfl
  | cons entry rest ih =>
      rcases entry with ⟨key, children⟩
      by_cases removed : key = parent
      · have gone : remove ((key, children) :: rest) parent = remove rest parent :=
          List.filter_cons_of_neg (by simp [removed])
        rw [gone, ih, childrenOf_cons, if_neg (removed ▸ different)]
      · have kept : remove ((key, children) :: rest) parent = (key, children) :: remove rest parent :=
          List.filter_cons_of_pos (by simpa using removed)
        rw [kept, childrenOf_cons, childrenOf_cons, ih]

/-- What is taken out for one node is missed by no other, as long as numbers are different. -/
theorem attach_eq {table : ChildTable} {rows : List (StoredNode × Rule)}
    (different : (rows.map fun row => row.1.id).Nodup) :
    table.attach rows = rows.map fun row => row.1.withRule row.2 (table.childrenOf row.1.id) := by
  induction rows generalizing table with
  | nil => rfl
  | cons row rest ih =>
      rw [List.map_cons, List.nodup_cons] at different
      rw [attach, ih different.2, List.map_cons]
      congr 1
      apply List.map_congr_left
      intro other later
      have unequal : other.1.id ≠ row.1.id := by
        intro same
        exact different.1 (same ▸ List.mem_map_of_mem later)
      rw [childrenOf_remove unequal]

end ChildTable

namespace Store

variable {store : Store} {parents : List NodeId} {parent : NodeId}

/-- The links to the children of some nodes are, for each of these nodes, the links to its children. -/
theorem filter_childLinks (store : Store) (parents : List NodeId) (parent : NodeId) :
    ((store.childLinks parents).filter (·.1 == parent)).map Prod.snd =
      if parent ∈ parents then store.childIds parent else [] := by
  simp only [childLinks, childIds, childNodesOf]
  induction store.nodes.toList with
  | nil => simp
  | cons node rest ih =>
      rw [List.filterMap_cons, List.filter_cons]
      cases named : node.parent with
      | none => simpa using ih
      | some above =>
          by_cases same : above = parent
          · subst same
            by_cases listed : above ∈ parents
            · simpa [listed] using ih
            · simpa [listed] using ih
          · by_cases listed : above ∈ parents
            · simpa [listed, same] using ih
            · simpa [listed, same] using ih

/-- What belongs to one part of a list without repetitions is found once. -/
theorem flatMap_of_mem_flatten {α β : Type} [DecidableEq α] {parts : List (List α)} {item : α}
    (different : parts.flatten.Nodup) (present : item ∈ parts.flatten) (found : List β) :
    (parts.flatMap fun part => if item ∈ part then found else []) = found := by
  induction parts with
  | nil => cases present
  | cons part rest ih =>
      rw [List.flatten_cons, List.nodup_append] at different
      rw [List.flatten_cons, List.mem_append] at present
      rw [List.flatMap_cons]
      by_cases here : item ∈ part
      · have nowhereElse : ∀ other ∈ rest, (if item ∈ other then found else []) = [] := by
          intro other isPart
          apply if_neg
          intro again
          exact different.2.2 item here item (List.mem_flatten_of_mem isPart again) rfl
        rw [if_pos here, List.flatMap_eq_nil_iff.mpr nowhereElse, List.append_nil]
      · rw [if_neg here, List.nil_append, ih different.2.1 (present.resolve_left here)]

/-- Every node finds its own children in the table, wherever the chunks are cut. -/
theorem childrenOf_gatherChildren (different : parents.Nodup) (present : parent ∈ parents) :
    (store.gatherChildren parents).childrenOf parent = store.childIds parent := by
  have whole : (chunks chunkSize parents).flatten = parents := chunks_flatten chunkSize parents
  rw [gatherChildren, ChildTable.childrenOf_foldl_enter, List.filter_flatMap, List.map_flatMap]
  simp only [filter_childLinks]
  rw [flatMap_of_mem_flatten (whole.symm ▸ different) (whole.symm ▸ present)]
  rfl

end Store

end ParseTrace
