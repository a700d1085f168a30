import ParseTrace.Proofs.Store.Expansion

/-!
# The order in which a tree is shown

The subtrees of a tree are listed with their depths, each before what lies below it. From such a list
the tree can be read: the parent of a subtree is the last one before it that lies one level higher, and
whatever stands between the two lies below the parent as well, namely in the children that come earlier.
-/

namespace ParseTrace.TreeItem

variable {before after : List (Nat × TreeItem)} {entry : Nat × TreeItem} {top : Nat}

/-- Whether the parent of an entry stands before it, one level higher, and in between stand only deeper
entries, of which those at the level of the entry are earlier children of the parent. -/
def HasParentIn (before : List (Nat × TreeItem)) (entry : Nat × TreeItem) : Prop :=
  ∃ earlier parent between front back, before = earlier ++ parent :: between ∧
    entry.1 = parent.1 + 1 ∧ parent.2.children = front ++ entry.2 :: back ∧
    ∀ other ∈ between, entry.1 ≤ other.1 ∧ (other.1 = entry.1 → other.2 ∈ front)

/-- Whether entries are the subtrees of a tree with their depths below its top, each before what lies
below it: the tree comes first, and all others follow their parents. -/
def InPreorder (tree : TreeItem) (entries : List (Nat × TreeItem)) : Prop :=
  ∀ before entry after, entries = before ++ entry :: after →
    (before = [] ∧ entry = (0, tree)) ∨ HasParentIn before entry

theorem HasParentIn.prepend (earlier : List (Nat × TreeItem)) (above : HasParentIn before entry) :
    HasParentIn (earlier ++ before) entry := by
  rcases above with ⟨first, parent, between, front, back, rfl, level, children, deeper⟩
  exact ⟨earlier ++ first, parent, between, front, back, by simp, level, children, deeper⟩

/-- At the depth of the top stands the whole tree only. -/
theorem eq_of_mem_subtrees_top {tree subtree : TreeItem}
    (present : (top, subtree) ∈ tree.subtrees top) : subtree = tree := by
  cases tree with
  | item node children =>
      rcases mem_subtrees_item.mp present with ⟨_, same⟩ | ⟨child, _, inside⟩
      · exact same
      · exact absurd (le_of_mem_subtrees child inside) (Nat.not_succ_le_self top)

/-- An entry of two lists in a row is an entry of the first or of the second one. -/
theorem cons_of_append_eq_append {α : Type} {first second before after : List α} {entry : α}
    (split : first ++ second = before ++ entry :: after) :
    (∃ kept, first = before ++ entry :: kept) ∨
      ∃ passed, before = first ++ passed ∧ second = passed ++ entry :: after := by
  rcases List.append_eq_append_iff.mp split with ⟨passed, isBefore, later⟩ | ⟨kept, within, same⟩
  · exact Or.inr ⟨passed, isBefore, later⟩
  · cases kept with
    | nil => exact Or.inr ⟨[], by simpa using within.symm, same.symm⟩
    | cons next kept =>
        obtain ⟨rfl, _⟩ := List.cons.inj same
        exact Or.inl ⟨kept, within⟩

mutual

theorem hasParentIn_of_subtrees (top : Nat) :
    (tree : TreeItem) → {before : List (Nat × TreeItem)} → {entry : Nat × TreeItem} →
      {after : List (Nat × TreeItem)} → tree.subtrees top = before ++ entry :: after →
      (before = [] ∧ entry = (top, tree)) ∨ HasParentIn before entry
  | item node children, [], entry, after, split => by
      rw [subtrees, List.nil_append, List.cons.injEq] at split
      exact Or.inl ⟨rfl, split.1.symm⟩
  | item node children, first :: before, entry, after, split => by
      rw [subtrees, List.cons_append, List.cons.injEq] at split
      rcases split with ⟨rfl, split⟩
      right
      rcases hasParentIn_of_subtreesAll (top + 1) children split with
        ⟨level, front, back, isChild, deeper⟩ | above
      · exact ⟨[], _, before, front, back, rfl, level, isChild, by rwa [level]⟩
      · exact above.prepend [_]

theorem hasParentIn_of_subtreesAll (top : Nat) :
    (trees : List TreeItem) → {before : List (Nat × TreeItem)} → {entry : Nat × TreeItem} →
      {after : List (Nat × TreeItem)} → subtreesAll top trees = before ++ entry :: after →
      (entry.1 = top ∧ ∃ front back, trees = front ++ entry.2 :: back ∧
        ∀ other ∈ before, top ≤ other.1 ∧ (other.1 = top → other.2 ∈ front)) ∨
      HasParentIn before entry
  | [], before, entry, after, split => by
      rw [subtreesAll] at split
      simp at split
  | tree :: rest, before, entry, after, split => by
      rw [subtreesAll] at split
      rcases cons_of_append_eq_append split with ⟨kept, within⟩ | ⟨passed, rfl, later⟩
      · rcases hasParentIn_of_subtrees top tree within with ⟨rfl, rfl⟩ | above
        · exact Or.inl ⟨rfl, [], rest, rfl, nofun⟩
        · exact Or.inr above
      · rcases hasParentIn_of_subtreesAll top rest later with
          ⟨level, front, back, rfl, deeper⟩ | above
        · refine Or.inl ⟨level, tree :: front, back, rfl, ?_⟩
          rintro ⟨below, other⟩ present
          rcases List.mem_append.mp present with inTree | inRest
          · refine ⟨le_of_mem_subtrees tree inTree, ?_⟩
            rintro rfl
            exact List.mem_cons.mpr (Or.inl (eq_of_mem_subtrees_top inTree))
          · rcases deeper _ inRest with ⟨deep, isChild⟩
            exact ⟨deep, fun atTop => List.mem_cons_of_mem _ (isChild atTop)⟩
        · exact Or.inr (above.prepend _)

end

theorem inPreorder_subtrees (tree : TreeItem) : tree.InPreorder (tree.subtrees 0) :=
  fun _ _ _ split => hasParentIn_of_subtrees 0 tree split

mutual

theorem length_subtrees (top : Nat) : (tree : TreeItem) → (tree.subtrees top).length = tree.size
  | item node children => by
      rw [subtrees, size, List.length_cons, length_subtreesAll (top + 1) children, Nat.add_comm]

theorem length_subtreesAll (top : Nat) :
    (trees : List TreeItem) → (subtreesAll top trees).length = sizeAll trees
  | [] => rfl
  | tree :: rest => by
      rw [subtreesAll, sizeAll, List.length_append, length_subtrees top tree,
        length_subtreesAll top rest]

end

end ParseTrace.TreeItem
