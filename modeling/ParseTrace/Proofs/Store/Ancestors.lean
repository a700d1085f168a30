import ParseTrace.Proofs.Store.Chain
import ParseTrace.Proofs.Store.Closed

/-!
# Ancestors and the announced depth

A search for ancestors goes up in turns: it notes the parent of the node that it has reached and reads
it. It is given up as soon as it has noted more than the trace announces and there is another parent.
Since every turn notes one more number, there is no search without an end, whatever the store holds and
whatever was announced.

In a tree the search ends at the root unless it is given up. A node of level `n` has `n` nodes above it,
so the search is given up exactly if the level is greater than the announced depth, where a depth of
zero counts as one.
-/

namespace ParseTrace

open Relation (ReflTransGen)

namespace Store

variable {store : Store} {limit : Nat} {id : NodeId}

/-- One turn of a search, from the numbers noted and the node reached to those of the next turn. -/
inductive Ascends (store : Store) (limit : Nat) : List NodeId × Node → List NodeId × Node → Prop where
  | turn {found : List NodeId} {node parentNode : Node} {parent : NodeId}
      (named : node.parent = some parent) (room : found.length ≤ limit)
      (got : store.getNode parent = .ok parentNode) :
      Ascends store limit (found, node) (parent :: found, parentNode)

/-- There is no endless sequence of turns, not even in a store whose parents run in a circle. -/
theorem wellFounded_ascends (store : Store) (limit : Nat) :
    WellFounded fun after before => Ascends store limit before after := by
  refine (measure fun state : List NodeId × Node => limit + 1 - state.1.length).wf.mono ?_
  rintro after before ⟨_, room, _⟩
  simp only [WellFoundedRelation.rel, InvImage, List.length_cons]
  omega

/-- The numbers on a way up are linked as children and parents. -/
theorem WayUp.isChain {nodes : Array StoredNode} {chain : List NodeId} (way : WayUp nodes id chain) :
    (id :: chain).IsChain fun child parent => IsParent nodes parent child := by
  induction way with
  | root => exact .singleton _
  | step isParent _ ih => exact .cons_cons isParent ih

end Store

namespace FormsTree

open Store (nodeAt? WayUp IsParent Ascends)

variable {rules : List Rule} {nodes : Array StoredNode} {store : Store} {id : NodeId}
  {chain : List NodeId}

theorem pairwise_wayUp (tree : FormsTree rules nodes) (way : WayUp nodes id chain) :
    (id :: chain).Pairwise (· > ·) := by
  apply List.isChain_iff_pairwise.mp
  apply way.isChain.imp
  intro child parent isParent
  exact tree.lt_of_isParent isParent

/-- A search takes turns until it is at the root or has noted too much, and answers accordingly. -/
theorem exists_ascent (tree : FormsTree store.rules store.nodes) (isOpen : store.closed = false)
    (origin : NodeId) (limit : Nat) (found : List NodeId) {node : Node}
    (got : store.getNode id = .ok node) :
    ∃ last, ReflTransGen (Ascends store limit) (found, node) last ∧
      ((last.2.parent = none ∧ store.climb origin limit found node = .ok last.1.reverse) ∨
        (last.2.parent ≠ none ∧ limit < last.1.length ∧
          store.climb origin limit found node = .error (.corrupt (.endlessParentChain origin)))) := by
  fun_induction Store.climb store origin limit found node generalizing id with
  | case1 found node top =>
      exact ⟨(found, node), .refl, Or.inl ⟨top, rfl⟩⟩
  | case2 found node parent named full =>
      exact ⟨(found, node), .refl, Or.inr ⟨by simp [named], full, rfl⟩⟩
  | case3 found node parent named room ih =>
      rcases tree.exists_of_getNode isOpen got with ⟨stored, present, _, above, _⟩
      have isParent : IsParent store.nodes parent id := ⟨stored, present, above.symm.trans named⟩
      rcases tree.parent_stored isParent present with ⟨_, parentStored, parentPresent, _⟩
      rcases tree.exists_getNode isOpen parentPresent with ⟨parentNode, parentGot, _⟩
      rcases ih parentNode parentGot with ⟨last, turns, ended⟩
      refine ⟨last, .head (.turn named (Nat.not_lt.mp room) parentGot) turns, ?_⟩
      simpa only [bind, Except.bind, parentGot] using ended

end FormsTree

namespace Store

variable {label : String} {header : Header} {store : Store}

/-- What a search for ancestors finds in an open store at any moment of its run, however many nodes
there are and whatever depth was announced. It ends in any case. From a stored node it is given up
exactly if the level of the node is greater than the announced depth, at least one; otherwise it finds
the node itself and as many more as its level says, each followed by its parent, in decreasing order and
down to the root. -/
theorem ancestors_follow_parents (reached : Reaches (create label header) store)
    (isOpen : store.closed = false) :
    (∀ limit, WellFounded fun after before => Ascends store limit before after) ∧
    (∀ id, nodeAt? store.nodes id = none → store.ancestors id = .error (.notFound id)) ∧
    ∀ id node, nodeAt? store.nodes id = some node →
      (∃ start last, store.getNode id = .ok start ∧
        ReflTransGen (Ascends store (max header.depth 1)) ([id], start) last ∧
        ((last.2.parent = none ∧ store.ancestors id = .ok last.1.reverse) ∨
          (last.2.parent ≠ none ∧ max header.depth 1 < last.1.length ∧
            store.ancestors id = .error (.corrupt (.endlessParentChain id))))) ∧
      (∀ cause, store.ancestors id = .error cause ↔
        cause = .corrupt (.endlessParentChain id) ∧ max header.depth 1 < node.level) ∧
      (node.level ≤ max header.depth 1 → ∃ chain, store.ancestors id = .ok chain ∧
        chain.length = node.level + 1 ∧ chain.head? = some id ∧ chain.getLast? = some rootNode ∧
        chain.Pairwise (· > ·) ∧
        chain.IsChain fun child parent => IsParent store.nodes parent child) := by
  have tree : FormsTree store.rules store.nodes :=
    reached.tree (sound_create label header) (Nat.two_pow_pos 31)
  have announced : store.header = header := reached.header_eq
  refine ⟨wellFounded_ascends store, ?_, ?_⟩
  · intro id absent
    rw [ancestors, getNode_of_absent isOpen absent]
    rfl
  · intro id node found
    rcases nodeAt?_eq_some_iff.mp found with ⟨place, rfl, present⟩
    rcases tree.exists_wayUp present with ⟨chain, way⟩
    have searched := tree.ancestors_eq isOpen found way
    rw [announced] at searched
    refine ⟨?_, ?_, ?_⟩
    · rcases tree.exists_getNode isOpen found with ⟨start, got, _⟩
      rcases tree.exists_ascent isOpen place (max header.depth 1) [(place : NodeId)] got with
        ⟨last, turns, ended⟩
      refine ⟨start, last, got, turns, ?_⟩
      simpa only [ancestors, got, announced, bind, Except.bind] using ended
    · intro cause
      rw [searched]
      split
      next within => simp [Nat.not_lt.mpr within]
      next tooDeep => simp [Nat.not_le.mp tooDeep, eq_comm]
    · intro within
      rw [if_pos within] at searched
      refine ⟨_, searched, ?_, rfl, ?_, tree.pairwise_wayUp way, way.isChain⟩
      · rw [List.length_cons, tree.length_wayUp way found]
      · rw [List.getLast?_eq_some_getLast (List.cons_ne_nil _ _), way.getLast_eq]

/-- Three nodes below the root of the sample store, one under the other. Two levels were announced. -/
def threeDown : List Invocation :=
  [⟨some 0, 1, 7, true, 0, 1, 40⟩, ⟨some 1, 2, 7, true, 0, 1, 30⟩, ⟨some 2, 3, 7, true, 0, 1, 20⟩]

theorem thirdLevel_was_not_announced :
    (∃ chain, (sample.appendBatch threeDown).2.ancestors 2 = .ok chain ∧ chain.length = 3 ∧
      chain.getLast? = some rootNode) ∧
    (sample.appendBatch threeDown).2.ancestors 3 = .error (.corrupt (.endlessParentChain 3)) ∧
    (sample.appendBatch threeDown).2.ancestors 4 = .error (.notFound 4) := by
  have searches := ancestors_follow_parents (reaches_sample.tail (.appendBatch threeDown)) (by decide)
  rcases (searches.2.2 2 _ rfl).2.2 (by decide) with ⟨chain, found, size, _, last, _⟩
  refine ⟨⟨chain, found, size, last⟩, ?_, searches.2.1 4 rfl⟩
  exact ((searches.2.2 3 _ rfl).2.1 _).mpr ⟨rfl, by decide⟩

end Store

end ParseTrace
