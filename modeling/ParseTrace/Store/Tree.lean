import ParseTrace.Store.Lookup

/-!
# The parse tree

A tree is read from the store node by node. `expand` resolves what lies below a node, down to a
given depth or completely, and `ancestors` follows the parents up to the root. A parent is stored
before its children, so no path in the tree is longer than the store has nodes; that number bounds
the descent. The way up is bounded by what the trace announces, whether that is true or not.
-/

namespace ParseTrace

/-- A node with what is resolved below it. -/
inductive TreeItem where
  | item (node : Node) (children : List TreeItem)
  deriving Repr

namespace TreeItem

/-- The node at the top. -/
def node : TreeItem → Node
  | item node _ => node

/-- What is resolved directly below. A node at the depth limit has children of which none is
resolved. -/
def children : TreeItem → List TreeItem
  | item _ children => children

mutual

/-- The number of resolved nodes. -/
def size : TreeItem → Nat
  | item _ children => 1 + sizeAll children

/-- The number of resolved nodes of several trees. -/
def sizeAll : List TreeItem → Nat
  | [] => 0
  | tree :: rest => tree.size + sizeAll rest

end

mutual

/-- The resolved subtrees with the depths of their top nodes, each before what lies below it. -/
def subtrees (depth : Nat) : TreeItem → List (Nat × TreeItem)
  | item node children => (depth, item node children) :: subtreesAll (depth + 1) children

/-- The resolved subtrees of several trees with their depths, tree after tree. -/
def subtreesAll (depth : Nat) : List TreeItem → List (Nat × TreeItem)
  | [] => []
  | tree :: rest => tree.subtrees depth ++ subtreesAll depth rest

end

/-- The resolved nodes with their depths, each before what lies below it. -/
def preorder (depth : Nat) (tree : TreeItem) : List (Nat × Node) :=
  (tree.subtrees depth).map fun (depth, subtree) => (depth, subtree.node)

end TreeItem

namespace Store

/-- Resolves what lies below a node: nothing at a depth limit of zero, otherwise its children with
one level less to go. The first number bounds the levels altogether. -/
def expandNode (store : Store) : Nat → Node → Option Nat → Except TraceError TreeItem
  | bound, node, depth =>
      if depth = some 0 ∨ node.hasChildren = false then .ok (.item node [])
      else
        match bound with
        | 0 => .error (.corrupt (.endlessParentChain node.id))
        | bound + 1 => do
            let children ← store.getChildNodes node.id
            let items ← children.mapM fun child =>
              expandNode store bound child (depth.map (· - 1))
            return .item node items

/-- The tree below a node, down to a number of levels below it, or to the leaves if there is no
such limit. -/
def expand (store : Store) (id : NodeId) (depth : Option Nat) : Except TraceError TreeItem := do
  let node ← store.getNode id
  store.expandNode store.nodes.size node depth

/-- The whole tree below a node. -/
def expandFully (store : Store) (id : NodeId) : Except TraceError TreeItem :=
  store.expand id none

/-- Follows the parents from a node up to the root. The numbers found so far are given with the last
one first; as soon as they are more than the limit and there is another parent, the search is given
up, and the number given first stands in the error. -/
def climb (store : Store) (origin : NodeId) (limit : Nat) (found : List NodeId) (node : Node) :
    Except TraceError (List NodeId) :=
  match node.parent with
  | none => .ok found.reverse
  | some parent =>
      if limit < found.length then .error (.corrupt (.endlessParentChain origin))
      else do
        let parentNode ← store.getNode parent
        climb store origin limit (parent :: found) parentNode
termination_by limit + 1 - found.length
decreasing_by simp only [List.length_cons]; omega

/-- The numbers of the nodes from a node up to the root. The announced depth of the tree, at least
one, bounds the number of steps. -/
def ancestors (store : Store) (id : NodeId) : Except TraceError (List NodeId) := do
  let node ← store.getNode id
  store.climb id (max store.header.depth 1) [id] node

/-- The node at which the tree starts. -/
def root (store : Store) : Except TraceError Node :=
  store.getNode rootNode

end Store

end ParseTrace
