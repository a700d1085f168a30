import ParseTrace.Proofs.CommandLine.Reports
import ParseTrace.Proofs.Duration
import ParseTrace.Proofs.Store.Preorder
import ParseTrace.Proofs.Text.ClosedLines

/-!
# How a tree is printed

A tree is printed node by node, every node before what lies below it, and its line is indented by the
depth at which it is shown. At the end of a line stands how many children are left out, which happens to
the nodes at the depth limit and to no others. The only thing on a line that can hold a newline is the
name of the rule, because it is shown as it was captured; so there are as many lines as nodes, and one
more for every newline in a name.
-/

namespace ParseTrace

variable {files : FileTree CaptureFile} {settings : Settings} {trace : String} {session : Session}

section Expansion

open Store (nodeAt?)

variable {store : Store} {id : NodeId} {node : StoredNode} {tree : TreeItem}

theorem TreeItem.Complete.children_ne_nil (complete : tree.Complete store)
    (hasChildren : tree.node.hasChildren = true) : tree.children ≠ [] := by
  intro none
  have listed := complete.shown_eq
  rw [none, List.map_nil] at listed
  simp [Node.hasChildren, ← listed] at hasChildren

namespace FormsTree

/-- The start of a complete tree has the level that is stored for it. -/
theorem level_start (forms : FormsTree store.rules store.nodes) (isOpen : store.closed = false)
    (complete : tree.Complete store) (found : nodeAt? store.nodes tree.node.id = some node) :
    tree.node.level = node.level := by
  rcases forms.exists_of_getNode isOpen complete.getNode_eq with ⟨stored, isStored, _, _, level, _⟩
  obtain rfl : stored = node := Option.some.inj (isStored.symm.trans found)
  exact level

/-- What an expansion shows, with a limit or without one. Children are left out at the limit only. -/
theorem exists_expand (forms : FormsTree store.rules store.nodes) (isOpen : store.closed = false)
    (found : nodeAt? store.nodes id = some node) (limit : Option Nat) :
    ∃ tree, store.expand id limit = .ok tree ∧ tree.node.id = id ∧
      ∀ below item, (below, item) ∈ tree.subtrees 0 →
        store.getNode item.node.id = .ok item.node ∧ item.node.level = node.level + below ∧
        (item.node.hasChildren = true → (item.children = [] ↔ limit = some below)) := by
  rcases forms.expandFully_eq isOpen found with ⟨tree, expanded, rfl, complete⟩
  have start := forms.level_start isOpen complete found
  have shown : ∀ below item, (below, item) ∈ tree.subtrees 0 →
      store.getNode item.node.id = .ok item.node ∧ item.node.level = node.level + below := by
    intro below item present
    have level := forms.level_shown isOpen complete present
    exact ⟨(complete.of_mem_subtrees present).getNode_eq, by omega⟩
  cases limit with
  | none =>
      refine ⟨tree, expanded, rfl, ?_⟩
      intro below item present
      refine ⟨(shown below item present).1, (shown below item present).2, ?_⟩
      intro hasChildren
      simp [(complete.of_mem_subtrees present).children_ne_nil hasChildren]
  | some depth =>
      refine ⟨tree.prune depth, Store.expand_some expanded depth, by simp, ?_⟩
      intro below item present
      -- Pruning keeps the nodes at their depths, so what is known of the whole tree holds of them.
      have kept : (below, item.node) ∈ (tree.prune depth).preorder 0 :=
        List.mem_map.mpr ⟨(below, item), present, rfl⟩
      rw [TreeItem.preorder_prune, List.mem_filter] at kept
      rcases List.mem_map.mp kept.1 with ⟨⟨depthBelow, whole⟩, isShown, same⟩
      obtain ⟨rfl, sameNode⟩ := Prod.mk.inj same
      have found := shown depthBelow whole isShown
      rw [sameNode] at found
      refine ⟨found.1, found.2, ?_⟩
      intro hasChildren
      rw [complete.children_prune_eq_nil_iff present hasChildren, Nat.zero_add, Option.some.injEq,
        eq_comm]

end FormsTree

end Expansion

namespace CommandLine

variable {json : Bool} {below hidden other : Nat} {item : TreeItem}

theorem toList_printLines (texts : List String) :
    (printLines texts).toList = Text.closeAll (texts.map String.toList) := by
  simp [printLines, Text.closeAll, String.toList_join, List.flatMap_map]

section Mark

/-- How a line says that so many children are left out. -/
def hiddenMark (hidden : Nat) : List Char :=
  '(' :: '+' :: (Nat.toDigits 10 hidden ++ [')'])

/-- A mark has one parenthesis that opens, so no mark ends with another one. -/
theorem eq_of_hiddenMark_suffix (ends : hiddenMark hidden <:+ hiddenMark other) :
    hidden = other := by
  rcases ends with ⟨front, same⟩
  cases front with
  | nil =>
      simp only [hiddenMark, List.nil_append, List.cons.injEq, List.append_cancel_right_eq,
        true_and] at same
      have spelled := congrArg (fun digits => Nat.ofDigitChars 10 digits 0) same
      simpa only [Nat.ofDigitChars_ten_toDigits] using spelled
  | cons first front =>
      have inside : '(' ∈ '+' :: (Nat.toDigits 10 other ++ [')']) := by
        rw [hiddenMark, hiddenMark, List.cons_append, List.cons.injEq] at same
        rw [← same.2]
        simp
      simp [Numeral.not_mem_toDigits '(' rfl] at inside

/-- A text that ends with a letter ends with no mark. -/
theorem not_hiddenMark_suffix (front : List Char) : ¬hiddenMark hidden <:+ front ++ ['s'] := by
  rintro ⟨before, same⟩
  rw [hiddenMark, ← List.cons_append, ← List.cons_append, ← List.append_assoc] at same
  have last := List.append_inj_right' same rfl
  simp at last

/-- A text that ends with one mark ends with no other one. -/
theorem hiddenMark_suffix_iff (front : List Char) :
    hiddenMark hidden <:+ front ++ hiddenMark other ↔ hidden = other := by
  constructor
  · intro ends
    rcases List.suffix_or_suffix_of_suffix ends (List.suffix_append front _) with isEnd | isEnd
    · exact eq_of_hiddenMark_suffix isEnd
    · exact (eq_of_hiddenMark_suffix isEnd).symm
  · rintro rfl
    exact List.suffix_append front _

end Mark

/-- Whether a node succeeded, in a word. -/
def statusWord (success : Bool) : String :=
  if success then "SUCCESS" else "FAILURE"

/-- What a line without styles says behind the name of the rule. -/
def outcomeText (node : Node) : String :=
  " " ++ statusWord node.success ++ s!" [{node.start}..{node.stop}] "

/-- Every level of depth indents by two spaces. -/
theorem flatMap_toList_replicate (depth : Nat) :
    (List.replicate depth "  ").flatMap String.toList = List.replicate (2 * depth) ' ' := by
  induction depth with
  | zero => rfl
  | succ depth ih =>
      rw [List.replicate_succ, List.flatMap_cons, ih, Nat.mul_succ, Nat.add_comm,
        List.replicate_add]
      rfl

theorem toList_treeLine (json : Bool) (below : Nat) (item : TreeItem) :
    (treeLine ⟨json, false⟩ below item).toList =
      List.replicate (2 * below) ' ' ++ item.node.rule.name.toList ++
        (outcomeText item.node).toList ++ (Duration.format item.node.nanos).toList ++
        (elision ⟨json, false⟩ item).toList := by
  simp [treeLine, flatMap_toList_replicate, outcomeText, statusLabel, statusWord, Format.paint,
    Text.Style.paint]

theorem toList_elision (json : Bool) (item : TreeItem) :
    (elision ⟨json, false⟩ item).toList =
      if item.node.hasChildren = true ∧ item.children = [] then
        ' ' :: hiddenMark item.node.children.length
      else [] := by
  by_cases left : item.node.hasChildren = true ∧ item.children = []
  · simp [elision, left, hiddenMark, Format.paint, Text.Style.paint, toString]
  · simp [elision, left]

/-- A line ends with a mark if children are left out, and the mark says how many. -/
theorem hiddenMark_suffix_treeLine_iff (json : Bool) (below : Nat) (item : TreeItem) :
    hiddenMark hidden <:+ (treeLine ⟨json, false⟩ below item).toList ↔
      item.node.hasChildren = true ∧ item.children = [] ∧ hidden = item.node.children.length := by
  rw [toList_treeLine, toList_elision]
  by_cases left : item.node.hasChildren = true ∧ item.children = []
  · rw [if_pos left, ← List.singleton_append, ← List.append_assoc, hiddenMark_suffix_iff]
    simp [left]
  · rcases Duration.format_ends item.node.nanos with ⟨front, ends⟩
    rw [if_neg left, ends, List.append_nil, ← List.append_assoc]
    constructor
    · exact fun ends => absurd ends (not_hiddenMark_suffix _)
    · exact fun isLeft => absurd ⟨isLeft.1, isLeft.2.1⟩ left

theorem newline_not_mem_outcomeText (node : Node) : '\n' ∉ (outcomeText node).toList := by
  have word : '\n' ∉ (statusWord node.success).toList := by
    cases node.success <;> decide
  simp [outcomeText, toString, word, Numeral.not_mem_toDigits '\n' rfl]

theorem newline_not_mem_elision (json : Bool) (item : TreeItem) :
    '\n' ∉ (elision ⟨json, false⟩ item).toList := by
  rw [toList_elision]
  split
  · simp [hiddenMark, Numeral.not_mem_toDigits '\n' rfl]
  · exact List.not_mem_nil

/-- Only the name of the rule brings newlines into a line. -/
theorem count_newline_treeLine (json : Bool) (below : Nat) (item : TreeItem) :
    (treeLine ⟨json, false⟩ below item).toList.count '\n' =
      item.node.rule.name.toList.count '\n' := by
  have blanks : (List.replicate (2 * below) ' ').count '\n' = 0 :=
    List.count_eq_zero.mpr fun present => absurd (List.eq_of_mem_replicate present) (by decide)
  rw [toList_treeLine, List.count_append, List.count_append, List.count_append, List.count_append,
    blanks, List.count_eq_zero.mpr (newline_not_mem_outcomeText item.node),
    List.count_eq_zero.mpr (Duration.newline_not_mem_format item.node.nanos),
    List.count_eq_zero.mpr (newline_not_mem_elision json item)]
  omega

/-- What the line says of a node that is shown so many levels below the start: it is indented by two
spaces a level, then it names the rule, the outcome and the span; and it ends with a mark if the node
lies at the depth limit and has children, which the mark counts. -/
structure ShowsNode (limit : Option Nat) (below : Nat) (node : Node) (text : List Char) : Prop where
  starts : List.replicate (2 * below) ' ' ++ node.rule.name.toList ++ (outcomeText node).toList <+:
    text
  marked : ∀ hidden, hiddenMark hidden <:+ text ↔
    limit = some below ∧ 0 < hidden ∧ hidden = node.children.length

theorem showsNode_treeLine {limit : Option Nat} (json : Bool) (below : Nat) {item : TreeItem}
    (leftOut : item.node.hasChildren = true → (item.children = [] ↔ limit = some below)) :
    ShowsNode limit below item.node (treeLine ⟨json, false⟩ below item).toList := by
  constructor
  · rw [toList_treeLine, List.append_assoc _ _ (elision _ _).toList]
    exact List.prefix_append _ _
  · intro hidden
    have some : item.node.hasChildren = true ↔ 0 < item.node.children.length := by
      simp [Node.hasChildren, List.length_pos_iff]
    rw [hiddenMark_suffix_treeLine_iff]
    constructor
    · rintro ⟨hasChildren, none, rfl⟩
      exact ⟨(leftOut hasChildren).mp none, some.mp hasChildren, rfl⟩
    · rintro ⟨atLimit, positive, rfl⟩
      exact ⟨some.mpr positive, (leftOut (some.mpr positive)).mpr atLimit, rfl⟩

theorem treeView_of_expand (styled : Bool) {id : NodeId} {limit : Option Nat} {tree : TreeItem}
    (expanded : session.store.expand id limit = .ok tree) :
    treeView ⟨false, styled⟩ session id limit =
      .ok (printLines (treeLines ⟨false, styled⟩ tree)) := by
  rw [treeView, expanded]
  rfl

/-- The tree below a stored node of a loaded trace, as it is printed without styles, for every depth
limit. It is printed node by node as it is expanded, every node before what lies below it. For every
node stands one text closed by a newline, and it shows the node as it is stored, indented by its level
below the start. Every newline in the name of a rule makes one line more than there are nodes; if there
is none, the texts are the lines. -/
theorem tree_is_printed_node_by_node
    (opened : Session.openFile files settings trace = .ok session)
    (ready : session.store.tracker.state = .ready) {place : Nat} {node : StoredNode}
    (stored : session.store.nodes[place]? = some node) (limit : Option Nat)
    {arguments : List String}
    (request : readRequest arguments = .run (.tree trace place limit) false) :
    ∃ tree output texts, session.store.expand place limit = .ok tree ∧ tree.node.id = place ∧
      tree.InPreorder (tree.subtrees 0) ∧
      run files settings false arguments = ⟨0, output, none⟩ ∧
      output.toList = Text.closeAll texts ∧
      List.Forall₂
        (fun entry text =>
          session.store.getNode entry.2.node.id = .ok entry.2.node ∧
          entry.2.node.level = node.level + entry.1 ∧
          ShowsNode limit entry.1 entry.2.node text)
        (tree.subtrees 0) texts ∧
      (Text.lines output.toList).length = tree.size +
        ((tree.subtrees 0).map fun entry => entry.2.node.rule.name.toList.count '\n').sum ∧
      ((∀ entry ∈ tree.subtrees 0, '\n' ∉ entry.2.node.rule.name.toList) →
        Text.lines output.toList = texts.map fun text => text ++ ['\n']) := by
  have coherent := Session.coherent_of_openFile opened
  have isOpen := Session.isOpen_of_openFile opened
  have found : Store.nodeAt? session.store.nodes place = some node := by
    rwa [Store.nodeAt?_natCast]
  rcases coherent.tree.exists_expand isOpen found limit with ⟨tree, expanded, top, shown⟩
  have printed := run_eq_of_shown opened ready request rfl (treeView_of_expand false expanded)
  have closed := toList_printLines (treeLines ⟨false, false⟩ tree)
  have nonempty : (treeLines ⟨false, false⟩ tree).map String.toList ≠ [] := by
    cases tree
    simp [treeLines, TreeItem.subtrees]
  refine ⟨tree, _, _, expanded, top, tree.inPreorder_subtrees, printed, closed, ?_, ?_, ?_⟩
  · rw [treeLines, List.map_map, List.forall₂_map_right_iff, List.forall₂_same]
    rintro ⟨below, item⟩ present
    rcases shown below item present with ⟨got, level, leftOut⟩
    exact ⟨got, level, showsNode_treeLine false below leftOut⟩
  · rw [closed, Text.length_lines_closeAll nonempty, treeLines]
    simp [TreeItem.length_subtrees, Function.comp_def, count_newline_treeLine]
  · intro noNewline
    rw [closed, Text.lines_closeAll nonempty]
    intro text present
    rcases List.mem_map.mp present with ⟨line, isLine, rfl⟩
    rcases List.mem_map.mp isLine with ⟨⟨below, item⟩, isShown, rfl⟩
    rw [← List.count_eq_zero, count_newline_treeLine, List.count_eq_zero]
    exact noNewline _ isShown

/-- The records of three invocations, each of which is made on behalf of the one before. -/
def threeDeep : String :=
  "-1;0;0;1;0;0;2;5\n0;1;1;1;0;0;1;3\n1;2;2;0;0;0;1;1\n"

theorem third_level_is_left_out : ∃ session tree output,
    Session.openFile (traceFiles "0;1;3;3\n" letter threeDeep) .defaults "t" = .ok session ∧
    session.store.expand 0 (some 1) = .ok tree ∧ tree.size = 2 ∧
    run (traceFiles "0;1;3;3\n" letter threeDeep) .defaults false ["tree", "t", "-d", "1"] =
      ⟨0, output, none⟩ ∧
    (Text.lines output.toList).length = 2 := by
  have readable : Capture.openHeader (.ofText "0;1;3;3\n") = .ok ⟨0, 1, 3, 3⟩ := by
    decide +kernel
  rcases exists_opened "0;1;3;3\n" letter threeDeep readable (by decide) with
    ⟨session, opened, store⟩
  have ready : session.store.tracker.state = .ready := by
    rw [store]
    decide +kernel
  have stored : session.store.nodes[0]? = some ⟨⟨none, 0, 0, true, 0, 2, 5⟩, 0⟩ := by
    rw [store]
    decide +kernel
  have request : readRequest ["tree", "t", "-d", "1"] = .run (.tree "t" 0 (some 1)) false := by
    decide +kernel
  rcases tree_is_printed_node_by_node opened ready stored (some 1) request with
    ⟨tree, output, _, expanded, _, _, printed, _, _, counted, _⟩
  replace expanded : session.store.expand 0 (some 1) = .ok tree := expanded
  have shape : (session.store.expand 0 (some 1)).map (fun tree => (tree.size,
      ((tree.subtrees 0).map fun entry => entry.2.node.rule.name.toList.count '\n').sum)) =
      .ok (2, 0) := by
    rw [store]
    decide +kernel
  rw [expanded] at shape
  obtain ⟨size, noNewlines⟩ := Prod.mk.inj (Except.ok.inj shape)
  rw [size, noNewlines] at counted
  exact ⟨session, tree, output, opened, expanded, size, printed, counted⟩

/-- The record of a rule with a newline in its name. -/
def brokenName : String := "0;CharMatcher;TERMINAL;\"a\nb\"\n"

/-- One node of this rule is expanded, and two lines are printed. -/
theorem broken_name_breaks_its_line : ∃ session tree,
    Session.openFile (traceFiles "0;1;1;1\n" brokenName "-1;0;0;1;0;0;1;5\n") .defaults "t" =
      .ok session ∧
    session.store.tracker.state = .ready ∧
    session.store.expand 0 none = .ok tree ∧ tree.size = 1 ∧
    run (traceFiles "0;1;1;1\n" brokenName "-1;0;0;1;0;0;1;5\n") .defaults false ["tree", "t"] =
      ⟨0, "a\nb SUCCESS [0..1] 5 ns\n", none⟩ ∧
    Text.lines "a\nb SUCCESS [0..1] 5 ns\n".toList =
      ["a\n".toList, "b SUCCESS [0..1] 5 ns\n".toList] := by
  have readable : Capture.openHeader (.ofText "0;1;1;1\n") = .ok ⟨0, 1, 1, 1⟩ := by
    decide +kernel
  rcases exists_opened "0;1;1;1\n" brokenName "-1;0;0;1;0;0;1;5\n" readable (by decide) with
    ⟨session, opened, store⟩
  have ready : session.store.tracker.state = .ready := by
    rw [store]
    decide +kernel
  have request : readRequest ["tree", "t"] = .run (.tree "t" 0 none) false := by decide +kernel
  have shown : treeView ⟨false, false⟩ session 0 none = .ok "a\nb SUCCESS [0..1] 5 ns\n" := by
    rw [treeView, store]
    decide +kernel
  have size : (session.store.expand 0 none).map TreeItem.size = .ok 1 := by
    rw [store]
    decide +kernel
  cases expanded : session.store.expand 0 none with
  | error cause => simp [expanded, Except.map] at size
  | ok tree =>
      rw [expanded] at size
      exact ⟨session, tree, opened, ready, expanded, Except.ok.inj size,
        run_eq_of_shown opened ready request rfl shown, by decide +kernel⟩

end CommandLine

end ParseTrace
