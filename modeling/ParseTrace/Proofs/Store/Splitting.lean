import ParseTrace.Proofs.Store.Closed
import ParseTrace.Proofs.Store.Ingestion

/-!
# Batches in two parts

It makes no difference whether invocations come in one batch or in two, one after the other. Within a
batch the earlier ones are looked up among its rows, and in a second batch they are stored; the path is
carried on within a batch, and from one to the next it is noted. Both come to the same at every place
where a batch can be cut: the second part is taken as it would be behind the stored first part.

Only a part that is refused is told apart. A batch is stored as a whole or not at all, so in one batch
nothing is kept when the second part is refused, and the first part alone is kept when there are two.
-/

namespace ParseTrace.Store

variable {store middle after : Store} {known : List RuleId} {stored rows more : Array StoredNode}
  {path : List PathEntry} {front rest invocations : List Invocation} {cause : TraceError}

section Cut

/-- A batch is taken part by part. -/
theorem takeBatch_append {first : NodeId} (front rest : List Invocation) :
    takeBatch known stored first rows path (front ++ rest) =
      (takeBatch known stored first rows path front).bind fun taken =>
        takeBatch known stored first taken.1 taken.2 rest := by
  induction front generalizing rows path with
  | nil => rfl
  | cons invocation others ih =>
      rw [List.cons_append, takeBatch, takeBatch]
      split
      · rfl
      split
      · rfl
      split
      · rfl
      · exact ih

/-- Numbers are counted on behind a part of the batch as they are in a batch that begins there. -/
theorem idAt?_add {first offset place : Nat} (room : first + offset + place ≤ 2 ^ 31)
    (clear : 0 < first ∨ first + offset + place < 2 ^ 31) :
    idAt? first (offset + place) = idAt? ((first + offset : Nat) : Int) place := by
  by_cases inRange : first + offset + place < 2 ^ 31
  · rw [idAt?_eq (by omega), idAt?_eq inRange, Nat.add_assoc]
  · have behindNode : 0 < first := clear.resolve_right inRange
    rw [idAt?_of_full behindNode (by omega), idAt?_of_full (by omega) (by omega)]

/-- Behind a part of a batch the rest of it is taken like a batch of its own behind the part. -/
theorem takeBatch_cut (room : stored.size + rows.size + more.size ≤ 2 ^ 31)
    (clear : 0 < stored.size ∨
      stored.size + rows.size + more.size + invocations.length < 2 ^ 31) :
    takeBatch known stored stored.size (rows ++ more) path invocations =
      (takeBatch known (stored ++ rows) (stored ++ rows).size more path invocations).map
        fun taken => (rows ++ taken.1, taken.2) := by
  induction invocations generalizing more path with
  | nil => rfl
  | cons invocation others ih =>
      rw [List.length_cons] at clear
      have numbers := idAt?_add room (clear.imp_right fun _ => by omega)
      have levels : earlierLevel? stored stored.size (rows ++ more) =
          earlierLevel? (stored ++ rows) (stored ++ rows).size more := by
        rw [earlierLevel?_eq, earlierLevel?_eq, Array.append_assoc]
      rw [takeBatch, takeBatch, levels, Array.size_append, numbers, Array.size_append]
      cases numbered : idAt? ((stored.size + rows.size : Nat) : Int) more.size with
      | none => rfl
      | some id =>
          dsimp only
          cases checkInvocation known
              (earlierLevel? (stored ++ rows) ((stored.size + rows.size : Nat) : Int) more) path id
              invocation with
          | error corruption => rfl
          | ok parentPath =>
              dsimp only
              cases checkMeasures id invocation with
              | error corruption => rfl
              | ok _ =>
                  -- a number was left, for at the limit there is none behind a node
                  have inRange : stored.size + rows.size + more.size < 2 ^ 31 := by
                    by_contra full
                    have behindNode : 0 < stored.size := clear.resolve_right (by omega)
                    rw [idAt?_of_full (by omega) (by omega)] at numbered
                    cases numbered
                  dsimp only
                  rw [← Array.append_push, ← Array.size_append]
                  apply ih
                  · rw [Array.size_push]
                    omega
                  · refine clear.imp_right fun fits => ?_
                    rw [Array.size_push]
                    omega

end Cut

/-- A batch that is refused stays refused, whatever comes behind it. -/
theorem appendBatch_append_of_error (refused : store.appendBatch front = (.error cause, after)) :
    store.appendBatch (front ++ rest) = (.error cause, store) := by
  cases written : store.writer with
  | none =>
      rw [appendBatch_of_noWriter written] at refused ⊢
      cases refused
      rfl
  | some writer =>
      have nonempty : front ≠ [] := by
        rintro rfl
        rw [appendBatch_nil written] at refused
        cases refused
      have bothNonempty : front ++ rest ≠ [] := List.append_ne_nil_of_left_ne_nil nonempty rest
      cases closed : store.closed with
      | true =>
          rw [appendBatch_of_shut written closed nonempty] at refused
          cases refused
          exact appendBatch_of_shut written closed bothNonempty
      | false =>
          rw [appendBatch_of_open written closed nonempty] at refused
          rw [appendBatch_of_open written closed bothNonempty, takeBatch_append]
          split at refused
          next corruption outcome =>
            cases refused
            rw [outcome]
            rfl
          · split at refused
            · cases refused
            · cases refused

/-- A sound store that is open and has numbers left, with the notes of its writer. -/
structure Ready (store : Store) (writer : Writer) : Prop where
  sound : store.Sound
  written : store.writer = some writer
  isOpen : store.closed = false
  few : store.nodes.size < 2 ^ 31

namespace Ready

variable {writer : Writer} {first : NodeId} {crash : Crash}

/-- A batch is taken, and then it depends on the numbers left. Only the first batch of all could use up
the numbers without the writer noticing. -/
theorem appendBatch_eq (ready : store.Ready writer)
    (clear : store.nodes.size = 0 → invocations.length < 2 ^ 31) :
    store.appendBatch invocations =
      match takeBatch writer.known store.nodes store.nodes.size #[] writer.path invocations with
      | .error corruption => (.error (.corrupt corruption), store)
      | .ok (rows, path) =>
          if (store.nodes ++ rows).size < 2 ^ 31 then
            (.ok store.nodes.size, store.withNodes writer ⟨store.nodes ++ rows, path⟩)
          else (.crash .overflow, { store with nodes := store.nodes ++ rows, writer := none }) := by
  rcases ready with ⟨sound, written, isOpen, few⟩
  by_cases nothing : invocations = []
  · subst nothing
    simp only [appendBatch_nil written, takeBatch, Array.append_empty,
      sound.withNodes_self written few, sound.next_eq written, if_pos few]
  rw [appendBatch_of_open written isOpen nothing, sound.next_eq written]
  cases taken : takeBatch writer.known store.nodes store.nodes.size #[] writer.path invocations with
  | error corruption => rfl
  | ok result =>
      rcases result with ⟨rows, path⟩
      have fits := (sound.consistent_of_taken written few taken).1
      have grown : rows.size = invocations.length := by simpa using size_of_takeBatch taken
      have next := next_of_takeBatch (by omega) taken
      simp only [next, natCast_le_maxNodeId]
      split
      · simp [withNodes, grown, isOpen]
      · rfl

/-- Behind an accepted batch the store is ready for another one. -/
theorem of_appendBatch (ready : store.Ready writer)
    (clear : store.nodes.size = 0 → invocations.length < 2 ^ 31)
    (accepted : store.appendBatch invocations = (.ok first, after)) :
    ∃ rows path,
      takeBatch writer.known store.nodes store.nodes.size #[] writer.path invocations =
        .ok (rows, path) ∧
      first = store.nodes.size ∧ after = store.withNodes writer ⟨store.nodes ++ rows, path⟩ ∧
      after.Ready { writer with next := (store.nodes ++ rows).size, path } := by
  have stepped := ready.sound.step (.appendBatch invocations)
  rw [accepted] at stepped
  rw [ready.appendBatch_eq clear] at accepted
  split at accepted
  · cases accepted
  next rows path taken =>
  split at accepted
  next room =>
    cases accepted
    exact ⟨rows, path, taken, rfl, rfl, stepped room, rfl, ready.isOpen, room⟩
  · cases accepted

/-- Two batches at once end like the second of them does behind the first. -/
theorem appendBatch_append (ready : store.Ready writer)
    (clear : store.nodes.size = 0 → (front ++ rest).length < 2 ^ 31)
    (accepted : store.appendBatch front = (.ok first, middle)) :
    store.appendBatch (front ++ rest) =
      match middle.appendBatch rest with
      | (.ok _, after) => (.ok first, after)
      | (.error cause, _) => (.error cause, store)
      | (.crash crash, after) => (.crash crash, { after with tracker := store.tracker }) := by
  have whole := ready.appendBatch_eq clear
  rw [List.length_append] at clear
  rcases ready.of_appendBatch (fun empty => by have := clear empty; omega) accepted with
    ⟨rows, path, taken, rfl, left, middleReady⟩
  have nodes : middle.nodes = store.nodes ++ rows := by
    rw [left]
    rfl
  have size : rows.size = front.length := by simpa using size_of_takeBatch taken
  have room : store.nodes.size + rows.size < 2 ^ 31 := by
    rw [← Array.size_append, ← nodes]
    exact middleReady.few
  have middleClear : middle.nodes.size = 0 → rest.length < 2 ^ 31 := by
    intro empty
    rw [nodes, Array.size_append] at empty
    have := clear (by omega)
    omega
  -- the rest meets the same rows, levels and path, whichever way it comes
  have cut : takeBatch writer.known store.nodes store.nodes.size rows path rest =
      (takeBatch writer.known (store.nodes ++ rows) (store.nodes ++ rows).size #[] path
        rest).map fun taken => (rows ++ taken.1, taken.2) := by
    have empty : (#[] : Array StoredNode).size = 0 := rfl
    rw [← takeBatch_cut (by omega) (by omega), Array.append_empty]
  rw [takeBatch_append, taken, Except.bind, cut] at whole
  have second := middleReady.appendBatch_eq middleClear
  rw [nodes] at second
  cases outcome : takeBatch writer.known (store.nodes ++ rows) (store.nodes ++ rows).size #[] path
      rest with
  | error corruption =>
      rw [outcome] at whole second
      rw [whole, second]
      rfl
  | ok taken =>
      rw [outcome] at whole second
      simp only [Except.map, ← Array.append_assoc] at whole second
      by_cases fits : (store.nodes ++ rows ++ taken.1).size < 2 ^ 31
      · rw [if_pos fits] at whole second
        rw [whole, second, left, withNodes_withNodes (by simp) (by simp)]
      · rw [if_neg fits] at whole second
        rw [whole, second, left]
        rfl

/-- A batch that uses up the numbers leaves none for another one. -/
theorem appendBatch_append_of_crash (ready : store.Ready writer)
    (clear : store.nodes.size = 0 → (front ++ rest).length < 2 ^ 31) (nonempty : rest ≠ [])
    (crashed : store.appendBatch front = (.crash crash, middle)) :
    store.appendBatch (front ++ rest) = (.error (.corrupt .tooManyNodes), store) := by
  have whole := ready.appendBatch_eq clear
  rw [List.length_append] at clear
  rw [ready.appendBatch_eq fun empty => by have := clear empty; omega] at crashed
  split at crashed
  · cases crashed
  next rows path taken =>
  split at crashed
  · cases crashed
  next full =>
    have fits := (ready.sound.consistent_of_taken ready.written ready.few taken).1
    have size : rows.size = front.length := by simpa using size_of_takeBatch taken
    rw [Array.size_append] at full
    have behindNode : 0 < store.nodes.size := by
      by_contra empty
      have := clear (by omega)
      omega
    have noNumber : idAt? store.nodes.size rows.size = none :=
      idAt?_of_full behindNode (by omega)
    have refused : takeBatch writer.known store.nodes store.nodes.size rows path rest =
        .error .tooManyNodes := by
      rcases List.exists_cons_of_ne_nil nonempty with ⟨invocation, others, rfl⟩
      rw [takeBatch, noNumber]
    rw [takeBatch_append, taken, Except.bind, refused] at whole
    exact whole

end Ready

/-- A store that does not refuse a batch of invocations is ready for it. -/
theorem Reaches.exists_ready {label : String} {header : Header}
    (reached : Reaches (create label header) store) (nonempty : invocations ≠ [])
    (takes : ∀ cause, (store.appendBatch invocations).1 ≠ .error cause) :
    ∃ writer, store.Ready writer := by
  have isOpen : store.closed = false := by
    cases closed : store.closed with
    | false => rfl
    | true =>
        have refused := appendBatch_eq_of_closed closed nonempty
        exact absurd (congrArg Prod.fst refused) (takes _)
  rcases reached.sound_or_spent (sound_create label header) (Nat.two_pow_pos 31) with
    ⟨sound, few⟩ | spent
  · rcases sound.described with ⟨writer, written, _⟩
    exact ⟨writer, sound, written, isOpen, few⟩
  · rcases spent.exists_refusal nonempty with ⟨cause, refused⟩
    exact absurd (congrArg Prod.fst refused) (takes cause)

theorem first_of_appendBatch {writer : Writer} {first : NodeId} (written : store.writer = some writer)
    (accepted : store.appendBatch invocations = (.ok first, after)) : first = writer.next := by
  by_cases nothing : invocations = []
  · rw [nothing, appendBatch_nil written] at accepted
    cases accepted
    rfl
  cases closed : store.closed with
  | true =>
      rw [appendBatch_of_shut written closed nothing] at accepted
      cases accepted
  | false =>
      rw [appendBatch_of_open written closed nothing] at accepted
      split at accepted
      · cases accepted
      split at accepted
      · cases accepted
        rfl
      · cases accepted

/-- To hand over no invocations first makes no difference. -/
theorem appendBatch_behind_nil {first : NodeId} (accepted : store.appendBatch [] = (.ok first, middle)) :
    middle = store ∧
      ∀ second after, store.appendBatch rest = (.ok second, after) → second = first := by
  cases written : store.writer with
  | none =>
      rw [appendBatch_of_noWriter written] at accepted
      cases accepted
  | some writer =>
      have begins := first_of_appendBatch written accepted
      refine ⟨?_, ?_⟩
      · rw [appendBatch_nil written] at accepted
        exact (Prod.mk.inj accepted).2.symm
      · intro second after others
        rw [begins, first_of_appendBatch written others]

section Reached

variable {label : String} {header : Header}

theorem Reaches.appendBatch_append {first : NodeId} (reached : Reaches (create label header) store)
    (few : store.nodes.size = 0 → (front ++ rest).length < 2 ^ 31)
    (accepted : store.appendBatch front = (.ok first, middle)) :
    (∀ second after, middle.appendBatch rest = (.ok second, after) →
      store.appendBatch (front ++ rest) = (.ok first, after)) ∧
    (∀ cause after, middle.appendBatch rest = (.error cause, after) →
      store.appendBatch (front ++ rest) = (.error cause, store)) ∧
    ∀ crash after, middle.appendBatch rest = (.crash crash, after) →
      (store.appendBatch (front ++ rest)).1 = .crash crash := by
  by_cases nothing : front = []
  · subst nothing
    rcases appendBatch_behind_nil accepted with ⟨rfl, begins⟩
    refine ⟨?_, ?_, ?_⟩
    · intro second after others
      rw [List.nil_append, others, begins second after others]
    · intro cause after refused
      rw [List.nil_append, refused, (appendBatch_of_error refused).1]
    · intro crash after crashed
      rw [List.nil_append, crashed]
  · rcases reached.exists_ready nothing (by simp [accepted]) with ⟨writer, ready⟩
    rw [ready.appendBatch_append few accepted]
    refine ⟨?_, ?_, ?_⟩
    · intro second after others
      rw [others]
    · intro cause after refused
      rw [refused]
    · intro crash after crashed
      rw [crashed]

theorem Reaches.appendBatch_append_of_crash {crash : Crash}
    (reached : Reaches (create label header) store)
    (few : store.nodes.size = 0 → (front ++ rest).length < 2 ^ 31)
    (crashed : store.appendBatch front = (.crash crash, middle)) (first : NodeId) :
    (store.appendBatch (front ++ rest)).1 ≠ .ok first := by
  intro accepted
  by_cases nothing : rest = []
  · rw [nothing, List.append_nil, crashed] at accepted
    cases accepted
  · have nonempty : front ≠ [] := by
      rintro rfl
      cases written : store.writer with
      | none => simp [appendBatch_of_noWriter written] at crashed
      | some writer => simp [appendBatch_nil written] at crashed
    rcases reached.exists_ready nonempty (by simp [crashed]) with ⟨writer, ready⟩
    rw [ready.appendBatch_append_of_crash few nothing crashed] at accepted
    cases accepted

/-- A store at any moment of its run, open or closed, and any two batches. In one they are accepted
exactly if they are accepted in turn, which leaves the same store behind and gives the number of the
same first node. If either of them is refused, so are both at once, for the same reason. The numbers
have to suffice only if there is no node yet, for a writer that uses up all of them for its very first
batch does not notice. -/
theorem splitting_changes_nothing (reached : Reaches (create label header) store)
    (front rest : List Invocation)
    (few : store.nodes.size = 0 → (front ++ rest).length < 2 ^ 31) :
    ((∃ first after, store.appendBatch (front ++ rest) = (.ok first, after)) ↔
      ∃ first middle second after, store.appendBatch front = (.ok first, middle) ∧
        middle.appendBatch rest = (.ok second, after)) ∧
    (∀ cause after, store.appendBatch front = (.error cause, after) →
      store.appendBatch (front ++ rest) = (.error cause, store)) ∧
    ∀ first middle, store.appendBatch front = (.ok first, middle) →
      (∀ second after, middle.appendBatch rest = (.ok second, after) →
        store.appendBatch (front ++ rest) = (.ok first, after)) ∧
      (∀ cause after, middle.appendBatch rest = (.error cause, after) →
        store.appendBatch (front ++ rest) = (.error cause, store)) ∧
      ∀ crash after, middle.appendBatch rest = (.crash crash, after) →
        (store.appendBatch (front ++ rest)).1 = .crash crash := by
  refine ⟨⟨?_, ?_⟩, fun _ _ => appendBatch_append_of_error, fun _ _ => reached.appendBatch_append few⟩
  · rintro ⟨first, last, whole⟩
    rcases frontOutcome : store.appendBatch front with ⟨answer, middle⟩
    cases answer with
    | error cause =>
        rw [appendBatch_append_of_error frontOutcome] at whole
        cases whole
    | crash crash =>
        have refused := reached.appendBatch_append_of_crash few frontOutcome first
        exact absurd (congrArg Prod.fst whole) refused
    | ok number =>
        rcases reached.appendBatch_append few frontOutcome with ⟨_, refuses, crashes⟩
        rcases restOutcome : middle.appendBatch rest with ⟨answer, after⟩
        cases answer with
        | error cause =>
            rw [refuses cause after restOutcome] at whole
            cases whole
        | crash crash =>
            have crashed := crashes crash after restOutcome
            rw [whole] at crashed
            cases crashed
        | ok second => exact ⟨number, middle, second, after, rfl, restOutcome⟩
  · rintro ⟨first, middle, second, after, accepted, others⟩
    exact ⟨first, after, (reached.appendBatch_append few accepted).1 second after others⟩

end Reached

/-- The last invocation of four comes in a batch of its own. Its parent is one that the path has
left. -/
theorem breadthFirst_in_two_batches :
    let middle := (sample.appendBatch (breadthFirst.take 3)).2
    sample.appendBatch breadthFirst = (.ok 1, (middle.appendBatch (breadthFirst.drop 3)).2) := by
  intro middle
  have accepted : sample.appendBatch (breadthFirst.take 3) = (.ok 1, middle) :=
    Prod.ext (by decide) rfl
  have others : middle.appendBatch (breadthFirst.drop 3) =
      (.ok 4, (middle.appendBatch (breadthFirst.drop 3)).2) := Prod.ext (by decide) rfl
  have split := splitting_changes_nothing reaches_sample (breadthFirst.take 3) (breadthFirst.drop 3)
    (by decide)
  exact (split.2.2 1 middle accepted).1 4 _ others

end ParseTrace.Store
