import GraphTable.Proofs.Graph.Queries
import GraphTable.Proofs.Traversal.Script
import GraphTable.Rehearsal

/-!
# Traversals answered by their scripts

A store that does not evaluate traversals submits their scripts.  A graph in
which the records of traversals are registered for their scripts answers such a
store as if it had evaluated them: no two traversals share a script, and no
blank character stands at an end of a script that could be lost on the way.
-/

namespace GraphTable

theorem Source.script_last (source : Source) :
    source.script.getLast? = some ')' := by
  cases source <;> rfl

theorem Step.script_last (step : Step) : step.script.getLast? = some ')' := by
  cases step with
  | hasLabel label => exact List.getLast?_concat
  | valueMap => decide
  | elementMap => decide

/-- Calls behind a text that ends in a bracket end in a bracket. -/
theorem Step.last_of_calls (steps : List Step) {front : List Char}
    (last : front.getLast? = some ')') :
    (front ++ steps.flatMap script).getLast? = some ')' := by
  induction steps generalizing front with
  | nil => simpa using last
  | cons step steps ih =>
      have longer : (front ++ step.script).getLast? = some ')' := by
        rw [List.getLast?_append, step.script_last, Option.some_or]
      rw [List.flatMap_cons, ← List.append_assoc]
      exact ih longer

namespace Traversal

/-- A script starts with a letter and ends in a bracket. -/
theorem padded_script (traversal : Traversal) :
    Text.Padded traversal.script traversal.script where
  around := ⟨[], [], by simp, nofun, nofun⟩
  bareFirst := by
    rw [script_toList]
    rintro c ⟨⟩
    decide
  bareLast := by
    have last := Step.last_of_calls traversal.steps
      traversal.source.script_last
    rw [script_toList, List.getLast?_append, last]
    rintro c ⟨⟩
    decide

theorem sameScript_script_iff {first second : Traversal} :
    SameScript first.script second.script ↔ first = second := by
  rw [sameScript_iff first.padded_script second.padded_script]
  constructor
  · intro same
    have areRead := congrArg read? same
    rw [read?_script, read?_script] at areRead
    exact Option.some.inj areRead
  · rintro rfl
    rfl

end Traversal

/-- Pull on a cursor a number of times and collect the answers. -/
def Cursor.pulls {ω : Type} (cursor : Cursor ω) :
    (count : Nat) → StateM ω (List (Except StoreError (Option Json)))
  | 0 => return []
  | count + 1 => do
      let answer ← cursor.next
      return answer :: (← cursor.pulls count)

/-- In every world an opening gives a cursor, and pulls on it from then on give
just these records, in this order, and then the end for ever. -/
def OpensOver {ω : Type} (opening : StateM ω (Except StoreError (Cursor ω)))
    (records : List Json) : Prop :=
  ∀ world, ∃ cursor after, opening world = (.ok cursor, after) ∧
    ∀ count, (cursor.pulls count after).1 =
      (records.take count).map (fun record => .ok (some record)) ++
        List.replicate (count - records.length) (.ok none)

theorem Rehearsal.pulls_records (world : Rehearsal (List Json)) (count : Nat) :
    ((cursorOf .records).pulls count world).1 =
      (world.cursor.take count).map (fun record => .ok (some record)) ++
        List.replicate (count - world.cursor.length) (.ok none) := by
  induction count generalizing world with
  | zero =>
      rw [List.take_zero, Nat.zero_sub]
      rfl
  | succ count ih =>
      have first : ((cursorOf .records).pulls (count + 1) world).1 =
          ((cursorOf .records).next world).1 ::
            ((cursorOf .records).pulls count
              ((cursorOf .records).next world).2).1 :=
        rfl
      rw [first, ih]
      rcases held : world.cursor with _ | ⟨record, rest⟩
      · simp [cursorOf, Puller.records, Puller.nextRecord, held,
          List.replicate_succ]
      · simp [cursorOf, Puller.records, Puller.nextRecord, held]

theorem Rehearsal.openCursor_opensOver (records : List Json) :
    OpensOver (openCursor .records records) records := by
  intro world
  exact ⟨cursorOf .records, { world with cursor := records }, rfl,
    pulls_records { world with cursor := records }⟩

/-- A graph as a store that leaves traversals to their scripts. -/
def Rehearsal.scriptStore (graph : Graph) : Store (Rehearsal (List Json)) :=
  .ofSubmit (graphStore graph).submit

namespace Graph

/-- Traversals and their records, to be registered for their scripts. -/
def scripted (answers : List (Traversal × List Json)) : List Registration :=
  answers.map fun answer => (answer.1.script, answer.2)

variable {graph : Graph} {answers order : List (Traversal × List Json)}
  {traversal : Traversal} {records : List Json}

theorem evaluateSteps_registerQuery (graph : Graph) (script : String)
    (results : List Json) (elements : List Element) (steps : List Step) :
    (graph.registerQuery script results).evaluateSteps elements steps =
      graph.evaluateSteps elements steps := by
  induction steps generalizing elements with
  | nil => rfl
  | cons step rest ih =>
      cases step with
      | hasLabel label => exact ih _
      | valueMap => cases rest <;> rfl
      | elementMap => cases rest <;> rfl

/-- Evaluation does not look at what is registered. -/
theorem evaluate_registerAll (graph : Graph)
    (registrations : List Registration) (traversal : Traversal) :
    (graph.registerAll registrations).evaluate traversal =
      graph.evaluate traversal := by
  induction registrations generalizing graph with
  | nil => rfl
  | cons entry rest ih =>
      have first : (graph.registerQuery entry.1 entry.2).evaluate traversal =
          graph.evaluate traversal := by
        rw [evaluate, evaluateSteps_registerQuery]
        rfl
      exact (ih _).trans first

/-- A script is answered by its own registration, wherever it stands among
those of other traversals. -/
theorem submit_of_scripted (distinct : (answers.map Prod.fst).Nodup)
    (mem : (traversal, records) ∈ answers) :
    (graph.registerAll (scripted answers)).submit traversal.script =
      .ok records := by
  obtain ⟨before, behind, rfl⟩ := List.append_of_mem mem
  have others : traversal ∉ behind.map Prod.fst := by
    rw [List.map_append, List.map_cons, List.nodup_append] at distinct
    exact (List.nodup_cons.mp distinct.2.1).1
  have found : (keyed (scripted (before ++ (traversal, records) :: behind))).last?
      (Text.trim traversal.script) = some records := by
    rw [last?_keyed_eq_some_iff]
    refine ⟨scripted before, traversal.script, scripted behind,
      List.map_append, rfl, ?_⟩
    intro later laterMem same
    obtain ⟨answer, answerMem, rfl⟩ := List.mem_map.mp laterMem
    apply others
    rw [← Traversal.sameScript_script_iff.mp same]
    exact List.mem_map_of_mem answerMem
  rw [submit_eq_ok_iff, get?_registerAll, found, Option.some_or]

/-- The registrations of other traversals do not matter for a script. -/
theorem submit_of_not_scripted (notMem : traversal ∉ answers.map Prod.fst) :
    (graph.registerAll (scripted answers)).submit traversal.script =
      graph.submit traversal.script := by
  have notFound :
      (keyed (scripted answers)).last? (Text.trim traversal.script) = none := by
    rw [Entries.last?_eq_none_iff, notMem_names_keyed]
    intro entry entryMem same
    obtain ⟨answer, answerMem, rfl⟩ := List.mem_map.mp entryMem
    apply notMem
    rw [← Traversal.sameScript_script_iff.mp same]
    exact List.mem_map_of_mem answerMem
  apply submit_congr
  rw [get?_registerAll, notFound, Option.none_or]

theorem traverse_graphStore (accepted : graph.evaluate traversal = .ok records) :
    (Rehearsal.graphStore graph).traverse traversal =
      Rehearsal.openCursor .records records := by
  simp only [Rehearsal.graphStore, accepted, Rehearsal.openRecords]

theorem traverse_scriptStore
    (registered : graph.submit traversal.script = .ok records) :
    (Rehearsal.scriptStore graph).traverse traversal =
      Rehearsal.openCursor .records records := by
  simp only [Rehearsal.scriptStore, Store.ofSubmit, Rehearsal.graphStore,
    registered, Rehearsal.openRecords]

/-- Where the records of different traversals are registered for their scripts,
in whatever order, a store that submits the scripts opens a cursor over just the
records of each of them, and so does the graph that evaluates it; the one
opening is the other, before and after.  At every moment in between the script
of a traversal is answered by its records if they are registered by then, and as
it was at the beginning if they are not, so that no registration replaces that
of another traversal. -/
theorem scripts_answer_traversals (graph : Graph)
    (distinct : (answers.map Prod.fst).Nodup)
    (evaluated : ∀ answer ∈ answers, graph.evaluate answer.1 = .ok answer.2)
    (reordered : order.Perm answers) :
    (∀ answer ∈ answers,
      let registered := graph.registerAll (scripted order)
      let native := (Rehearsal.graphStore graph).traverse answer.1
      let byScript := (Rehearsal.scriptStore registered).traverse answer.1
      OpensOver native answer.2 ∧ OpensOver byScript answer.2 ∧
        byScript = native ∧
        (Rehearsal.graphStore registered).traverse answer.1 = native) ∧
    ∀ before behind, order = before ++ behind → ∀ traversal,
      (traversal ∈ before.map Prod.fst →
        (graph.registerAll (scripted before)).submit traversal.script =
          graph.evaluate traversal) ∧
      (traversal ∉ before.map Prod.fst →
        (graph.registerAll (scripted before)).submit traversal.script =
          graph.submit traversal.script) := by
  have orderDistinct : (order.map Prod.fst).Nodup :=
    (reordered.map Prod.fst).nodup_iff.mpr distinct
  refine ⟨fun answer mem => ?_, ?_⟩
  · have inOrder : answer ∈ order := reordered.mem_iff.mpr mem
    have native := traverse_graphStore (evaluated answer mem)
    have answered : (graph.registerAll (scripted order)).submit
        answer.1.script = .ok answer.2 :=
      submit_of_scripted orderDistinct inOrder
    have byScript := traverse_scriptStore answered
    have still := traverse_graphStore
      ((evaluate_registerAll graph (scripted order) answer.1).trans
        (evaluated answer mem))
    dsimp only
    rw [native, byScript, still]
    have opens := Rehearsal.openCursor_opensOver answer.2
    exact ⟨opens, opens, rfl, rfl⟩
  · rintro before behind rfl traversal
    refine ⟨fun isRegistered => ?_, submit_of_not_scripted⟩
    obtain ⟨answer, mem, rfl⟩ := List.mem_map.mp isRegistered
    have inAnswers : answer ∈ answers :=
      reordered.mem_iff.mp (List.mem_append_left behind mem)
    rw [List.map_append] at orderDistinct
    rw [submit_of_scripted (List.nodup_append.mp orderDistinct).1 mem,
      evaluated answer inAnswers]

/-- A graph in which labels differ by a blank, and in which the script of one of
the labels is registered already. -/
def blankLabels : Graph :=
  ((empty.addVertex ⟨.ofNat 1, "a", []⟩).addVertex
    ⟨.ofNat 2, "a ", []⟩).registerQuery " g.V().hasLabel('a')" [.null]

/-- Traversals whose scripts differ by a blank inside a literal, and their
records. -/
def blankAnswers : List (Traversal × List Json) :=
  [(⟨.vertices, [.hasLabel "a"]⟩,
      [.object [("id", .ofNat 1), ("label", .string "a")]]),
    (⟨.vertices, [.hasLabel "a "]⟩,
      [.object [("id", .ofNat 2), ("label", .string "a ")]])]

/-- The first script to be registered opens a cursor over its records, whatever
the cursor stood at before, and until the other one is registered it keeps the
answer that it had. -/
theorem blankAnswers_scripted :
    (∀ world, ∃ cursor after,
      (Rehearsal.scriptStore (blankLabels.registerAll
          (scripted blankAnswers.reverse))).traverse
            ⟨.vertices, [.hasLabel "a "]⟩ world = (.ok cursor, after) ∧
        (cursor.pulls 3 after).1 =
          [.ok (some (.object [("id", .ofNat 2), ("label", .string "a ")])),
            .ok none, .ok none]) ∧
    (blankLabels.registerAll (scripted (blankAnswers.reverse.take 1))).submit
        "g.V().hasLabel('a')" = .ok [.null] := by
  have distinct : (blankAnswers.map Prod.fst).Nodup := by decide
  have evaluated : ∀ answer ∈ blankAnswers,
      blankLabels.evaluate answer.1 = .ok answer.2 := by
    rintro answer (_ | ⟨_, _ | ⟨_, ⟨⟩⟩⟩) <;> rfl
  obtain ⟨cursors, moments⟩ := scripts_answer_traversals blankLabels distinct
    evaluated (List.reverse_perm blankAnswers)
  have before : blankLabels.submit "g.V().hasLabel('a')" = .ok [.null] := rfl
  obtain ⟨-, byScript, -, -⟩ :=
    cursors _ (List.mem_cons_of_mem _ List.mem_cons_self)
  constructor
  · intro world
    obtain ⟨cursor, after, opened, pulled⟩ := byScript world
    exact ⟨cursor, after, opened, pulled 3⟩
  · exact ((moments (blankAnswers.reverse.take 1) _ rfl
      ⟨.vertices, [.hasLabel "a"]⟩).2 (by decide)).trans before

end Graph

end GraphTable
