import GraphTable.Graph.Session
import GraphTable.Proofs.Entries

/-!
# Open cursors

A cursor gives the results that it was opened with, one after the other and then
its end, whatever happens to the graph and to other cursors in the meantime.
Only a pull on the cursor itself and an opening under its name change what it
still has to give.
-/

namespace GraphTable

namespace GraphCommand

/-- What a command makes of a graph. -/
def changed (graph : Graph) : GraphCommand → Graph
  | .addVertex vertex => graph.addVertex vertex
  | .addEdge edge => graph.addEdge edge
  | .registerQuery script results => graph.registerQuery script results
  | .evaluate _ => graph
  | .submit _ _ => graph
  | .traverse _ _ => graph
  | .next _ => graph

/-- A command opens a cursor over the results that the graph has for it. -/
inductive Opens (graph : Graph) (cursor : String) :
    GraphCommand → List Json → Prop
  | submit {script : String} {records : List Json}
      (registered : graph.submit script = .ok records) :
      Opens graph cursor (.submit cursor script) records
  | traverse {traversal : Traversal} {records : List Json}
      (evaluated : graph.evaluate traversal = .ok records) :
      Opens graph cursor (.traverse cursor traversal) records

def pulls (cursor : String) : GraphCommand → Bool
  | .next name => name = cursor
  | _ => false

/-- None of the commands opens a cursor, each with the graph that it finds. -/
def NoneOpens (cursor : String) : Graph → List GraphCommand → Prop
  | _, [] => True
  | graph, command :: rest =>
      (∀ records, ¬command.Opens graph cursor records) ∧
        NoneOpens cursor (command.changed graph) rest

variable {graph : Graph} {cursor : String} {command : GraphCommand}

theorem eq_next_of_pulls (pulled : command.pulls cursor = true) :
    command = .next cursor := by
  cases command with
  | next name => rw [of_decide_eq_true pulled]
  | _ => cases pulled

theorem changed_of_opens {records : List Json}
    (opens : command.Opens graph cursor records) :
    command.changed graph = graph := by
  cases opens <;> rfl

/-- In every history a cursor is never opened, or there is a last opening. -/
theorem noneOpens_or_opened (cursor : String) (graph : Graph)
    (commands : List GraphCommand) :
    NoneOpens cursor graph commands ∨
      ∃ before opening behind records,
        commands = before ++ opening :: behind ∧
          opening.Opens (before.foldl changed graph) cursor records ∧
          NoneOpens cursor (before.foldl changed graph) behind := by
  induction commands generalizing graph with
  | nil => exact .inl trivial
  | cons command rest ih =>
      rcases ih (command.changed graph) with noneOpens |
        ⟨before, opening, behind, records, rfl, opens, noneOpens⟩
      · by_cases opened : ∃ records, command.Opens graph cursor records
        · obtain ⟨records, opens⟩ := opened
          rw [changed_of_opens opens] at noneOpens
          exact .inr ⟨[], command, rest, records, rfl, opens, noneOpens⟩
        · exact .inl ⟨not_exists.mp opened, noneOpens⟩
      · exact .inr ⟨command :: before, opening, behind, records, rfl, opens,
          noneOpens⟩

end GraphCommand

namespace GraphReply

/-- The answers to the pulls on a cursor, in order. -/
def answers (cursor : String) (commands : List GraphCommand)
    (replies : List GraphReply) : List GraphReply :=
  ((commands.zip replies).filter fun asked => asked.1.pulls cursor).map Prod.snd

theorem answers_cons (cursor : String) (command : GraphCommand)
    (commands : List GraphCommand) (reply : GraphReply)
    (replies : List GraphReply) :
    answers cursor (command :: commands) (reply :: replies) =
      if command.pulls cursor then reply :: answers cursor commands replies
      else answers cursor commands replies := by
  rw [answers, List.zip_cons_cons, List.filter_cons]
  split <;> rfl

/-- The first answers of a cursor over records: the records, and then the end as
often as it is asked for. -/
def given (records : List Json) (count : Nat) : List GraphReply :=
  (records.take count).map .record ++
    List.replicate (count - records.length) .finished

theorem given_nil (count : Nat) :
    given [] (count + 1) = .finished :: given [] count := by
  simp [given, List.replicate_succ]

theorem given_cons (record : Json) (records : List Json) (count : Nat) :
    given (record :: records) (count + 1) =
      .record record :: given records count := by
  simp [given]

end GraphReply

namespace GraphSession

open GraphCommand GraphReply

variable {session : GraphSession} {cursor : String} {command : GraphCommand}
  {records : List Json}

theorem run_cons (session : GraphSession) (command : GraphCommand)
    (rest : List GraphCommand) :
    session.run (command :: rest) =
      ((session.step command).1 :: ((session.step command).2.run rest).1,
        ((session.step command).2.run rest).2) :=
  rfl

theorem run_append (session : GraphSession) (first second : List GraphCommand) :
    session.run (first ++ second) =
      ((session.run first).1 ++ ((session.run first).2.run second).1,
        ((session.run first).2.run second).2) := by
  induction first generalizing session with
  | nil => rfl
  | cons command rest ih =>
      rw [List.cons_append, run_cons, run_cons, ih, List.cons_append]

theorem length_run (session : GraphSession) (commands : List GraphCommand) :
    (session.run commands).1.length = commands.length := by
  induction commands generalizing session with
  | nil => rfl
  | cons command rest ih => exact congrArg (· + 1) (ih _)

theorem openCursor_graph (session : GraphSession) (cursor : String)
    (results : Except StoreError (List Json)) :
    (session.openCursor cursor results).2.graph = session.graph := by
  cases results <;> rfl

theorem step_graph (session : GraphSession) (command : GraphCommand) :
    (session.step command).2.graph = command.changed session.graph := by
  cases command with
  | addVertex vertex => rfl
  | addEdge edge => rfl
  | registerQuery script results => rfl
  | evaluate traversal =>
      rw [step]
      cases session.graph.evaluate traversal <;> rfl
  | submit name script => exact session.openCursor_graph _ _
  | traverse name traversal => exact session.openCursor_graph _ _
  | next name =>
      rw [step]
      rcases session.cursors.get? name with _ | _ | _ <;> rfl

theorem run_graph (session : GraphSession) (commands : List GraphCommand) :
    (session.run commands).2.graph = commands.foldl changed session.graph := by
  induction commands generalizing session with
  | nil => rfl
  | cons command rest ih =>
      rw [List.foldl_cons, ← step_graph]
      exact ih _

theorem openCursor_other {name : String} (session : GraphSession)
    (results : Except StoreError (List Json))
    (other : ∀ records, results = .ok records → name ≠ cursor) :
    (session.openCursor name results).2.cursors.get? cursor =
      session.cursors.get? cursor := by
  cases results with
  | error error => rfl
  | ok records => exact Entries.lookup?_insert_other (other records rfl) _

/-- A cursor is left alone by every command that neither opens it nor pulls. -/
theorem step_other (session : GraphSession)
    (notOpened : ∀ records, ¬command.Opens session.graph cursor records)
    (notPulled : command ≠ .next cursor) :
    (session.step command).2.cursors.get? cursor =
      session.cursors.get? cursor := by
  cases command with
  | addVertex vertex => rfl
  | addEdge edge => rfl
  | registerQuery script results => rfl
  | evaluate traversal =>
      rw [step]
      cases session.graph.evaluate traversal <;> rfl
  | submit name script =>
      apply openCursor_other
      rintro records registered rfl
      exact notOpened records (.submit registered)
  | traverse name traversal =>
      apply openCursor_other
      rintro records evaluated rfl
      exact notOpened records (.traverse evaluated)
  | next name =>
      have differ : name ≠ cursor := by
        rintro rfl
        exact notPulled rfl
      rw [step]
      rcases session.cursors.get? name with _ | _ | _
      · rfl
      · rfl
      · exact Entries.lookup?_insert_other differ _

theorem step_opened (opens : command.Opens session.graph cursor records) :
    (session.step command).1 = .opened ∧
      (session.step command).2.cursors.get? cursor = some records := by
  have opened :
      session.step command = session.openCursor cursor (.ok records) := by
    cases opens with
    | submit registered => rw [step, registered]
    | traverse evaluated => rw [step, evaluated]
  rw [opened]
  exact ⟨rfl, Entries.lookup?_insert_same _⟩

theorem step_finished (stands : session.cursors.get? cursor = some []) :
    session.step (.next cursor) = (.finished, session) := by
  rw [step, stands]

theorem step_record {record : Json}
    (stands : session.cursors.get? cursor = some (record :: records)) :
    (session.step (.next cursor)).1 = .record record ∧
      (session.step (.next cursor)).2.cursors.get? cursor = some records := by
  rw [step, stands]
  exact ⟨rfl, Entries.lookup?_insert_same _⟩

/-- Once a cursor stands at records, its pulls are answered from these, until it
is opened again. -/
theorem run_of_stands (commands : List GraphCommand)
    (stands : session.cursors.get? cursor = some records)
    (noneOpens : NoneOpens cursor session.graph commands) :
    answers cursor commands (session.run commands).1 =
      given records (commands.countP (·.pulls cursor)) := by
  induction commands generalizing session records with
  | nil => simp [answers, given]
  | cons command rest ih =>
      obtain ⟨notOpened, restNone⟩ := noneOpens
      rw [← step_graph] at restNone
      rw [run_cons, answers_cons, List.countP_cons]
      cases pulled : command.pulls cursor with
      | false =>
          have notPulled : command ≠ .next cursor := by
            rintro rfl
            simp [pulls] at pulled
          have later := session.step_other notOpened notPulled
          exact ih (later.trans stands) restNone
      | true =>
          obtain rfl := eq_next_of_pulls pulled
          rw [if_pos rfl, if_pos rfl]
          cases records with
          | nil =>
              rw [step_finished stands] at restNone ⊢
              rw [given_nil, ih stands restNone]
          | cons record records =>
              obtain ⟨reply, later⟩ := step_record stands
              rw [given_cons, reply, ih later restNone]

/-- What a cursor has to give is left alone by every command that neither opens
it nor pulls it, and no cursor has a part in what becomes of the graph.  In every
history a cursor is never opened, or there is a last opening.  From an opening up
to the next one all pulls on the cursor, with whatever other commands between
them, are answered in order by the results that the graph had at that moment, and
then by the end for ever. -/
theorem cursors_isolated (session : GraphSession) (cursor : String) :
    (∀ command : GraphCommand,
      (∀ records, ¬command.Opens session.graph cursor records) →
      command ≠ .next cursor →
        (session.step command).2.cursors.get? cursor =
          session.cursors.get? cursor) ∧
    (∀ commands, (session.run commands).2.graph =
      commands.foldl changed session.graph) ∧
    (∀ commands, NoneOpens cursor session.graph commands ∨
      ∃ before opening behind records,
        commands = before ++ opening :: behind ∧
          opening.Opens (before.foldl changed session.graph) cursor records ∧
          NoneOpens cursor (before.foldl changed session.graph) behind) ∧
    ∀ before opening behind further records,
      opening.Opens (before.foldl changed session.graph) cursor records →
      NoneOpens cursor (before.foldl changed session.graph) behind →
        ∃ earlier later rest,
          (session.run (before ++ opening :: (behind ++ further))).1 =
            earlier ++ .opened :: (later ++ rest) ∧
          earlier.length = before.length ∧
          later.length = behind.length ∧
          answers cursor behind later =
            given records (behind.countP (·.pulls cursor)) := by
  refine ⟨fun command => session.step_other, session.run_graph,
    noneOpens_or_opened cursor session.graph, ?_⟩
  intro before opening behind further records opens noneOpens
  rw [← run_graph] at opens noneOpens
  generalize reached : (session.run before).2 = atOpening at opens noneOpens
  obtain ⟨reply, stands⟩ := step_opened opens
  have unchanged : (atOpening.step opening).2.graph = atOpening.graph := by
    rw [step_graph, changed_of_opens opens]
  rw [← unchanged] at noneOpens
  refine ⟨(session.run before).1, ((atOpening.step opening).2.run behind).1,
    (((atOpening.step opening).2.run behind).2.run further).1, ?_,
    length_run _ _, length_run _ _, run_of_stands behind stands noneOpens⟩
  rw [run_append, run_cons, run_append, reached, reply]

/-- A cursor goes on with what was registered when it was opened. -/
example :
    (initial.run [.registerQuery " q " [.null, .bool true], .submit "c" "q",
        .next "c", .registerQuery "q" [], .submit "d" "q", .submit "c" "r",
        .next "d", .next "c", .next "c"]).1 =
      [.done, .opened, .record .null, .done, .opened,
        .failed (.unsupportedQuery "r"), .finished, .record (.bool true),
        .finished] := by
  rfl

end GraphSession

end GraphTable
