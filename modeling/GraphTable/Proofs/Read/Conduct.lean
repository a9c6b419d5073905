import GraphTable.Proofs.Read.Complete
import GraphTable.Proofs.Request.Kinds
import GraphTable.Proofs.Stream.Protocol

/-!
# The conduct of reads

The metadata of a request settle what a read asks of the store: nothing, or one
thing.  Unless this gives it a cursor, a read leaves its sink and its status
alone.  Errors of the outside come through unchanged.
-/

namespace GraphTable

namespace Read

/-- What is settled about a read before it asks anything of the outside. -/
inductive Plan where
  | unknown (error : RequestError)
  /-- The kind of the table is known, but there is nothing to ask. -/
  | incomplete (error : RequestError)
  | ask (kind : TableKind) (opening : Opening)

/-- What a plan asks of the store. -/
def Plan.openings : Plan → List Opening
  | .unknown _ => []
  | .incomplete _ => []
  | .ask _ opening => [opening]

/-- Make the plan of a request. -/
def plan (request : ReadRequest) : Plan :=
  match request.schema.kind with
  | .error error => .unknown error
  | .ok kind =>
      match opening request kind with
      | .error error => .incomplete error
      | .ok opening => .ask kind opening

end Read

namespace ReadRequest

/-- What the metadata of a request settle, with the name of its table where they
give no label. -/
inductive Plans (request : ReadRequest) : Read.Plan → Prop
  | absent
      (isAbsent : request.schema.metadata.get? Schema.kindKey = none) :
      request.Plans (.unknown (.missingMetadata Schema.kindKey))
  | unrecognized {text : String} {error : RequestError}
      (given : request.schema.metadata.get? Schema.kindKey = some text)
      (refused : TableKind.parse text = .error error) :
      request.Plans (.unknown (.unrecognizedKind text))
  | vertex {text label : String}
      (given : request.schema.metadata.get? Schema.kindKey = some text)
      (parsed : TableKind.parse text = .ok .vertex)
      (asks : request.AsksFor label) :
      request.Plans
        (.ask .vertex (.traverse ⟨.vertices, [.hasLabel label, .valueMap]⟩))
  | edge {text label : String}
      (given : request.schema.metadata.get? Schema.kindKey = some text)
      (parsed : TableKind.parse text = .ok .edge)
      (asks : request.AsksFor label) :
      request.Plans
        (.ask .edge (.traverse ⟨.edges, [.hasLabel label, .elementMap]⟩))
  | view {text script : String}
      (given : request.schema.metadata.get? Schema.kindKey = some text)
      (parsed : TableKind.parse text = .ok .view)
      (query : request.schema.metadata.get? Schema.queryKey = some script) :
      request.Plans (.ask .view (.submit script))
  | noQuery {text : String}
      (given : request.schema.metadata.get? Schema.kindKey = some text)
      (parsed : TableKind.parse text = .ok .view)
      (isAbsent : request.schema.metadata.get? Schema.queryKey = none) :
      request.Plans (.incomplete (.missingMetadata Schema.queryKey))

variable {request : ReadRequest}

theorem kind_of_given {text : String}
    (given : request.schema.metadata.get? Schema.kindKey = some text) :
    request.schema.kind = TableKind.parse text := by
  rw [Schema.kind, given]

theorem Plans.plan_eq {plan : Read.Plan} (plans : request.Plans plan) :
    Read.plan request = plan := by
  cases plans with
  | absent isAbsent =>
      have unknown : request.schema.kind =
          .error (.missingMetadata Schema.kindKey) := by
        rw [Schema.kind, isAbsent]
      rw [Read.plan, unknown]
  | unrecognized given refused =>
      rw [Read.plan, kind_of_given given, refused,
        TableKind.eq_of_parse_error refused]
  | vertex given parsed asks =>
      rw [Read.plan, kind_of_given given, parsed, ← asks.label_eq]
      rfl
  | edge given parsed asks =>
      rw [Read.plan, kind_of_given given, parsed, ← asks.label_eq]
      rfl
  | @view _ script given parsed query =>
      have asked : request.schema.query = .ok script := by
        rw [Schema.query, query]
      rw [Read.plan, kind_of_given given, parsed]
      simp only [Read.opening, asked]
      rfl
  | noQuery given parsed isAbsent =>
      have missing : request.schema.query =
          .error (.missingMetadata Schema.queryKey) := by
        rw [Schema.query, isAbsent]
      rw [Read.plan, kind_of_given given, parsed]
      simp only [Read.opening, missing]
      rfl

theorem plans_plan (request : ReadRequest) :
    request.Plans (Read.plan request) := by
  have settled : ∃ plan, request.Plans plan := by
    cases given : request.schema.metadata.get? Schema.kindKey with
    | none => exact ⟨_, .absent given⟩
    | some text =>
        cases parsed : TableKind.parse text with
        | error error => exact ⟨_, .unrecognized given parsed⟩
        | ok kind =>
            have asks := request.asksFor_label
            cases kind with
            | vertex => exact ⟨_, .vertex given parsed asks⟩
            | edge => exact ⟨_, .edge given parsed asks⟩
            | view =>
                cases query : request.schema.metadata.get? Schema.queryKey with
                | none => exact ⟨_, .noQuery given parsed query⟩
                | some script => exact ⟨_, .view given parsed query⟩
  obtain ⟨plan, plans⟩ := settled
  rw [plans.plan_eq]
  exact plans

end ReadRequest

namespace Read

variable {ω : Type} {store : Store ω} {strict : Bool} {request : ReadRequest}
  {status : Status ω} {sink : Sink ω} {options : Dict String}
  {world after opened : ω} {error : RequestError} {kind : TableKind}
  {asked : Opening}

theorem run_of_unknown (planned : plan request = .unknown error) :
    run store strict request status sink options world =
      (some (if strict then .error (.request error) else .ok unhandled),
        world) := by
  unfold plan at planned
  split at planned
  · next unknown =>
      cases planned
      unfold run
      simp only [unknown]
      cases strict <;> rfl
  · split at planned <;> cases planned

theorem run_of_incomplete (planned : plan request = .incomplete error) :
    run store strict request status sink options world =
      (some (.error (.request error)), world) := by
  unfold plan at planned
  split at planned
  · cases planned
  · next known =>
      split at planned
      · next missing =>
          cases planned
          unfold run
          simp only [known, missing]
          rfl
      · cases planned

theorem eq_of_plan_ask (planned : plan request = .ask kind asked) :
    request.schema.kind = .ok kind ∧ opening request kind = .ok asked := by
  unfold plan at planned
  split at planned
  · cases planned
  · next known =>
      split at planned
      · cases planned
      · next isAsked =>
          cases planned
          exact ⟨known, isAsked⟩

theorem run_of_failed {failure : StoreError}
    (planned : plan request = .ask kind asked)
    (failed : openCursor store asked world = (.error failure, after)) :
    run store strict request status sink options world =
      (some (.error (.store failure)), after) := by
  obtain ⟨isKind, isAsked⟩ := eq_of_plan_ask planned
  unfold run
  simp only [isKind, isAsked, bind_apply, failed]
  rfl

/-- The ways in which a read can go, by its plan: its result, the world that it
leaves and the contacts that it makes. -/
inductive Conduct (store : Store ω) (strict : Bool) (request : ReadRequest)
    (status : Status ω) (sink : Sink ω) (options : Dict String) (world : ω) :
    Plan → Option (Except ReadError ReadSummary) → ω → List (Contact ω) → Prop
  | ignored (error : RequestError) (isLenient : strict = false) :
      Conduct store strict request status sink options world
        (.unknown error) (some (.ok unhandled)) world []
  | rejected (error : RequestError) (isStrict : strict = true) :
      Conduct store strict request status sink options world
        (.unknown error) (some (.error (.request error))) world []
  | incomplete (error : RequestError) :
      Conduct store strict request status sink options world
        (.incomplete error) (some (.error (.request error))) world []
  | unopened {kind : TableKind} {asked : Opening} {failure : StoreError}
      {after : ω}
      (failed : openCursor store asked world = (.error failure, after)) :
      Conduct store strict request status sink options world
        (.ask kind asked) (some (.error (.store failure))) after
        [.opened asked (some failure)]
  | streamed {kind : TableKind} {asked : Opening} {cursor : Cursor ω}
      {opened after : ω} {result : Option (Except StreamError StreamStats)}
      {made : List Call}
      (answered : openCursor store asked world = (.ok cursor, opened))
      (ran : Stream.run cursor (request.projector kind options) sink status
        opened = (result, after))
      (isMade : Stream.Made (request.projector kind options)
        (cursor.bound opened + 1) {} result made) :
      Conduct store strict request status sink options world
        (.ask kind asked) (conclude kind result) after
        (.opened asked none :: made.map Call.contact)

/-- A read goes in one of these ways, and its log tells how it went. -/
theorem conduct_logged (store : Store ω) (strict : Bool) (request : ReadRequest)
    (status : Status ω) (sink : Sink ω) (options : Dict String) (world : ω) :
    ∃ result after log,
      run store strict request status sink options world = (result, after) ∧
      run store.logged strict request status.logged sink.logged options
        ⟨world, []⟩ = (result, ⟨after, log⟩) ∧
      Conduct store strict request status sink options world (plan request)
        result after log := by
  cases planned : plan request with
  | unknown error =>
      refine ⟨_, _, _, run_of_unknown planned, run_of_unknown planned, ?_⟩
      cases strict with
      | false => exact .ignored error rfl
      | true => exact .rejected error rfl
  | incomplete error =>
      exact ⟨_, _, _, run_of_incomplete planned, run_of_incomplete planned,
        .incomplete error⟩
  | ask kind asked =>
      rcases answered : openCursor store asked world with
        ⟨failure | cursor, opened⟩
      · exact ⟨_, _, _, run_of_failed planned answered,
          run_of_failed planned (openCursor_logged answered []),
          .unopened answered⟩
      · obtain ⟨isKind, isAsked⟩ := eq_of_plan_ask planned
        rcases ran : Stream.run cursor (request.projector kind options) sink
          status opened with ⟨result, after⟩
        obtain ⟨made, isMade, logged⟩ :=
          (Stream.notes_logged cursor sink status).rounds _ ran
        have ranLogged : Stream.run cursor.logged
            (request.projector kind options) sink.logged status.logged
            ⟨opened, [.opened asked none]⟩ =
              (result, ⟨after, .opened asked none ::
                made.map Call.contact⟩) :=
          logged _
        refine ⟨conclude kind result, after, _, ?_, ?_,
          .streamed answered ran isMade⟩
        · rw [run_of_opened isKind isAsked answered, ran]
        · rw [run_of_opened isKind isAsked (openCursor_logged answered [])]
          simp only [StoreError.ofAnswer?, List.nil_append, ranLogged]

section Conduct

variable {planned : Plan} {result : Option (Except ReadError ReadSummary)}
  {log : List (Contact ω)}

theorem Conduct.openings_eq
    (conduct : Conduct store strict request status sink options world planned
      result after log) :
    log.filterMap Contact.opening? = planned.openings := by
  cases conduct with
  | ignored | rejected | incomplete | unopened => rfl
  | streamed answered ran isMade =>
      simp only [List.filterMap_cons, Contact.opening?,
        Stream.openings_map_contact]
      rfl

/-- An error that the stream of a read meets is the result of the read. -/
theorem Conduct.result_of_error {contact : Contact ω} {error : StreamError}
    (conduct : Conduct store strict request status sink options world planned
      result after log)
    (mem : contact ∈ log) (failed : contact.error? = some error) :
    result = some (.error error.toReadError) := by
  cases conduct with
  | ignored | rejected | incomplete => cases mem
  | unopened =>
      obtain rfl := List.mem_singleton.mp mem
      cases failed
  | streamed answered ran isMade =>
      rcases List.mem_cons.mp mem with rfl | inStream
      · cases failed
      · rw [isMade.result_of_error inStream failed]
        rfl

end Conduct

theorem run_strict_congr (isKnown : ∀ error, plan request ≠ .unknown error)
    (first second : Bool) :
    run store first request status sink options world =
      run store second request status sink options world := by
  cases isKind : request.schema.kind with
  | error error =>
      apply absurd _ (isKnown error)
      rw [plan, isKind]
  | ok kind =>
      unfold run
      simp only [isKind]

/-- The metadata of a request settle a plan, before anything is known of the
store, the options, the sink or the status.  A read asks the store for what is
in its plan and for nothing else, and it has contact with the sink and the
status only if this gave it a cursor; a contact with the cursor or the sink that
ends in an error makes this error its result.  Whether the reader is strict
matters only where the kind of the table is not known. -/
theorem run_conduct (request : ReadRequest) :
    ∃ planned : Plan,
      (∀ other, request.Plans other ↔ other = planned) ∧
      ∀ {ω : Type} (store : Store ω) (strict : Bool) (status : Status ω)
        (sink : Sink ω) (options : Dict String) (world : ω),
        ∃ result after log,
          run store strict request status sink options world =
            (result, after) ∧
          run store.logged strict request status.logged sink.logged options
            ⟨world, []⟩ = (result, ⟨after, log⟩) ∧
          log.filterMap Contact.opening? = planned.openings ∧
          Conduct store strict request status sink options world planned
            result after log ∧
          (∀ error, .pulled (.error error) ∈ log →
            result = some (.error (.store error))) ∧
          (∀ produce error, .offered produce (.error error) ∈ log →
            result = some (.error (.sink error))) ∧
          (run store (!strict) request status sink options world ≠
              (result, after) →
            ∃ error, planned = .unknown error) := by
  refine ⟨plan request, fun other => ⟨fun plans => plans.plan_eq.symm, ?_⟩, ?_⟩
  · rintro rfl
    exact request.plans_plan
  intro ω store strict status sink options world
  obtain ⟨result, after, log, ran, logged, conduct⟩ :=
    conduct_logged store strict request status sink options world
  refine ⟨result, after, log, ran, logged, conduct.openings_eq, conduct,
    ?_, ?_, ?_⟩
  · intro error mem
    exact conduct.result_of_error mem rfl
  · intro produce error mem
    exact conduct.result_of_error mem rfl
  · intro differ
    refine Classical.byContradiction fun isKnown => differ ?_
    rw [← ran]
    exact run_strict_congr (not_exists.mp isKnown) (!strict) strict

end Read

end GraphTable
