import GraphTable.Proofs.Outside.Log
import GraphTable.Proofs.Stream.Course

/-!
# The protocol of a stream

Whatever its cursor, its sink and its status do, and however they influence each
other, a stream deals with them in one way: rounds of a check, a pull and a
write, and then one ending.
-/

namespace GraphTable

variable {ω : Type}

def Call.contact : Call → Contact ω
  | .check running => .checked running
  | .pull answer => .pulled answer
  | .write candidate answer => .offered (pure candidate) answer

namespace Stream

variable {projector : Projector} {stats : StreamStats} {limit : Nat}
  {result : Option (Except StreamError StreamStats)} {made : List Call}

theorem notes_logged (cursor : Cursor ω) (sink : Sink ω) (status : Status ω) :
    Notes Call.contact Logged.mk cursor sink status cursor.logged sink.logged
      status.logged where
  check checked noted := Logged.act_of_eq checked _ noted
  pull pulled noted := Logged.act_of_eq pulled _ noted
  write offered noted := Sink.write_logged offered noted

/-- The contacts of a round after which a run goes on. -/
def roundLog (projector : Projector) (record : Json) (count : UInt64) :
    List (Contact ω) :=
  [.checked true, .pulled (.ok (some record)),
    .offered (pure (projector.candidate? record)) (.ok count)]

def roundsLog (projector : Projector) (rounds : List (Json × UInt64)) :
    List (Contact ω) :=
  rounds.flatMap fun (record, count) => roundLog projector record count

def Ending.log (projector : Projector) : Ending → List (Contact ω)
  | .cancelled => [.checked false]
  | .broken error => [.checked true, .pulled (.error error)]
  | .exhausted => [.checked true, .pulled (.ok none)]
  | .refused record error =>
      [.checked true, .pulled (.ok (some record)),
        .offered (pure (projector.candidate? record)) (.error error)]

def Course.log (projector : Projector) (course : Course) : List (Contact ω) :=
  roundsLog projector course.rounds ++ course.ending.log projector

theorem map_contact_rounds (projector : Projector)
    (rounds : List (Json × UInt64)) :
    (rounds.flatMap fun (record, count) =>
      roundCalls projector record count).map Call.contact =
        (roundsLog projector rounds : List (Contact ω)) := by
  rw [List.map_flatMap]
  rfl

theorem map_contact_course (projector : Projector) (course : Course) :
    (course.calls projector).map Call.contact =
      (course.log projector : List (Contact ω)) := by
  rw [Course.calls, List.map_append, map_contact_rounds, Course.log]
  cases course.ending <;> rfl

/-- Every pull comes right behind a check that found the query wanted. -/
def PullsChecked (log : List (Contact ω)) : Prop :=
  ∀ before answer behind, log = before ++ .pulled answer :: behind →
    ∃ earlier, before = earlier ++ [.checked true]

theorem PullsChecked.append {first second : List (Contact ω)}
    (firstChecked : PullsChecked first) (secondChecked : PullsChecked second) :
    PullsChecked (first ++ second) := by
  intro before answer behind split
  rcases List.append_eq_append_iff.mp split with
    ⟨more, beforeEq, secondEq⟩ | ⟨more, firstEq, behindEq⟩
  · obtain ⟨earlier, moreEq⟩ := secondChecked more answer behind secondEq
    exact ⟨first ++ earlier, by rw [beforeEq, moreEq, List.append_assoc]⟩
  · cases more with
    | nil =>
        obtain ⟨earlier, noneBefore⟩ :=
          secondChecked [] answer behind behindEq.symm
        simp at noneBefore
    | cons contact more =>
        cases behindEq
        exact firstChecked before answer more firstEq

theorem pullsChecked_of_noPull {log : List (Contact ω)}
    (noPull : ∀ answer, .pulled answer ∉ log) : PullsChecked log := by
  intro before answer behind split
  have inside : .pulled answer ∈ log := by
    rw [split]
    exact List.mem_append_right before List.mem_cons_self
  exact absurd inside (noPull answer)

theorem pullsChecked_of_oneRound {answer : Except StoreError (Option Json)}
    {rest : List (Contact ω)} (noPull : ∀ answer, .pulled answer ∉ rest) :
    PullsChecked (.checked true :: .pulled answer :: rest) := by
  intro before other behind split
  rcases before with _ | ⟨first, _ | ⟨second, before⟩⟩
  · cases split
  · cases split
    exact ⟨[], rfl⟩
  · cases split
    exact absurd (by simp) (noPull other)

theorem pullsChecked_ending (projector : Projector) (ending : Ending) :
    PullsChecked (ending.log projector : List (Contact ω)) := by
  cases ending with
  | cancelled => exact pullsChecked_of_noPull (by simp [Ending.log])
  | broken error => exact pullsChecked_of_oneRound (by simp)
  | exhausted => exact pullsChecked_of_oneRound (by simp)
  | refused record error => exact pullsChecked_of_oneRound (by simp)

theorem pullsChecked_roundsLog (projector : Projector)
    (rounds : List (Json × UInt64)) :
    PullsChecked (roundsLog projector rounds : List (Contact ω)) := by
  induction rounds with
  | nil => exact pullsChecked_of_noPull (by simp [roundsLog])
  | cons round rounds ih =>
      have first : PullsChecked
          (roundLog projector round.1 round.2 : List (Contact ω)) :=
        pullsChecked_of_oneRound (by simp)
      exact first.append ih

theorem Made.pullsChecked
    (isMade : Made projector limit stats result made) :
    PullsChecked (made.map Call.contact : List (Contact ω)) := by
  cases isMade with
  | finished course =>
      rw [map_contact_course]
      exact (pullsChecked_roundsLog _ _).append (pullsChecked_ending _ _)
  | unfinished rounds =>
      rw [map_contact_rounds]
      exact pullsChecked_roundsLog _ _

/-- A round after which a run goes on does not begin like a last one. -/
theorem roundLog_append_ne (projector : Projector) (record : Json)
    (count : UInt64) (ending : Ending) (first second : List (Contact ω)) :
    roundLog projector record count ++ first ≠
      ending.log projector ++ second := by
  cases ending <;> simp [roundLog, Ending.log]

theorem roundLog_append_cancel {projector : Projector} {record other : Json}
    {count number : UInt64} {first second : List (Contact ω)}
    (same : roundLog projector record count ++ first =
      roundLog projector other number ++ second) :
    first = second := by
  simp only [roundLog, List.cons_append, List.nil_append,
    List.cons.injEq] at same
  exact same.2.2.2

theorem nil_of_ending_append {projector : Projector} {ending other : Ending}
    {behind : List (Contact ω)}
    (same : ending.log projector = other.log projector ++ behind) :
    behind = [] := by
  cases ending <;> cases other <;> simp_all [Ending.log]

/-- Nothing stands behind an ending in rounds with a last part that is neither
one more round nor an ending with something behind it. -/
theorem nil_of_roundsLog {projector : Projector} {ending : Ending}
    {last behind : List (Contact ω)}
    (noRound : ∀ record count first,
      last ≠ roundLog projector record count ++ first)
    (nothing : last = ending.log projector ++ behind → behind = [])
    (rounds others : List (Json × UInt64))
    (same : roundsLog projector rounds ++ last =
      roundsLog projector others ++ (ending.log projector ++ behind)) :
    behind = [] := by
  induction rounds generalizing others with
  | nil =>
      cases others with
      | nil => exact nothing same
      | cons other others =>
          rw [roundsLog, roundsLog, List.flatMap_cons,
            List.append_assoc] at same
          exact absurd same (noRound other.1 other.2 _)
  | cons round rounds ih =>
      cases others with
      | nil =>
          rw [roundsLog, List.flatMap_cons, List.append_assoc] at same
          exact absurd same (roundLog_append_ne _ round.1 round.2 _ _ _)
      | cons other others =>
          rw [roundsLog, roundsLog, List.flatMap_cons, List.flatMap_cons,
            List.append_assoc, List.append_assoc] at same
          exact ih others (roundLog_append_cancel same)

/-- Behind an ending there is no contact. -/
theorem Made.nil_of_append {behind : List (Contact ω)}
    (isMade : Made projector limit stats result made) (course : Course)
    (split : made.map Call.contact = course.log projector ++ behind) :
    behind = [] := by
  rw [Course.log, List.append_assoc] at split
  cases isMade with
  | finished own =>
      rw [map_contact_course, Course.log] at split
      refine nil_of_roundsLog ?_ nil_of_ending_append own.rounds course.rounds
        split
      intro record count first same
      apply roundLog_append_ne projector record count own.ending first []
      rw [List.append_nil, same]
  | unfinished rounds =>
      rw [map_contact_rounds] at split
      have splitNil : roundsLog projector rounds ++ [] =
          roundsLog projector course.rounds ++
            (course.ending.log projector ++ behind) := by
        rw [List.append_nil]
        exact split
      refine nil_of_roundsLog ?_ ?_ rounds course.rounds splitNil
      · intro record count first same
        cases same
      · intro same
        exact (List.append_eq_nil_iff.mp same.symm).2

/-- A stream has nothing to do with the store but its cursor. -/
theorem openings_map_contact (calls : List Call) :
    (calls.map Call.contact : List (Contact ω)).filterMap
      Contact.opening? = [] := by
  rw [List.filterMap_eq_nil_iff]
  intro met mem
  obtain ⟨call, _, rfl⟩ := List.mem_map.mp mem
  cases call <;> rfl

theorem error?_of_mem_roundsLog {rounds : List (Json × UInt64)}
    {met : Contact ω} (mem : met ∈ roundsLog projector rounds) :
    met.error? = none := by
  obtain ⟨round, _, inRound⟩ := List.mem_flatMap.mp mem
  simp only [roundLog, List.mem_cons, List.not_mem_nil, or_false] at inRound
  rcases inRound with rfl | rfl | rfl <;> rfl

theorem result_of_mem_ending {ending : Ending} {met : Contact ω}
    {error : StreamError} (mem : met ∈ ending.log projector)
    (failed : met.error? = some error) (stats : StreamStats) :
    ending.result stats = .error error := by
  cases ending <;> simp only [Ending.log, List.mem_cons, List.not_mem_nil,
    or_false] at mem <;> grind [Contact.error?, Ending.result]

/-- An error that a run meets is its result. -/
theorem Made.result_of_error {met : Contact ω} {error : StreamError}
    (isMade : Made projector limit stats result made)
    (mem : met ∈ made.map Call.contact) (failed : met.error? = some error) :
    result = some (.error error) := by
  cases isMade with
  | finished course =>
      rw [map_contact_course] at mem
      rcases List.mem_append.mp mem with inRounds | atEnd
      · rw [error?_of_mem_roundsLog inRounds] at failed
        cases failed
      · rw [Course.result, result_of_mem_ending atEnd failed]
  | unfinished rounds =>
      rw [map_contact_rounds] at mem
      rw [error?_of_mem_roundsLog mem] at failed
      cases failed

/-- A run deals with the outside in rounds, each of a check that finds the query
wanted, a pull of a record and a write of what the projector makes of just this
record, and in one ending, which tells its result.  A run that is cut off by the
bound of its cursor has made full rounds only.  No pull comes without a check
right before it, and no call of any kind comes behind the ending. -/
theorem run_protocol (cursor : Cursor ω) (projector : Projector)
    (sink : Sink ω) (status : Status ω) (world : ω) :
    ∃ result after log,
      run cursor projector sink status world = (result, after) ∧
      run cursor.logged projector sink.logged status.logged ⟨world, []⟩ =
        (result, ⟨after, log⟩) ∧
      ((∃ course : Course,
          log = roundsLog projector course.rounds ++
            course.ending.log projector ∧
          result = some (course.ending.result
            (.counting course.rounds.length
              (course.rounds.map fun round => round.2.toNat).sum false))) ∨
        ∃ rounds, log = roundsLog projector rounds ∧ result = none ∧
          rounds.length = cursor.bound world + 1) ∧
      PullsChecked log ∧
      ∀ (course : Course) (behind : List (Contact ω)),
        log = course.log projector ++ behind → behind = [] := by
  rcases ended : run cursor projector sink status world with ⟨result, after⟩
  rw [run_apply] at ended
  obtain ⟨made, isMade, logged⟩ :=
    (notes_logged cursor sink status).rounds (cursor.bound world + 1) ended
  refine ⟨result, after, made.map Call.contact, rfl, logged [], ?_,
    isMade.pullsChecked, fun course behind => isMade.nil_of_append course⟩
  cases isMade with
  | finished course =>
      refine .inl ⟨course, map_contact_course _ _, ?_⟩
      rw [Course.result, course.stats_start]
  | unfinished rounds length_eq =>
      exact .inr ⟨rounds, map_contact_rounds _ _, rfl, length_eq⟩

end Stream

end GraphTable
