import GraphTable.Graph.Evaluate
import GraphTable.Proofs.Entries
import GraphTable.Proofs.Text.Blank

/-!
# Registered queries

A script that is submitted is answered by the results that were registered last
for the same script, where blank characters around a script do not matter and
everything inside it does.  Registrations of other scripts have no part in this.
-/

namespace GraphTable

/-- Two scripts are the same but for blank characters around them. -/
def SameScript (first second : String) : Prop :=
  Text.trim first = Text.trim second

instance : DecidableRel SameScript :=
  fun first second =>
    inferInstanceAs (Decidable (Text.trim first = Text.trim second))

theorem sameScript_iff {first second core other : String}
    (firstPadded : Text.Padded core first)
    (secondPadded : Text.Padded other second) :
    SameScript first second ↔ core = other := by
  rw [SameScript, firstPadded.trim_eq, secondPadded.trim_eq]

namespace Graph

/-- A script with the results that are registered for it. -/
abbrev Registration := String × List Json

variable {graph : Graph} {registrations others : List Registration}
  {script : String} {results : List Json}

def registerAll (graph : Graph) (registrations : List Registration) : Graph :=
  registrations.foldl (fun graph entry => graph.registerQuery entry.1 entry.2)
    graph

/-- The entries under which results are registered. -/
def keyed (registrations : List Registration) : Entries (List Json) :=
  registrations.map fun entry => (Text.trim entry.1, entry.2)

theorem queries_registerAll (graph : Graph)
    (registrations : List Registration) :
    (graph.registerAll registrations).queries.entries =
      Entries.insertAll graph.queries.entries (keyed registrations) := by
  induction registrations generalizing graph with
  | nil => rfl
  | cons entry rest ih => exact ih (graph.registerQuery entry.1 entry.2)

theorem get?_registerAll (graph : Graph) (registrations : List Registration)
    (name : String) :
    (graph.registerAll registrations).queries.get? name =
      ((keyed registrations).last? name).or (graph.queries.get? name) := by
  rw [Dict.get?, queries_registerAll, Entries.lookup?_insertAll, Dict.get?]

theorem submit_congr {other : Graph}
    (same : other.queries.get? (Text.trim script) =
      graph.queries.get? (Text.trim script)) :
    other.submit script = graph.submit script := by
  rw [submit, submit, same]

theorem submit_eq_ok_iff :
    graph.submit script = .ok results ↔
      graph.queries.get? (Text.trim script) = some results := by
  rw [submit]
  cases graph.queries.get? (Text.trim script) <;> simp

theorem submit_eq_error_iff {error : StoreError} :
    graph.submit script = .error error ↔
      error = .unsupportedQuery script ∧
        graph.queries.get? (Text.trim script) = none := by
  rw [submit]
  cases graph.queries.get? (Text.trim script) <;> simp [eq_comm]

theorem notMem_names_keyed :
    Text.trim script ∉ (keyed registrations).names ↔
      ∀ entry ∈ registrations, ¬SameScript entry.1 script := by
  simp [keyed, Entries.names, SameScript]

/-- The results that were registered last for a script. -/
theorem last?_keyed_eq_some_iff :
    (keyed registrations).last? (Text.trim script) = some results ↔
      ∃ before registered behind,
        registrations = before ++ (registered, results) :: behind ∧
          SameScript registered script ∧
          ∀ later ∈ behind, ¬SameScript later.1 script := by
  rw [Entries.last?_eq_some_iff]
  constructor
  · rintro ⟨keyedBefore, keyedBehind, split, absent⟩
    obtain ⟨before, rest, rfl, -, restKeyed⟩ := List.map_eq_append_iff.mp split
    obtain ⟨⟨registered, found⟩, behind, rfl, same, rfl⟩ :=
      List.map_eq_cons_iff.mp restKeyed
    obtain ⟨sameScript, rfl⟩ := Prod.mk.inj same
    exact ⟨before, registered, behind, rfl, sameScript,
      notMem_names_keyed.mp absent⟩
  · rintro ⟨before, registered, behind, rfl, same, others⟩
    refine ⟨keyed before, keyed behind, ?_, notMem_names_keyed.mpr others⟩
    rw [keyed, List.map_append, List.map_cons, same]
    rfl

/-- Only the registrations of a script decide what is registered for it. -/
theorem last?_keyed_filter (registrations : List Registration)
    (script : String) :
    (keyed (registrations.filter fun entry =>
        SameScript entry.1 script)).last? (Text.trim script) =
      (keyed registrations).last? (Text.trim script) := by
  have filtered : keyed (registrations.filter fun entry =>
        SameScript entry.1 script) =
      (keyed registrations).filter fun entry =>
        entry.1 = Text.trim script := by
    rw [keyed, keyed, List.filter_map]
    rfl
  rw [filtered, Entries.last?, ← List.filter_reverse, Entries.lookup?_filter,
    Entries.last?]
  intro entry _ same
  exact decide_eq_true same

/-- What is registered for a script does not depend on how the registrations of
other scripts stand between its own. -/
theorem submit_of_sameFilter
    (sameOwn : (others.filter fun entry => SameScript entry.1 script) =
      registrations.filter fun entry => SameScript entry.1 script) :
    (graph.registerAll others).submit script =
      (graph.registerAll registrations).submit script := by
  apply submit_congr
  rw [get?_registerAll, get?_registerAll, ← last?_keyed_filter others, sameOwn,
    last?_keyed_filter]

/-- In a graph that knows no queries but those registered one after the other, a
script is answered by the results of the last registration for the same script.
Without one it is an error that names the script as it was submitted.  Scripts
are the same exactly if nothing tells them apart but blank characters around
them.  Registrations of other scripts can be left out, and the registrations can
be put in any order that keeps the order among those of each script. -/
theorem submit_registered (vertices : List Vertex) (edges : List Edge)
    (registrations : List Registration) :
    (∀ script results,
      (registerAll ⟨vertices, edges, Dict.empty⟩ registrations).submit script =
          .ok results ↔
        ∃ before registered behind,
          registrations = before ++ (registered, results) :: behind ∧
            SameScript registered script ∧
            ∀ later ∈ behind, ¬SameScript later.1 script) ∧
    (∀ script error,
      (registerAll ⟨vertices, edges, Dict.empty⟩ registrations).submit script =
          .error error ↔
        error = .unsupportedQuery script ∧
          ∀ entry ∈ registrations, ¬SameScript entry.1 script) ∧
    (∀ script, Text.Padded (Text.trim script) script) ∧
    (∀ first second core other,
      Text.Padded core first → Text.Padded other second →
        (SameScript first second ↔ core = other)) ∧
    (∀ script,
      (registerAll ⟨vertices, edges, Dict.empty⟩
          (registrations.filter fun entry => SameScript entry.1 script)).submit
            script =
        (registerAll ⟨vertices, edges, Dict.empty⟩ registrations).submit
          script) ∧
    ∀ others : List Registration,
      (∀ script, (others.filter fun entry => SameScript entry.1 script) =
        registrations.filter fun entry => SameScript entry.1 script) →
      ∀ script,
        (registerAll ⟨vertices, edges, Dict.empty⟩ others).submit script =
          (registerAll ⟨vertices, edges, Dict.empty⟩ registrations).submit
            script := by
  have noneBefore : ∀ name,
      (⟨vertices, edges, Dict.empty⟩ : Graph).queries.get? name = none :=
    fun _ => rfl
  refine ⟨?_, ?_, Text.padded_trim, fun _ _ _ _ => sameScript_iff, ?_, ?_⟩
  · intro script results
    rw [submit_eq_ok_iff, get?_registerAll, noneBefore, Option.or_none,
      last?_keyed_eq_some_iff]
  · intro script error
    rw [submit_eq_error_iff, get?_registerAll, noneBefore, Option.or_none,
      Entries.last?_eq_none_iff, notMem_names_keyed]
  · intro script
    apply submit_of_sameFilter
    rw [List.filter_filter]
    simp
  · exact fun others sameOwn script => submit_of_sameFilter (sameOwn script)

/-- Blanks around a script do not tell it apart, blanks inside it do. -/
example : SameScript "\u00a0g.V()\n" "g.V()" ∧
    ¬SameScript "g.V( )" "g.V()" := by
  decide

end Graph

end GraphTable
