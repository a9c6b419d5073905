import GraphTable.Proofs.Graph.Scan

/-!
# What traversals mean

The steps of a traversal that can be evaluated ask for labels and then come to
an end, with a projection or without one.  Such a traversal shows every element
that has all the labels, once and in the order of the graph.  A step behind a
projection is an error, whatever the graph holds.
-/

namespace GraphTable

namespace Step

/-- The label that a step asks for, if it asks for one. -/
def label? : Step → Option String
  | .hasLabel label => some label
  | .valueMap => none
  | .elementMap => none

def labels (steps : List Step) : List String :=
  steps.filterMap label?

/-- Some step follows a projection. -/
def Exceeds (steps : List Step) : Prop :=
  ∃ before projection behind, steps = before ++ projection :: behind ∧
    projection.projects = true ∧ behind ≠ []

/-- The end of steps that do not exceed a projection. -/
inductive Closing : List Step → Prop
  | elements : Closing []
  | projection {step : Step} (projects : step.projects = true) :
      Closing [step]

variable {before closing steps : List Step} {asked : List String}

theorem exists_hasLabel_of_plain {step : Step}
    (plain : step.projects = false) : ∃ label, step = .hasLabel label := by
  cases step with
  | hasLabel label => exact ⟨label, rfl⟩
  | valueMap => cases plain
  | elementMap => cases plain

theorem exists_asked_of_plain
    (plain : ∀ step ∈ before, step.projects = false) :
    ∃ asked : List String, before = asked.map .hasLabel := by
  induction before with
  | nil => exact ⟨[], rfl⟩
  | cons first rest ih =>
      obtain ⟨label, rfl⟩ := exists_hasLabel_of_plain
        (plain first List.mem_cons_self)
      obtain ⟨asked, rfl⟩ := ih fun step mem =>
        plain step (List.mem_cons_of_mem _ mem)
      exact ⟨label :: asked, rfl⟩

/-- Steps ask for labels and come to an end, or go on behind a projection. -/
theorem closing_or_past (steps : List Step) :
    (∃ (asked : List String) (closing : List Step), Closing closing ∧
      steps = asked.map .hasLabel ++ closing) ∨
    ∃ (asked : List String) (projection step : Step) (behind : List Step),
      steps = asked.map .hasLabel ++ projection :: step :: behind ∧
        projection.projects = true := by
  induction steps with
  | nil => exact .inl ⟨[], [], .elements, rfl⟩
  | cons first rest ih =>
      cases projects : first.projects with
      | true =>
          cases rest with
          | nil => exact .inl ⟨[], [first], .projection projects, rfl⟩
          | cons step behind =>
              exact .inr ⟨[], first, step, behind, rfl, projects⟩
      | false =>
          obtain ⟨label, rfl⟩ := exists_hasLabel_of_plain projects
          rcases ih with ⟨asked, closing, closes, rfl⟩ |
            ⟨asked, projection, step, behind, rfl, projects⟩
          · exact .inl ⟨label :: asked, closing, closes, rfl⟩
          · exact .inr ⟨label :: asked, projection, step, behind, rfl, projects⟩

theorem Closing.not_exceeds (closes : Closing closing) (asked : List String) :
    ¬Exceeds (asked.map .hasLabel ++ closing) := by
  rintro ⟨before, projection, behind, split, projects, more⟩
  induction asked generalizing before with
  | nil =>
      cases closes with
      | elements => simp at split
      | projection =>
          cases before with
          | nil => exact more (List.cons_eq_cons.mp split).2.symm
          | cons => simp at split
  | cons label asked ih =>
      cases before with
      | nil =>
          obtain ⟨rfl, -⟩ := List.cons_eq_cons.mp split
          cases projects
      | cons first before => exact ih before (List.cons_eq_cons.mp split).2

theorem exists_closing_of_not_exceeds (within : ¬Exceeds steps) :
    ∃ (asked : List String) (closing : List Step), Closing closing ∧
      steps = asked.map .hasLabel ++ closing := by
  refine (closing_or_past steps).resolve_right ?_
  rintro ⟨asked, projection, step, behind, split, projects⟩
  exact within ⟨_, projection, _, split, projects, List.cons_ne_nil step behind⟩

theorem Closing.labels_eq (closes : Closing closing) (asked : List String) :
    labels (asked.map .hasLabel ++ closing) = asked := by
  have noLabel : closing.filterMap label? = [] := by
    cases closes with
    | elements => rfl
    | @projection step projects =>
        cases step with
        | hasLabel label => cases projects
        | valueMap => rfl
        | elementMap => rfl
  rw [labels, List.filterMap_append, List.filterMap_map, noLabel,
    List.append_nil]
  exact List.filterMap_some

theorem Closing.filter_eq (closes : Closing closing) (asked : List String) :
    (asked.map hasLabel ++ closing).filter projects = closing := by
  have kept : closing.filter projects = closing := by
    cases closes with
    | elements => rfl
    | projection projects => simp [projects]
  have dropped : (asked.map Step.hasLabel).filter projects = [] := by
    simp [projects]
  rw [List.filter_append, dropped, kept, List.nil_append]

end Step

namespace Graph

variable {graph : Graph} {source : Source} {asked : List String}
  {closing : List Step}

/-- The elements that have all of these labels. -/
def elementsWithAll (graph : Graph) (source : Source) (asked : List String) :
    List Element :=
  (graph.start source).filter fun element =>
    decide (∀ label ∈ asked, element.label = label)

def add (graph : Graph) : Element → Graph
  | .vertex vertex => graph.addVertex vertex
  | .edge edge => graph.addEdge edge

/-- What steps show of an element: its value map if there is a step that asks
for it, and its element map otherwise. -/
def shownBy (graph : Graph) (steps : List Step) (element : Element) : Json :=
  if Step.valueMap ∈ steps then valueMap element else graph.elementMap element

theorem shownBy_append (graph : Graph) (asked : List String)
    (closing : List Step) :
    graph.shownBy (asked.map .hasLabel ++ closing) = graph.shownBy closing := by
  funext element
  simp [shownBy]

theorem evaluateSteps_labels (graph : Graph) (elements : List Element)
    (asked : List String) (rest : List Step) :
    graph.evaluateSteps elements (asked.map .hasLabel ++ rest) =
      graph.evaluateSteps (elements.filter fun element =>
        decide (∀ label ∈ asked, element.label = label)) rest := by
  induction asked generalizing elements with
  | nil =>
      have all : elements.filter (fun element =>
          decide (∀ label ∈ ([] : List String), element.label = label)) =
            elements := by
        simp
      rw [all, List.map_nil, List.nil_append]
  | cons label asked ih =>
      rw [List.map_cons, List.cons_append, evaluateSteps, ih,
        List.filter_filter]
      congr 2
      funext element
      rw [Bool.eq_iff_iff]
      simp [and_comm]

theorem evaluateSteps_closing (graph : Graph) (elements : List Element)
    (closes : Step.Closing closing) :
    graph.evaluateSteps elements closing =
      .ok (elements.map (graph.shownBy closing)) := by
  cases closes with
  | elements => rfl
  | @projection step projects =>
      cases step with
      | hasLabel label => cases projects
      | valueMap => rfl
      | elementMap => rfl

theorem evaluate_closing (graph : Graph) (source : Source)
    (asked : List String) (closes : Step.Closing closing) :
    graph.evaluate ⟨source, asked.map .hasLabel ++ closing⟩ =
      .ok ((graph.elementsWithAll source asked).map
        (graph.shownBy closing)) := by
  rw [evaluate, evaluateSteps_labels, evaluateSteps_closing graph _ closes]
  rfl

/-- A step behind the first projection is an error. -/
theorem evaluate_past (graph : Graph) {traversal : Traversal}
    {projection step : Step} {behind : List Step}
    (split : traversal.steps =
      asked.map .hasLabel ++ projection :: step :: behind)
    (projects : projection.projects = true) :
    graph.evaluate traversal = .error (.unsupportedQuery
      s!"step {step.display} after a projection in {traversal.script}") := by
  have past : ∀ elements, graph.evaluateSteps elements
      (projection :: step :: behind) = .error step := by
    intro elements
    cases projection with
    | hasLabel label => cases projects
    | valueMap => rfl
    | elementMap => rfl
  rw [evaluate, split, evaluateSteps_labels, past]

/-- Evaluation fails exactly if some step follows a projection. -/
theorem evaluate_fails_iff (graph : Graph) (traversal : Traversal) :
    (∃ error, graph.evaluate traversal = .error error) ↔
      Step.Exceeds traversal.steps := by
  rcases Step.closing_or_past traversal.steps with
    ⟨asked, closing, closes, split⟩ |
    ⟨asked, projection, step, behind, split, projects⟩
  · obtain ⟨source, steps⟩ := traversal
    obtain rfl : steps = asked.map .hasLabel ++ closing := split
    refine iff_of_false ?_ (closes.not_exceeds asked)
    rintro ⟨error, failed⟩
    rw [graph.evaluate_closing source asked closes] at failed
    cases failed
  · exact iff_of_true ⟨_, graph.evaluate_past split projects⟩
      ⟨_, projection, _, split, projects, List.cons_ne_nil step behind⟩

theorem elementsWithAll_congr {others : List String}
    (same : ∀ label, label ∈ others ↔ label ∈ asked) :
    graph.elementsWithAll source others =
      graph.elementsWithAll source asked := by
  simp only [elementsWithAll, same]

theorem elementsWithAll_apart {first second : String}
    (firstAsked : first ∈ asked) (secondAsked : second ∈ asked)
    (apart : first ≠ second) : graph.elementsWithAll source asked = [] := by
  rw [elementsWithAll, List.filter_eq_nil_iff]
  intro element _ all
  have all := of_decide_eq_true all
  exact apart ((all first firstAsked).symm.trans (all second secondAsked))

theorem start_add (graph : Graph) (element : Element) (source : Source) :
    (graph.add element).start source =
      graph.start source ++ [element].filter (·.source = source) := by
  cases element with
  | vertex vertex =>
      cases source with
      | vertices => exact List.map_append
      | edges => exact (List.append_nil _).symm
  | edge edge =>
      cases source with
      | vertices => exact (List.append_nil _).symm
      | edges => exact List.map_append

theorem start_addAll (graph : Graph) (elements : List Element)
    (source : Source) :
    (elements.foldl add graph).start source =
      graph.start source ++ elements.filter (·.source = source) := by
  induction elements generalizing graph with
  | nil => exact (List.append_nil _).symm
  | cons element rest ih =>
      rw [List.foldl_cons, ih, start_add, List.append_assoc,
        ← List.filter_append]
      rfl

/-- Elements that are added come behind the others, in the order in which they
were added. -/
theorem elementsWithAll_addAll (graph : Graph) (elements : List Element)
    (source : Source) (asked : List String) :
    (elements.foldl add graph).elementsWithAll source asked =
      graph.elementsWithAll source asked ++
        elements.filter fun element => decide (element.source = source ∧
          ∀ label ∈ asked, element.label = label) := by
  have both : (elements.filter (·.source = source)).filter (fun element =>
      decide (∀ label ∈ asked, element.label = label)) =
        elements.filter fun element => decide (element.source = source ∧
          ∀ label ∈ asked, element.label = label) := by
    rw [List.filter_filter]
    congr 1
    funext element
    rw [Bool.decide_and, Bool.and_comm]
  rw [elementsWithAll, start_addAll, List.filter_append, both]
  rfl

/-- Evaluation fails exactly if some step follows a projection, which the graph
has no part in; the error names the step right behind the first projection, and
the whole script.  Otherwise every element that has all the labels is shown,
once and in the order in which they were added.  So it does not matter in which
order and how often the labels are asked for, no element has two labels, and
element maps are shown without being asked for. -/
theorem evaluate_meaning (graph : Graph) (traversal : Traversal) :
    ((∃ error, graph.evaluate traversal = .error error) ↔
      Step.Exceeds traversal.steps) ∧
    (∀ before projection step behind,
      traversal.steps = before ++ projection :: step :: behind →
      (∀ earlier ∈ before, earlier.projects = false) →
      projection.projects = true →
        graph.evaluate traversal = .error (.unsupportedQuery
          s!"step {step.display} after a projection in {traversal.script}")) ∧
    (¬Step.Exceeds traversal.steps →
      graph.evaluate traversal =
          .ok ((graph.elementsWithAll traversal.source
            (Step.labels traversal.steps)).map
              (graph.shownBy traversal.steps)) ∧
      (traversal.steps = (Step.labels traversal.steps).map .hasLabel ++
          traversal.steps.filter Step.projects ∧
        ∀ others : List String,
          (∀ label, label ∈ others ↔ label ∈ Step.labels traversal.steps) →
            graph.evaluate ⟨traversal.source, others.map .hasLabel ++
                traversal.steps.filter Step.projects⟩ =
              graph.evaluate traversal) ∧
      (∀ first ∈ Step.labels traversal.steps,
        ∀ second ∈ Step.labels traversal.steps, first ≠ second →
          graph.evaluate traversal = .ok [])) ∧
    ((∀ step ∈ traversal.steps, step.projects = false) →
      graph.evaluate ⟨traversal.source, traversal.steps ++ [.elementMap]⟩ =
        graph.evaluate traversal) ∧
    ∀ (added : List Element) (asked : List String),
      (added.foldl add graph).elementsWithAll traversal.source asked =
        graph.elementsWithAll traversal.source asked ++
          added.filter fun element =>
            decide (element.source = traversal.source ∧
              ∀ label ∈ asked, element.label = label) := by
  refine ⟨graph.evaluate_fails_iff traversal, ?_, ?_, ?_,
    fun added => graph.elementsWithAll_addAll added traversal.source⟩
  · intro before projection step behind split plain projects
    obtain ⟨asked, rfl⟩ := Step.exists_asked_of_plain plain
    exact graph.evaluate_past split projects
  · intro within
    obtain ⟨asked, closing, closes, split⟩ :=
      Step.exists_closing_of_not_exceeds within
    obtain ⟨source, steps⟩ := traversal
    obtain rfl : steps = asked.map .hasLabel ++ closing := split
    rw [closes.labels_eq, closes.filter_eq, shownBy_append,
      graph.evaluate_closing source asked closes]
    refine ⟨rfl, ⟨rfl, fun others same => ?_⟩, ?_⟩
    · rw [graph.evaluate_closing source others closes,
        elementsWithAll_congr same]
    · intro first firstAsked second secondAsked apart
      rw [elementsWithAll_apart firstAsked secondAsked apart]
      rfl
  · intro plain
    obtain ⟨source, steps⟩ := traversal
    obtain ⟨asked, rfl⟩ := Step.exists_asked_of_plain plain
    have elements := graph.evaluate_closing source asked .elements
    rw [List.append_nil] at elements
    rw [elements, graph.evaluate_closing source asked (.projection rfl)]
    rfl

end Graph

end GraphTable
