import Mathlib.Data.List.Forall2
import GraphTable.Proofs.Graph.Evaluation
import GraphTable.Proofs.Graph.Projections

/-!
# Growing graphs

What a graph shows grows with it: an element that is added is shown behind the
others, by traversals that find it.  Nothing that was shown before changes, but
the ends of edges: an end that is described by its identifier alone gains the
label of the first vertex that has the identifier.
-/

namespace GraphTable

namespace Entries

variable {α β : Type} {related : String × α → String × β → Prop}

/-- Entries with the same names are related place by place if they are related
name by name. -/
theorem forall₂_of_names {entries : Entries α} {others : Entries β}
    (distinct : entries.Distinct) (sameNames : others.names = entries.names)
    (byName : ∀ name value other, lookup? name entries = some value →
      lookup? name others = some other → related (name, value) (name, other)) :
    List.Forall₂ related entries others := by
  induction entries generalizing others with
  | nil =>
      obtain rfl : others = [] := List.map_eq_nil_iff.mp sameNames
      exact .nil
  | cons entry rest ih =>
      obtain ⟨name, value⟩ := entry
      obtain ⟨absent, restDistinct⟩ : name ∉ names rest ∧ Distinct rest := by
        simpa [Distinct, names] using distinct
      cases others with
      | nil => cases sameNames
      | cons otherEntry others =>
          obtain ⟨otherName, other⟩ := otherEntry
          obtain ⟨same, sameRest⟩ := List.cons_eq_cons.mp sameNames
          obtain rfl : otherName = name := same
          refine .cons (byName _ value other (if_pos rfl) (if_pos rfl)) ?_
          refine ih restDistinct sameRest ?_
          intro later laterValue laterOther found otherFound
          have differ : otherName ≠ later := by
            rintro rfl
            exact absent (List.mem_map_of_mem (mem_of_lookup? found))
          refine byName later laterValue laterOther ?_ ?_
          · rw [lookup?, if_neg differ, found]
          · rw [lookup?, if_neg differ, otherFound]

end Entries

namespace Graph

variable {graph : Graph} {vertex : Vertex} {id : Json}

/-- A vertex that is added to a graph is the first one with an identifier. -/
def Introduces (graph : Graph) (vertex : Vertex) (id : Json) : Prop :=
  vertex.id.same id = true ∧
    ∀ earlier ∈ graph.vertices, earlier.id.same id = false

theorem endpoint_of_introduces (introduces : graph.Introduces vertex id) :
    graph.endpoint id = .object [("id", id)] ∧
      (graph.addVertex vertex).endpoint id =
        .object [("id", id), ("label", .string vertex.label)] := by
  have noneEarlier :
      (graph.vertices.find? fun earlier => earlier.id.same id) = none := by
    rw [List.find?_eq_none]
    intro earlier mem
    rw [introduces.2 earlier mem]
    exact Bool.false_ne_true
  have found : ((graph.vertices ++ [vertex]).find? fun other =>
      other.id.same id) = some vertex := by
    rw [List.find?_append, noneEarlier, Option.none_or, List.find?_singleton,
      if_pos introduces.1]
  constructor
  · rw [endpoint, noneEarlier]
  · rw [endpoint, addVertex, found]

theorem endpoint_of_not_introduces (other : ¬graph.Introduces vertex id) :
    (graph.addVertex vertex).endpoint id = graph.endpoint id := by
  have found : ((graph.vertices ++ [vertex]).find? fun other =>
      other.id.same id) =
        graph.vertices.find? fun earlier => earlier.id.same id := by
    rw [List.find?_append]
    cases earlier : graph.vertices.find? fun earlier => earlier.id.same id with
    | some first => rfl
    | none =>
        have notSame : ¬vertex.id.same id = true := by
          intro same
          refine other ⟨same, fun earlierVertex mem => ?_⟩
          exact Bool.eq_false_iff.mpr (List.find?_eq_none.mp earlier _ mem)
        rw [Option.none_or, List.find?_singleton, if_neg notSame]
  rw [endpoint, endpoint, addVertex, found]

/-- What becomes of an entry of the element map of an edge when a vertex is
added: an entry that describes an end gains the label if this vertex is the
first one with the identifier, and every other entry stays as it is. -/
inductive Gains (graph : Graph) (vertex : Vertex) (edge : Edge) :
    String × Json → String × Json → Prop
  | label {key : String} {id : Json} (isEnd : (key, id) ∈ edge.ends)
      (unreplaced : key ∉ edge.properties.names)
      (introduces : graph.Introduces vertex id) :
      Gains graph vertex edge (key, .object [("id", id)])
        (key, .object [("id", id), ("label", .string vertex.label)])
  | same (entry : String × Json)
      (otherwise : ∀ id, (entry.1, id) ∈ edge.ends →
        entry.1 ∉ edge.properties.names → ¬graph.Introduces vertex id) :
      Gains graph vertex edge entry entry

theorem ends_distinct (edge : Edge) : edge.ends.Distinct := by
  simp [Edge.ends, Entries.Distinct, Entries.names]

theorem notMem_ends_of_token {edge : Edge} {name : String} {value : Json}
    (isToken : Entries.lookup? name edge.tokens = some value) :
    name ∉ edge.ends.names := by
  have mem : name ∈ edge.tokens.names :=
    List.mem_map_of_mem (Entries.mem_of_lookup? isToken)
  have apart : ∀ token ∈ ["id", "label"], token ∉ ["IN", "OUT"] := by
    decide
  exact apart name mem

theorem lookup?_edgeMembers (graph : Graph) (edge : Edge) (name : String) :
    Entries.lookup? name (graph.members (.edge edge)) =
      (edge.properties.last? name).or
        ((Entries.lookup? name edge.tokens).or
          ((Entries.lookup? name edge.ends).map graph.endpoint)) := by
  rw [lookup?_members_edge, Entries.lookup?_append, ← Entries.lookup?_map]
  rfl

/-- The entries of the element map of an edge, place by place, when a vertex is
added. -/
theorem members_edge_addVertex (graph : Graph) (vertex : Vertex)
    (edge : Edge) :
    List.Forall₂ (Gains graph vertex edge) (graph.members (.edge edge))
      ((graph.addVertex vertex).members (.edge edge)) := by
  have sameNames : ((graph.addVertex vertex).members (.edge edge)).names =
      (graph.members (.edge edge)).names :=
    Entries.names_insertAll_congr rfl rfl
  refine Entries.forall₂_of_names (graph.members_edge_distinct edge)
    sameNames ?_
  intro name value other found otherFound
  rw [lookup?_edgeMembers] at found otherFound
  cases stored : edge.properties.last? name with
  | some property =>
      rw [stored, Option.some_or] at found otherFound
      obtain rfl := Option.some.inj (found.symm.trans otherFound)
      refine .same _ fun _ _ unreplaced => ?_
      rw [← Entries.last?_eq_none_iff, stored] at unreplaced
      cases unreplaced
  | none =>
      have unreplaced := Entries.last?_eq_none_iff.mp stored
      rw [stored, Option.none_or] at found otherFound
      cases isToken : Entries.lookup? name edge.tokens with
      | some token =>
          rw [isToken, Option.some_or] at found otherFound
          obtain rfl := Option.some.inj (found.symm.trans otherFound)
          refine .same _ fun id isEnd => ?_
          have isEndName : name ∈ edge.ends.names := List.mem_map_of_mem isEnd
          exact (notMem_ends_of_token isToken isEndName).elim
      | none =>
          rw [isToken, Option.none_or, Option.map_eq_some_iff]
            at found otherFound
          obtain ⟨id, isEnd, rfl⟩ := found
          obtain ⟨sameId, isSameEnd, rfl⟩ := otherFound
          obtain rfl := Option.some.inj (isEnd.symm.trans isSameEnd)
          by_cases introduces : graph.Introduces vertex id
          · obtain ⟨before, after⟩ := endpoint_of_introduces introduces
            rw [before, after]
            exact .label (Entries.mem_of_lookup? isEnd) unreplaced introduces
          · rw [endpoint_of_not_introduces introduces]
            refine .same _ fun otherId isOtherEnd _ => ?_
            have otherEnd :=
              Entries.lookup?_of_mem (ends_distinct edge) isOtherEnd
            obtain rfl := Option.some.inj (isEnd.symm.trans otherEnd)
            exact introduces

variable {source : Source} {asked : List String} {steps : List Step}
  {traversal : Traversal} {records : List Json}

/-- An element has all the labels that steps ask for. -/
def Element.Meets (element : Element) (steps : List Step) : Prop :=
  ∀ label ∈ Step.labels steps, element.label = label

instance (element : Element) (steps : List Step) :
    Decidable (element.Meets steps) :=
  inferInstanceAs
    (Decidable (∀ label ∈ Step.labels steps, element.label = label))

theorem evaluate_of_within (graph : Graph)
    (within : ¬Step.Exceeds traversal.steps) :
    graph.evaluate traversal =
      .ok ((graph.elementsWithAll traversal.source
        (Step.labels traversal.steps)).map
          (graph.shownBy traversal.steps)) := by
  obtain ⟨source, steps⟩ := traversal
  obtain ⟨asked, closing, closes, split⟩ :=
    Step.exists_closing_of_not_exceeds within
  obtain rfl : steps = asked.map .hasLabel ++ closing := split
  rw [graph.evaluate_closing source asked closes, closes.labels_eq,
    shownBy_append]

/-- An element that is added is found behind the others, or not at all. -/
theorem elementsWithAll_add (graph : Graph) (element : Element)
    (source : Source) (steps : List Step) :
    (graph.add element).elementsWithAll source (Step.labels steps) =
      graph.elementsWithAll source (Step.labels steps) ++
        if element.source = source ∧ element.Meets steps then [element]
        else [] := by
  have added := graph.elementsWithAll_addAll [element] source
    (Step.labels steps)
  simp only [List.filter_cons, List.filter_nil, decide_eq_true_eq] at added
  exact added

theorem exists_edges (graph : Graph) (asked : List String) :
    ∃ edges : List Edge,
      graph.elementsWithAll .edges asked = edges.map .edge :=
  ⟨_, List.filter_map⟩

/-- What is shown of an element depends neither on edges nor on queries. -/
theorem shownBy_of_vertices {other : Graph}
    (same : other.vertices = graph.vertices) (steps : List Step) :
    other.shownBy steps = graph.shownBy steps := by
  have sameEnds : other.endpoint = graph.endpoint := by
    funext id
    rw [endpoint, endpoint, same]
  funext element
  cases element with
  | vertex vertex => rfl
  | edge edge =>
      simp only [shownBy, elementMap, edgeElementMap, sameEnds]

/-- Neither a vertex nor a value map shows anything of other vertices. -/
theorem shownBy_addVertex {element : Element} (vertex : Vertex)
    (apart : element.source = .vertices ∨ .valueMap ∈ steps) :
    (graph.addVertex vertex).shownBy steps element =
      graph.shownBy steps element := by
  cases element with
  | vertex other => rfl
  | edge edge =>
      have isAsked := apart.resolve_left nofun
      rw [shownBy, shownBy, if_pos isAsked, if_pos isAsked]

theorem shownBy_edge (graph : Graph) (elementMaps : .valueMap ∉ steps) :
    graph.shownBy steps ∘ Element.edge = graph.edgeElementMap := by
  funext edge
  exact if_neg elementMaps

theorem evaluate_add_beside {element : Element}
    (within : ¬Step.Exceeds traversal.steps)
    (apart : element.source ≠ traversal.source) :
    (graph.add element).evaluate traversal =
      .ok ((graph.elementsWithAll traversal.source
        (Step.labels traversal.steps)).map
          ((graph.add element).shownBy traversal.steps)) := by
  rw [evaluate_of_within _ within, elementsWithAll_add,
    if_neg fun found => apart found.1, List.append_nil]

theorem evaluate_add_behind {element : Element}
    (within : ¬Step.Exceeds traversal.steps)
    (starts : element.source = traversal.source)
    (unaffected : ∀ other : Element, other.source = traversal.source →
      (graph.add element).shownBy traversal.steps other =
        graph.shownBy traversal.steps other) :
    (graph.add element).evaluate traversal =
      .ok ((graph.elementsWithAll traversal.source
        (Step.labels traversal.steps)).map (graph.shownBy traversal.steps) ++
          if element.Meets traversal.steps then
            [graph.shownBy traversal.steps element]
          else []) := by
  have sameShown : ((graph.add element).elementsWithAll traversal.source
        (Step.labels traversal.steps)).map
          ((graph.add element).shownBy traversal.steps) =
      ((graph.add element).elementsWithAll traversal.source
        (Step.labels traversal.steps)).map (graph.shownBy traversal.steps) :=
    List.map_congr_left fun other mem =>
      unaffected other (source_of_mem_start (List.mem_filter.mp mem).1)
  rw [evaluate_of_within _ within, sameShown, elementsWithAll_add,
    List.map_append, apply_ite (List.map _)]
  simp only [starts, true_and]
  rfl

/-- What an accepted traversal shows when the graph grows.  A vertex that is
added comes behind the others if the traversal is one of vertices and the vertex
has all the labels; it changes nothing else that traversals of vertices or value
maps of edges show, and in the element maps of edges it gives its label to the
ends of which it introduces the identifier.  An edge that is added comes behind
the others if the traversal is one of edges and the edge has all the labels, and
changes nothing else.  Registered queries change nothing. -/
theorem evaluate_grown (graph : Graph) {traversal : Traversal}
    {records : List Json} (accepted : graph.evaluate traversal = .ok records) :
    (∀ vertex : Vertex,
      (traversal.source = .vertices →
        (graph.addVertex vertex).evaluate traversal = .ok (records ++
          if (Element.vertex vertex).Meets traversal.steps then
            [graph.shownBy traversal.steps (.vertex vertex)]
          else [])) ∧
      (traversal.source = .edges → .valueMap ∈ traversal.steps →
        (graph.addVertex vertex).evaluate traversal = .ok records) ∧
      (traversal.source = .edges → .valueMap ∉ traversal.steps →
        ∃ edges : List Edge,
          graph.elementsWithAll .edges (Step.labels traversal.steps) =
            edges.map .edge ∧
          records = edges.map graph.edgeElementMap ∧
          (graph.addVertex vertex).evaluate traversal =
            .ok (edges.map (graph.addVertex vertex).edgeElementMap) ∧
          ∀ edge ∈ edges, ∃ before after : Entries Json,
            graph.edgeElementMap edge = .object before ∧
            (graph.addVertex vertex).edgeElementMap edge = .object after ∧
            List.Forall₂ (Gains graph vertex edge) before after)) ∧
    (∀ edge : Edge,
      (traversal.source = .vertices →
        (graph.addEdge edge).evaluate traversal = .ok records) ∧
      (traversal.source = .edges →
        (graph.addEdge edge).evaluate traversal = .ok (records ++
          if (Element.edge edge).Meets traversal.steps then
            [graph.shownBy traversal.steps (.edge edge)]
          else []))) ∧
    ∀ script results,
      (graph.registerQuery script results).evaluate traversal =
        .ok records := by
  have within : ¬Step.Exceeds traversal.steps := by
    intro exceeds
    obtain ⟨error, failed⟩ := (graph.evaluate_fails_iff traversal).mpr exceeds
    cases accepted.symm.trans failed
  have shown := graph.evaluate_of_within within
  obtain rfl := Except.ok.inj (accepted.symm.trans shown)
  refine ⟨fun vertex => ⟨?_, ?_, ?_⟩, fun edge => ⟨?_, ?_⟩, ?_⟩
  · intro ofVertices
    refine @evaluate_add_behind graph traversal (.vertex vertex) within
      ofVertices.symm ?_
    intro other isSource
    exact shownBy_addVertex vertex (.inl (isSource.trans ofVertices))
  · intro ofEdges valueMaps
    have beside := @evaluate_add_beside graph traversal (.vertex vertex) within
      (ofEdges ▸ nofun)
    have sameShown : (graph.addVertex vertex).shownBy traversal.steps =
        graph.shownBy traversal.steps :=
      funext fun other => shownBy_addVertex vertex (.inr valueMaps)
    exact sameShown ▸ beside
  · intro ofEdges elementMaps
    have beside := @evaluate_add_beside graph traversal (.vertex vertex) within
      (ofEdges ▸ nofun)
    obtain ⟨edges, found⟩ := graph.exists_edges (Step.labels traversal.steps)
    rw [ofEdges, found, List.map_map, shownBy_edge _ elementMaps] at beside
    refine ⟨edges, found, ?_, beside, ?_⟩
    · rw [ofEdges, found, List.map_map, shownBy_edge _ elementMaps]
    · exact fun edge _ => ⟨_, _, graph.edgeElementMap_eq edge,
        (graph.addVertex vertex).edgeElementMap_eq edge,
        members_edge_addVertex graph vertex edge⟩
  · intro ofVertices
    have beside := @evaluate_add_beside graph traversal (.edge edge) within
      (ofVertices ▸ nofun)
    rw [shownBy_of_vertices rfl] at beside
    exact beside
  · intro ofEdges
    refine @evaluate_add_behind graph traversal (.edge edge) within
      ofEdges.symm ?_
    intro other _
    exact congrFun (shownBy_of_vertices rfl traversal.steps) other
  · intro script results
    rw [evaluate_of_within _ within, shownBy_of_vertices rfl]
    rfl

/-- An edge between vertices that are not there. -/
def looseEdge : Edge :=
  ⟨.ofNat 7, "knows", .ofNat 1, .ofNat 2, [("since", .null)]⟩

/-- An end gains the label of its vertex when the vertex is added. -/
theorem looseEdge_grown :
    (empty.addEdge looseEdge).evaluate (.edgeScan "knows") =
      .ok [.object [("id", .ofNat 7), ("label", .string "knows"),
        ("IN", .object [("id", .ofNat 2)]),
        ("OUT", .object [("id", .ofNat 1)]), ("since", .null)]] ∧
    ((empty.addEdge looseEdge).addVertex ⟨.ofNat 2, "person", []⟩).evaluate
        (.edgeScan "knows") =
      .ok [.object [("id", .ofNat 7), ("label", .string "knows"),
        ("IN", .object [("id", .ofNat 2), ("label", .string "person")]),
        ("OUT", .object [("id", .ofNat 1)]), ("since", .null)]] := by
  have accepted : (empty.addEdge looseEdge).evaluate (.edgeScan "knows") =
      .ok [(empty.addEdge looseEdge).edgeElementMap looseEdge] :=
    rfl
  have byEdges := ((evaluate_grown _ accepted).1 ⟨.ofNat 2, "person", []⟩).2.2
  obtain ⟨edges, found, -, grown, -⟩ := byEdges rfl (by decide)
  obtain ⟨edge, rfl, same⟩ := List.map_eq_singleton_iff.mp found.symm
  cases same
  exact ⟨accepted, grown⟩

end Graph

end GraphTable
