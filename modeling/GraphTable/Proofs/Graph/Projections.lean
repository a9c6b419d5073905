import GraphTable.Proofs.Entries
import GraphTable.Proofs.Graph.Scan

/-!
# The two maps of an element

The value map and the element map of a vertex have the same names in the same
order: where the one shows a list, the other shows the first item of it.  Both
maps of an edge show its properties as they are, and they differ in nothing but
the description of its ends.
-/

namespace GraphTable

namespace Vertex

/-- The items that a property is shown as are its own, or the property alone. -/
theorem exists_items (value : Json) :
    ∃ items : List Json,
      (value = .array items ∨ (∀ own, value ≠ .array own) ∧ items = [value]) ∧
        asList value = .array items ∧
        asFirst value = items.head?.getD .null := by
  cases value with
  | array items => cases items <;> exact ⟨_, .inl rfl, rfl, rfl⟩
  | _ => exact ⟨[_], .inr ⟨nofun, rfl⟩, rfl, rfl⟩

variable (vertex : Vertex)

/-- The entries of a vertex, with its properties presented in some way. -/
def entriesBy (present : Json → Json) : Entries Json :=
  Entries.insertAll vertex.tokens
    (vertex.properties.map fun entry => (entry.1, present entry.2))

theorem entriesBy_distinct (present : Json → Json) :
    (vertex.entriesBy present).Distinct := by
  have tokensDistinct : vertex.tokens.Distinct := by
    simp [tokens, Entries.Distinct, Entries.names]
  exact tokensDistinct.insertAll _

theorem names_entriesBy (first second : Json → Json) :
    (vertex.entriesBy first).names = (vertex.entriesBy second).names := by
  apply Entries.names_insertAll_congr rfl
  simp [Entries.names]

theorem lookup?_entriesBy (present : Json → Json) (name : String) :
    Entries.lookup? name (vertex.entriesBy present) =
      ((vertex.properties.last? name).map present).or
        (Entries.lookup? name vertex.tokens) := by
  rw [entriesBy, Entries.lookup?_insertAll, Entries.last?_map]

end Vertex

namespace Edge

variable (edge : Edge)

/-- The identifiers of the ends of an edge, by the names of their entries. -/
def ends : Entries Json :=
  [("IN", edge.inVertex), ("OUT", edge.outVertex)]

/-- The entries of an edge with its ends described in some way, unless they are
left out. -/
def entriesWith (described : Entries Json) : Entries Json :=
  Entries.insertAll (edge.tokens ++ described) edge.properties

theorem valueMap_eq : edge.valueMap = .object (edge.entriesWith []) := by
  rw [valueMap, entriesWith, List.append_nil]

theorem lookup?_entriesWith {described : Entries Json} {name : String}
    {value : Json} (stored : edge.properties.last? name = some value) :
    Entries.lookup? name (edge.entriesWith described) = some value := by
  rw [entriesWith, Entries.lookup?_insertAll, stored, Option.some_or]

theorem entriesWith_distinct {described : Entries Json}
    (distinct : (edge.tokens ++ described).Distinct) :
    (edge.entriesWith described).Distinct :=
  distinct.insertAll _

/-- Without the ends the entries are those that never had them, if no property
stands in the place of an end. -/
theorem filter_entriesWith {keep : String → Bool} {described : Entries Json}
    (tokensKept : ∀ entry ∈ edge.tokens, keep entry.1 = true)
    (endsDropped : ∀ entry ∈ described, keep entry.1 = false)
    (propertiesKept : ∀ name ∈ edge.properties.names, keep name = true) :
    (edge.entriesWith described).filter (fun entry => keep entry.1) =
      edge.entriesWith [] := by
  have tokens : edge.tokens.filter (fun entry => keep entry.1) = edge.tokens :=
    List.filter_eq_self.mpr tokensKept
  have dropped : described.filter (fun entry => keep entry.1) = [] := by
    simpa [List.filter_eq_nil_iff] using endsDropped
  have properties :
      edge.properties.filter (fun entry => keep entry.1) = edge.properties :=
    List.filter_eq_self.mpr fun entry mem =>
      propertiesKept entry.1 (List.mem_map_of_mem mem)
  rw [entriesWith, Entries.filter_insertAll, List.filter_append, tokens,
    dropped, properties]
  rfl

end Edge

namespace Graph

theorem lookup?_members_vertex (graph : Graph) (vertex : Vertex)
    (name : String) :
    Entries.lookup? name (graph.members (.vertex vertex)) =
      ((vertex.properties.last? name).map Vertex.asList).or
        (Entries.lookup? name vertex.tokens) :=
  vertex.lookup?_entriesBy Vertex.asList name

theorem lookup?_members_edge (graph : Graph) (edge : Edge) (name : String) :
    Entries.lookup? name (graph.members (.edge edge)) =
      (edge.properties.last? name).or
        (Entries.lookup? name (edge.tokens ++
          [("IN", graph.endpoint edge.inVertex),
            ("OUT", graph.endpoint edge.outVertex)])) := by
  rw [members, Entries.lookup?_insertAll]

theorem edgeElementMap_eq (graph : Graph) (edge : Edge) :
    graph.edgeElementMap edge = .object (graph.members (.edge edge)) :=
  rfl

theorem members_edge_distinct (graph : Graph) (edge : Edge) :
    (graph.members (.edge edge)).Distinct := by
  apply edge.entriesWith_distinct
  simp [Edge.tokens, Entries.Distinct, Entries.names]

/-- The value map and the element map of a vertex have the same names in the
same order.  A property, of several with one name the last one, is shown by the
one as a list and by the other as the first item of the list, or null if there is
none; what is no property is the same in both.  Both maps of an edge show each
property as it is stored.  Without the ends the element map of an edge is its
value map, if no property is named like an end. -/
theorem projections_agree (graph : Graph) :
    (∀ vertex : Vertex, ∃ lists firsts : Dict Json,
      valueMap (.vertex vertex) = .object lists.entries ∧
      graph.elementMap (.vertex vertex) = .object firsts.entries ∧
      lists.entries.names = firsts.entries.names ∧
      (∀ name value, vertex.properties.last? name = some value → ∃ items,
        (value = .array items ∨
          (∀ own, value ≠ .array own) ∧ items = [value]) ∧
        lists.get? name = some (.array items) ∧
        firsts.get? name = some (items.head?.getD .null)) ∧
      ∀ name, name ∉ vertex.properties.names →
        lists.get? name = firsts.get? name) ∧
    ∀ edge : Edge, ∃ plain described : Dict Json,
      valueMap (.edge edge) = .object plain.entries ∧
      graph.elementMap (.edge edge) = .object described.entries ∧
      (∀ name value, edge.properties.last? name = some value →
        plain.get? name = some value ∧ described.get? name = some value) ∧
      ("IN" ∉ edge.properties.names → "OUT" ∉ edge.properties.names →
        plain.entries = described.entries.filter fun entry =>
          entry.1 ≠ "IN" ∧ entry.1 ≠ "OUT") := by
  constructor
  · intro vertex
    refine ⟨⟨_, vertex.entriesBy_distinct Vertex.asList⟩,
      ⟨_, vertex.entriesBy_distinct Vertex.asFirst⟩, rfl, rfl,
      vertex.names_entriesBy _ _, ?_, ?_⟩
    · intro name value stored
      obtain ⟨items, ownItems, asItems, firstItem⟩ := Vertex.exists_items value
      refine ⟨items, ownItems, ?_, ?_⟩
      · rw [Dict.get?, vertex.lookup?_entriesBy, stored, Option.map_some,
          asItems, Option.some_or]
      · rw [Dict.get?, vertex.lookup?_entriesBy, stored, Option.map_some,
          firstItem, Option.some_or]
    · intro name notProperty
      have absent := Entries.last?_eq_none_iff.mpr notProperty
      rw [Dict.get?, Dict.get?, vertex.lookup?_entriesBy,
        vertex.lookup?_entriesBy, absent]
      rfl
  · intro edge
    have plainDistinct : (edge.tokens ++ []).Distinct := by
      simp [Edge.tokens, Entries.Distinct, Entries.names]
    refine ⟨⟨_, edge.entriesWith_distinct plainDistinct⟩,
      ⟨_, graph.members_edge_distinct edge⟩, edge.valueMap_eq,
      graph.edgeElementMap_eq edge, ?_, ?_⟩
    · exact fun name value stored =>
        ⟨edge.lookup?_entriesWith stored, edge.lookup?_entriesWith stored⟩
    · intro noIncoming noOutgoing
      refine (@Edge.filter_entriesWith edge
        (fun name => name ≠ "IN" ∧ name ≠ "OUT") _ ?_ ?_ ?_).symm
      · simp [Edge.tokens]
      · simp
      · intro name isProperty
        rw [decide_eq_true_iff]
        exact ⟨fun same => noIncoming (same ▸ isProperty),
          fun same => noOutgoing (same ▸ isProperty)⟩

end Graph

end GraphTable
