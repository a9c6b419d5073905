import GraphTable.Proofs.Shape.Edited
import GraphTable.Request.Json
import GraphTable.Request.Shape

/-!
# Requests that are written and read again

A request is read back from the JSON value that is written for it, and from
every value that edits of its records make of this one: of the request, the name
of the table, the schema and the columns.
-/

namespace GraphTable

namespace Column

def parts : List Part :=
  [{ name := "name" },
    { name := "type", default? := some (.string "utf8") }]

def Edit : Json → Json → Prop :=
  RecordEdit parts

def contents (column : Column) : List Content :=
  List.zipWith Content.mk parts
    [.string column.name, .string column.type.name]

/-- What is filled of a column once some names have been seen. -/
def filled (column : Column) (seen : List String) : ColumnSlots :=
  ⟨onceSeen seen "name" column.name, onceSeen seen "type" column.type⟩

theorem utf8_of_name {type : ColumnType} (isUtf8 : type.name = "utf8") :
    type = .utf8 := by
  cases type <;> simp [ColumnType.name] at isUtf8 ⊢

theorem read_typeName (type : ColumnType) :
    (ColumnType.read (Json.string type.name) : Except Fault ColumnType) =
      .ok type := by
  cases type <;> rfl

theorem takes (column : Column) :
    RecordShape.Takes shape column.filled column.contents column where
  blank_eq := rfl
  slots := by
    refine .cons ?name (.cons ?type .nil)
    case name =>
      refine Slot.takes_of_reads (fun slots name =>
          { slots with name := some name })
        rfl rfl (.inr rfl) (fun seen => isSome_onceSeen _ _ _)
        (Content.reads_of_fixed rfl (Json.read_string column.name)) fun seen => ?_
      simp [filled, onceSeen]
    case type =>
      refine Slot.takes_of_reads (fun slots type =>
          { slots with type := some type })
        rfl rfl (.inl rfl) (fun seen => isSome_onceSeen _ _ _)
        (Content.reads_of_fixed rfl (read_typeName column.type)) fun seen => ?_
      simp [filled, onceSeen]
  build_eq := by
    intro seen allSeen
    obtain ⟨nameSeen, others⟩ := List.forall_mem_cons.mp allSeen
    obtain ⟨typeSeen, -⟩ := List.forall_mem_cons.mp others
    have name := Content.onceSeen_of_required column.name nameSeen rfl
    have type : (onceSeen seen "type" column.type).getD .utf8 = column.type :=
      Content.onceSeen_getD typeSeen rfl fun same =>
        utf8_of_name (by simpa using same.symm)
    simp only [shape, filled, name, type, requireField]
    rfl

theorem read_of_edits {column : Column} {value : Json}
    (edits : Relation.ReflTransGen Edit column.toJson value) :
    shape.read value = (.ok column : Except Fault Column) := by
  have distinct : (Content.entries column.contents).Distinct :=
    show List.Nodup ["name", "type"] by decide
  exact column.takes.read_of_edited (Content.edited_of_edits distinct edits)

end Column

namespace TableName

def parts : List Part :=
  [{ name := "schema_name" }, { name := "table_name" }]

def Edit : Json → Json → Prop :=
  RecordEdit parts

def contents (name : TableName) : List Content :=
  List.zipWith Content.mk parts [.string name.schema, .string name.table]

def filled (name : TableName) (seen : List String) : TableNameSlots :=
  ⟨onceSeen seen "schema_name" name.schema,
    onceSeen seen "table_name" name.table⟩

theorem takes (name : TableName) :
    RecordShape.Takes shape name.filled name.contents name where
  blank_eq := rfl
  slots := by
    refine .cons ?schema (.cons ?table .nil)
    case schema =>
      refine Slot.takes_of_reads (fun slots schema =>
          { slots with schema := some schema })
        rfl rfl (.inr rfl) (fun seen => isSome_onceSeen _ _ _)
        (Content.reads_of_fixed rfl (Json.read_string name.schema)) fun seen => ?_
      simp [filled, onceSeen]
    case table =>
      refine Slot.takes_of_reads (fun slots table =>
          { slots with table := some table })
        rfl rfl (.inr rfl) (fun seen => isSome_onceSeen _ _ _)
        (Content.reads_of_fixed rfl (Json.read_string name.table)) fun seen => ?_
      simp [filled, onceSeen]
  build_eq := by
    intro seen allSeen
    obtain ⟨schemaSeen, others⟩ := List.forall_mem_cons.mp allSeen
    obtain ⟨tableSeen, -⟩ := List.forall_mem_cons.mp others
    have schema := Content.onceSeen_of_required name.schema schemaSeen rfl
    have table := Content.onceSeen_of_required name.table tableSeen rfl
    simp only [shape, filled, schema, table, requireField]
    rfl

theorem read_of_edits {name : TableName} {value : Json}
    (edits : Relation.ReflTransGen Edit name.toJson value) :
    shape.read value = (.ok name : Except Fault TableName) := by
  have distinct : (Content.entries name.contents).Distinct :=
    show List.Nodup ["schema_name", "table_name"] by decide
  exact name.takes.read_of_edited (Content.edited_of_edits distinct edits)

end TableName

namespace Schema

def parts : List Part :=
  [{ name := "fields", edit := ItemEdit Column.Edit },
    { name := "metadata", default? := some (.object []) }]

/-- An edit of a schema or of one of its columns. -/
def Edit : Json → Json → Prop :=
  RecordEdit parts

def contents (schema : Schema) : List Content :=
  List.zipWith Content.mk parts
    [.array (schema.columns.map Column.toJson),
      .object (schema.metadata.entries.map fun entry =>
        (entry.1, .string entry.2))]

def filled (schema : Schema) (seen : List String) : SchemaSlots :=
  ⟨onceSeen seen "fields" schema.columns,
    onceSeen seen "metadata" schema.metadata⟩

theorem read_columns {columns : List Column} {value : Json}
    (edits : Relation.ReflTransGen (ItemEdit Column.Edit)
      (.array (columns.map Column.toJson)) value) :
    Shape.list Column.shape.read value =
      (.ok columns : Except Fault (List Column)) := by
  obtain ⟨items, rfl, each⟩ := ItemEdit.items_of_edits edits
  exact Shape.list_of_forall₂ (each.imp fun _ _ => Column.read_of_edits)

theorem takes (schema : Schema) :
    RecordShape.Takes shape schema.filled schema.contents schema where
  blank_eq := rfl
  slots := by
    refine .cons ?columns (.cons ?metadata .nil)
    case columns =>
      refine Slot.takes_of_reads (fun slots columns =>
          { slots with columns := some columns })
        rfl rfl (.inr rfl) (fun seen => isSome_onceSeen _ _ _) read_columns
        fun seen => ?_
      simp [filled, onceSeen]
    case metadata =>
      have reads : Shape.dict Medium.string (Json.object
          (schema.metadata.entries.map fun entry =>
            (entry.1, Json.string entry.2))) =
              (.ok schema.metadata : Except Fault (Dict String)) :=
        Shape.dict_of_entries Json.read_string _
      refine Slot.takes_of_reads (fun slots metadata =>
          { slots with metadata := some metadata })
        rfl rfl (.inl rfl) (fun seen => isSome_onceSeen _ _ _)
        (Content.reads_of_fixed rfl reads) fun seen => ?_
      simp [filled, onceSeen]
  build_eq := by
    intro seen allSeen
    obtain ⟨columnsSeen, others⟩ := List.forall_mem_cons.mp allSeen
    obtain ⟨metadataSeen, -⟩ := List.forall_mem_cons.mp others
    have columns := Content.onceSeen_of_required schema.columns columnsSeen rfl
    have metadata : (onceSeen seen "metadata" schema.metadata).getD Dict.empty =
        schema.metadata := by
      refine Content.onceSeen_getD metadataSeen rfl fun same => ?_
      have none : [] = schema.metadata.entries.map fun entry =>
          (entry.1, Json.string entry.2) := by
        simpa using same
      exact Dict.ext_entries (List.map_eq_nil_iff.mp none.symm)
    simp only [shape, filled, columns, metadata, requireField]
    rfl

theorem read_of_edits {schema : Schema} {value : Json}
    (edits : Relation.ReflTransGen Edit schema.toJson value) :
    shape.read value = (.ok schema : Except Fault Schema) := by
  have distinct : (Content.entries schema.contents).Distinct :=
    show List.Nodup ["fields", "metadata"] by decide
  exact schema.takes.read_of_edited (Content.edited_of_edits distinct edits)

end Schema

namespace ReadRequest

def parts : List Part :=
  [{ name := "query_id" },
    { name := "table_name", edit := TableName.Edit },
    { name := "schema", edit := Schema.Edit },
    { name := "split_id", default? := some .null },
    { name := "constraints", default? := some (.object []) }]

/-- An edit of a request or of a record in it. -/
def Edit : Json → Json → Prop :=
  RecordEdit parts

def splitJson : Option String → Json
  | some id => .string id
  | none => .null

def contents (request : ReadRequest) : List Content :=
  List.zipWith Content.mk parts
    [.string request.queryId, request.table.toJson, request.schema.toJson,
      splitJson request.splitId, .object request.constraints.entries]

def filled (request : ReadRequest) (seen : List String) : ReadRequestSlots :=
  ⟨onceSeen seen "query_id" request.queryId,
    onceSeen seen "table_name" request.table,
    onceSeen seen "schema" request.schema,
    onceSeen seen "split_id" request.splitId,
    onceSeen seen "constraints" request.constraints⟩

theorem read_split (splitId : Option String) :
    Shape.optional Medium.string (splitJson splitId) =
      (.ok splitId : Except Fault (Option String)) := by
  cases splitId <;> rfl

theorem read_constraints (constraints : Dict Json) :
    Shape.dict Medium.json (Json.object constraints.entries) =
      (.ok constraints : Except Fault (Dict Json)) := by
  have reads : ∀ value : Json,
      (Medium.json (id value) : Except Fault Json) = .ok value :=
    fun _ => rfl
  simpa using Shape.dict_of_entries reads constraints

theorem takes (request : ReadRequest) (freshId : String) :
    RecordShape.Takes (shape freshId) request.filled request.contents
      request where
  blank_eq := rfl
  slots := by
    refine .cons ?queryId (.cons ?table (.cons ?schema (.cons ?splitId
      (.cons ?constraints .nil))))
    case queryId =>
      refine Slot.takes_of_reads (fun slots id =>
          { slots with queryId := some id })
        rfl rfl (.inl rfl) (fun seen => isSome_onceSeen _ _ _)
        (Content.reads_of_fixed rfl (Json.read_string request.queryId)) fun seen => ?_
      simp [filled, onceSeen]
    case table =>
      refine Slot.takes_of_reads (fun slots table =>
          { slots with table := some table })
        rfl rfl (.inr rfl) (fun seen => isSome_onceSeen _ _ _)
        TableName.read_of_edits fun seen => ?_
      simp [filled, onceSeen]
    case schema =>
      refine Slot.takes_of_reads (fun slots schema =>
          { slots with schema := some schema })
        rfl rfl (.inr rfl) (fun seen => isSome_onceSeen _ _ _)
        Schema.read_of_edits fun seen => ?_
      simp [filled, onceSeen]
    case splitId =>
      refine Slot.takes_of_reads (fun slots id =>
          { slots with splitId := some id })
        rfl rfl (.inl rfl) (fun seen => isSome_onceSeen _ _ _)
        (Content.reads_of_fixed rfl (read_split request.splitId)) fun seen => ?_
      simp [filled, onceSeen]
    case constraints =>
      refine Slot.takes_of_reads (fun slots constraints =>
          { slots with constraints := some constraints })
        rfl rfl (.inl rfl) (fun seen => isSome_onceSeen _ _ _)
        (Content.reads_of_fixed rfl (read_constraints request.constraints))
        fun seen => ?_
      simp [filled, onceSeen]
  build_eq := by
    intro seen allSeen
    obtain ⟨idSeen, others⟩ := List.forall_mem_cons.mp allSeen
    obtain ⟨tableSeen, others⟩ := List.forall_mem_cons.mp others
    obtain ⟨schemaSeen, others⟩ := List.forall_mem_cons.mp others
    obtain ⟨splitSeen, others⟩ := List.forall_mem_cons.mp others
    obtain ⟨constraintsSeen, -⟩ := List.forall_mem_cons.mp others
    have queryId := Content.onceSeen_of_required request.queryId idSeen rfl
    have table := Content.onceSeen_of_required request.table tableSeen rfl
    have schema := Content.onceSeen_of_required request.schema schemaSeen rfl
    have splitId : (onceSeen seen "split_id" request.splitId).getD none =
        request.splitId := by
      refine Content.onceSeen_getD splitSeen rfl fun same => ?_
      have isNull : Json.null = splitJson request.splitId := by
        simpa using same
      cases given : request.splitId with
      | none => rfl
      | some id => simp [given, splitJson] at isNull
    have constraints :
        (onceSeen seen "constraints" request.constraints).getD Dict.empty =
          request.constraints := by
      refine Content.onceSeen_getD constraintsSeen rfl fun same => ?_
      have none : [] = request.constraints.entries := by
        simpa using same
      exact Dict.ext_entries none.symm
    simp only [shape, filled, queryId, table, schema, splitId, constraints,
      requireField]
    rfl

/-- A request is read back from what is written for it, with whatever edits:
members of each record in any order, among members of other names, without
those that have their default value, or as a list. -/
theorem recovered_of_edits {request : ReadRequest} {value : Json}
    (freshId : String)
    (edits : Relation.ReflTransGen Edit request.toJson value) :
    ReadRequest.read freshId value = (.ok request : Except Fault ReadRequest) := by
  have distinct : (Content.entries request.contents).Distinct :=
    show List.Nodup
      ["query_id", "table_name", "schema", "split_id", "constraints"] by decide
  exact (request.takes freshId).read_of_edited
    (Content.edited_of_edits distinct edits)

def airportRequest : ReadRequest :=
  ⟨"q-17", ⟨"air", "airport"⟩,
    ⟨[⟨"id", .utf8⟩, ⟨"runways", .int32⟩],
      Dict.empty.insert Schema.kindKey "vertex"⟩,
    none, Dict.empty⟩

/-- The members of the request that have to be there, in order: the name of the
table and the first column may be written in several ways. -/
def airportEntries (table column : Json) : Entries Json :=
  [("query_id", .string "q-17"), ("table_name", table),
    ("schema", .object
      [("fields", .array [column, Column.toJson ⟨"runways", .int32⟩]),
        ("metadata", .object [("componenttype", .string "vertex")])])]

/-- The request in another order and with a note, without the members that have
their default value, and with two lists in place of objects. -/
def airportJson : Json :=
  .object (("note", .null) :: airportEntries
    (.array [.string "air", .string "airport"])
    (.array [.string "id"])).reverse

theorem edit_airport_table {table other : Json} (column : Json)
    (edit : TableName.Edit table other) :
    Edit (.object (airportEntries table column))
      (.object (airportEntries other column)) :=
  @RecordEdit.inObject parts [_] [_] _ _ _ (.tail _ (.head _)) edit

theorem edit_airport_column {column other : Json} (table : Json)
    (edit : Column.Edit column other) :
    Edit (.object (airportEntries table column))
      (.object (airportEntries table other)) := by
  have items : ItemEdit Column.Edit
      (.array [column, Column.toJson ⟨"runways", .int32⟩])
      (.array [other, Column.toJson ⟨"runways", .int32⟩]) :=
    @ItemEdit.mk _ [] [_] _ _ edit
  have schema := fun metadata =>
    @RecordEdit.inObject Schema.parts [] [metadata] _ _ _ (.head _) items
  exact @RecordEdit.inObject parts [_, _] [] _ _ _
    (.tail _ (.tail _ (.head _))) (schema _)

theorem airportJson_edits :
    Relation.ReflTransGen Edit airportRequest.toJson airportJson := by
  let table := TableName.toJson ⟨"air", "airport"⟩
  let tableList := Json.array [.string "air", .string "airport"]
  let column := Column.toJson ⟨"id", .utf8⟩
  have noConstraints : Edit airportRequest.toJson
      (.object (airportEntries table column ++ [("split_id", .null)])) :=
    @RecordEdit.leaveOut parts [_, _, _, _] [] _ _
      (.tail _ (.tail _ (.tail _ (.tail _ (.head _))))) rfl
  have noSplit : Edit
      (.object (airportEntries table column ++ [("split_id", .null)]))
      (.object (airportEntries table column)) :=
    @RecordEdit.leaveOut parts [_, _, _] [] _ _
      (.tail _ (.tail _ (.tail _ (.head _)))) rfl
  have listed : TableName.Edit table tableList :=
    .list List.prefix_rfl
  have untyped : Column.Edit column (.object [("name", .string "id")]) :=
    @RecordEdit.leaveOut Column.parts [_] [] _ _ (.tail _ (.head _)) rfl
  have named : Column.Edit (.object [("name", .string "id")])
      (.array [.string "id"]) :=
    .list ⟨["type"], rfl⟩
  have noted : Edit
      (.object (airportEntries tableList (.array [.string "id"])))
      (.object (("note", .null) ::
        airportEntries tableList (.array [.string "id"]))) :=
    @RecordEdit.extend parts [] _ _ _ (by decide)
  have reordered : Edit (.object (("note", .null) ::
      airportEntries tableList (.array [.string "id"]))) airportJson :=
    .reorder (List.reverse_perm _).symm
  have before : Relation.ReflTransGen Edit airportRequest.toJson
      (.object (airportEntries tableList column)) :=
    ((Relation.ReflTransGen.single noConstraints).tail noSplit).tail
      (edit_airport_table column listed)
  exact (((before.tail (edit_airport_column tableList untyped)).tail
    (edit_airport_column tableList named)).tail noted).tail reordered

theorem read_airportJson :
    Relation.ReflTransGen Edit airportRequest.toJson airportJson ∧
      ReadRequest.read "fresh" airportJson =
        (.ok airportRequest : Except Fault ReadRequest) :=
  ⟨airportJson_edits, recovered_of_edits "fresh" airportJson_edits⟩

end ReadRequest

end GraphTable
