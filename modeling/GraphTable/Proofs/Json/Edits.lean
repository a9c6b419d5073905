import Mathlib.Data.List.Forall2
import Mathlib.Data.List.Nodup
import Mathlib.Logic.Relation
import GraphTable.Json.Value
import GraphTable.Proofs.Entries

/-!
# Edits of records

A record can be written in more than one way.  The members of its object come in
any order, among members of other names; a member that has its default value may
be left out; and a record may be written as the list of its parts.  Whatever
edits of this sort are made, one after the other, something stands for every
part: its value, edited by itself, or nothing where this may be the default.
-/

namespace GraphTable

/-- A part that all records of a sort have: its name, the value with which it
may be left out, if there is one, and the edits of its value. -/
structure Part where
  name : String
  default? : Option Json := none
  edit : Json → Json → Prop := fun _ _ => False

/-- An edit of a record with these parts. -/
inductive RecordEdit (parts : List Part) : Json → Json → Prop
  | reorder {entries others : Entries Json} (perm : entries.Perm others) :
      RecordEdit parts (.object entries) (.object others)
  | extend {before behind : Entries Json} {name : String} {value : Json}
      (foreign : name ∉ parts.map Part.name) :
      RecordEdit parts (.object (before ++ behind))
        (.object (before ++ (name, value) :: behind))
  | leaveOut {before behind : Entries Json} {part : Part} {value : Json}
      (mem : part ∈ parts) (isDefault : part.default? = some value) :
      RecordEdit parts (.object (before ++ (part.name, value) :: behind))
        (.object (before ++ behind))
  /-- A record is written as the list of its parts in order of declaration, of
  which only the last ones may be left out. -/
  | list {entries : Entries Json}
      (declared : entries.names <+: parts.map Part.name) :
      RecordEdit parts (.object entries) (.array (entries.map Prod.snd))
  | inObject {before behind : Entries Json} {part : Part} {value next : Json}
      (mem : part ∈ parts) (edit : part.edit value next) :
      RecordEdit parts (.object (before ++ (part.name, value) :: behind))
        (.object (before ++ (part.name, next) :: behind))
  | inList {before behind : List Json} {part : Part} {value next : Json}
      (stands : parts[before.length]? = some part)
      (edit : part.edit value next) :
      RecordEdit parts (.array (before ++ value :: behind))
        (.array (before ++ next :: behind))

/-- An edit of one item of a list. -/
inductive ItemEdit (edit : Json → Json → Prop) : Json → Json → Prop
  | mk {before behind : List Json} {value next : Json}
      (item : edit value next) :
      ItemEdit edit (.array (before ++ value :: behind))
        (.array (before ++ next :: behind))

/-- A part of a record, with the value that it has before any edit. -/
structure Content where
  part : Part
  value : Json

namespace Content

/-- Edits of the value of a part come to this value. -/
def Becomes (content : Content) (value : Json) : Prop :=
  Relation.ReflTransGen content.part.edit content.value value

/-- What stands for a part after edits: one value, or none where this may be the
default. -/
inductive Stands (content : Content) : List Json → Prop
  | absent {value : Json} (isDefault : content.part.default? = some value)
      (becomes : content.Becomes value) : Stands content []
  | present {value : Json} (becomes : content.Becomes value) :
      Stands content [value]

/-- Values stand for the first parts, in order, and none of the others has to be
there. -/
inductive Listed : List Content → List Json → Prop
  | nil : Listed [] []
  | absent {content : Content} {contents : List Content}
      (absent : content.Stands []) (others : Listed contents []) :
      Listed (content :: contents) []
  | present {content : Content} {contents : List Content} {value : Json}
      {values : List Json} (becomes : content.Becomes value)
      (others : Listed contents values) :
      Listed (content :: contents) (value :: values)

/-- In an object or in a list, something stands for every part. -/
inductive Edited (contents : List Content) : Json → Prop
  | object {entries : Entries Json}
      (stands : ∀ content ∈ contents,
        content.Stands (entries.valuesOf content.part.name)) :
      Edited contents (.object entries)
  | list {items : List Json} (listed : Listed contents items) :
      Edited contents (.array items)

/-- The entries of a record before any edit. -/
def entries (contents : List Content) : Entries Json :=
  contents.map fun content => (content.part.name, content.value)

variable {content : Content} {contents : List Content} {value next : Json}
  {before behind : List Json}

theorem names_entries (contents : List Content) :
    (entries contents).names = contents.map fun content => content.part.name := by
  rw [Entries.names, entries, List.map_map]
  rfl

/-- Where a value stands for a part, no other one does. -/
theorem Stands.here (stands : content.Stands (before ++ value :: behind)) :
    before = [] ∧ behind = [] ∧ content.Becomes value := by
  generalize valuesEq : before ++ value :: behind = values at stands
  cases stands with
  | absent => simp at valuesEq
  | present becomes =>
      cases before with
      | nil =>
          obtain ⟨rfl, rfl⟩ := List.cons.inj valuesEq
          exact ⟨rfl, rfl, becomes⟩
      | cons first rest => simp at valuesEq

theorem Stands.perm {values others : List Json}
    (stands : content.Stands values) (perm : values.Perm others) :
    content.Stands others := by
  cases stands with
  | absent isDefault becomes =>
      rw [List.nil_perm.mp perm]
      exact .absent isDefault becomes
  | present becomes =>
      rw [← List.singleton_perm.mp perm]
      exact .present becomes

/-- Parts of one record are told apart by their names. -/
theorem part_eq (distinct : (entries contents).Distinct)
    (mem : content ∈ contents) {part : Part}
    (isPart : part ∈ contents.map Content.part)
    (same : part.name = content.part.name) : part = content.part := by
  rw [Entries.Distinct, names_entries] at distinct
  obtain ⟨other, otherMem, rfl⟩ := List.mem_map.mp isPart
  rw [List.inj_on_of_nodup_map distinct otherMem mem same]

theorem Listed.edit (listed : Listed contents (before ++ value :: behind))
    {part : Part}
    (stands : (contents.map Content.part)[before.length]? = some part)
    (edit : part.edit value next) :
    Listed contents (before ++ next :: behind) := by
  induction before generalizing contents with
  | nil =>
      cases listed with
      | present becomes others =>
          obtain rfl : _ = part := by simpa using stands
          exact .present (becomes.tail edit) others
  | cons first rest ih =>
      cases listed with
      | present becomes others =>
          exact .present becomes (ih others (by simpa using stands))

/-- Entries with the first names, in order, stand for the parts in a list. -/
theorem listed_of_stands (distinct : (entries contents).Distinct)
    {given : Entries Json}
    (declared : given.names <+: (entries contents).names)
    (stands : ∀ content ∈ contents,
      content.Stands (given.valuesOf content.part.name)) :
    Listed contents (given.map Prod.snd) := by
  induction contents generalizing given with
  | nil =>
      rw [List.map_eq_nil_iff.mp (List.prefix_nil.mp declared)]
      exact .nil
  | cons content contents ih =>
      obtain ⟨notLater, later⟩ := List.nodup_cons.mp distinct
      have first := stands content List.mem_cons_self
      have rest : ∀ other ∈ contents,
          other.Stands (given.valuesOf other.part.name) := fun other mem =>
        stands other (List.mem_cons_of_mem _ mem)
      cases given with
      | nil =>
          have none : Entries.names ([] : Entries Json) <+:
              (entries contents).names :=
            List.nil_prefix
          exact .absent first (ih later none rest)
      | cons entry given =>
          obtain ⟨name, value⟩ := entry
          obtain ⟨isNext, following⟩ := List.cons_prefix_cons.mp declared
          obtain rfl : name = content.part.name := isNext
          rw [Entries.valuesOf_cons_same, ← List.nil_append (_ :: _)] at first
          refine .present first.here.2.2
            (ih later following fun other mem => ?_)
          have differ : content.part.name ≠ other.part.name := by
            intro same
            apply notLater
            change content.part.name ∈ (entries contents).names
            rw [names_entries, same]
            exact List.mem_map_of_mem mem
          have there := rest other mem
          rwa [Entries.valuesOf_cons_other differ] at there

theorem edited_entries (distinct : (entries contents).Distinct) :
    Edited contents (.object (entries contents)) := by
  refine .object fun content mem => ?_
  obtain ⟨before, behind, rfl⟩ := List.append_of_mem mem
  rw [entries, List.map_append, List.map_cons] at distinct ⊢
  rw [Entries.Distinct, Entries.names, List.map_append, List.map_cons,
    List.nodup_middle, List.nodup_cons, List.mem_append, not_or] at distinct
  rw [Entries.valuesOf_append, Entries.valuesOf_cons_same,
    Entries.valuesOf_of_notMem distinct.1.1,
    Entries.valuesOf_of_notMem distinct.1.2]
  exact .present .refl

end Content

/-- An edit leaves something standing for every part. -/
theorem RecordEdit.edited {contents : List Content} {record other : Json}
    (distinct : (Content.entries contents).Distinct)
    (edited : Content.Edited contents record)
    (edit : RecordEdit (contents.map Content.part) record other) :
    Content.Edited contents other := by
  cases edit with
  | reorder perm =>
      obtain ⟨stands⟩ := edited
      exact .object fun content mem =>
        (stands content mem).perm (Entries.valuesOf_perm perm)
  | @extend before behind name value foreign =>
      obtain ⟨stands⟩ := edited
      refine .object fun content mem => ?_
      have stood := stands content mem
      have differ : name ≠ content.part.name := by
        rintro rfl
        exact foreign (List.mem_map_of_mem (List.mem_map_of_mem mem))
      rw [Entries.valuesOf_append] at stood ⊢
      rwa [Entries.valuesOf_cons_other differ]
  | @leaveOut before behind part value isPart isDefault =>
      obtain ⟨stands⟩ := edited
      refine .object fun content mem => ?_
      have stood := stands content mem
      rw [Entries.valuesOf_append] at stood ⊢
      by_cases same : part.name = content.part.name
      · obtain rfl := Content.part_eq distinct mem isPart same
        rw [Entries.valuesOf_cons_same] at stood
        obtain ⟨noneBefore, noneBehind, becomes⟩ := stood.here
        rw [noneBefore, noneBehind]
        exact .absent isDefault becomes
      · rwa [Entries.valuesOf_cons_other same] at stood
  | list declared =>
      obtain ⟨stands⟩ := edited
      rw [List.map_map] at declared
      refine .list (Content.listed_of_stands distinct ?_ stands)
      rw [Content.names_entries]
      exact declared
  | @inObject before behind part value next isPart edit =>
      obtain ⟨stands⟩ := edited
      refine .object fun content mem => ?_
      have stood := stands content mem
      rw [Entries.valuesOf_append] at stood ⊢
      by_cases same : part.name = content.part.name
      · obtain rfl := Content.part_eq distinct mem isPart same
        rw [Entries.valuesOf_cons_same] at stood ⊢
        obtain ⟨noneBefore, noneBehind, becomes⟩ := stood.here
        rw [noneBefore, noneBehind]
        exact .present (becomes.tail edit)
      · rw [Entries.valuesOf_cons_other same] at stood ⊢
        exact stood
  | inList stands edit =>
      obtain ⟨listed⟩ | ⟨listed⟩ := edited
      exact .list (listed.edit stands edit)

/-- Whatever edits are made of a record, something stands for every part. -/
theorem Content.edited_of_edits {contents : List Content} {record : Json}
    (distinct : (entries contents).Distinct)
    (edits : Relation.ReflTransGen (RecordEdit (contents.map Content.part))
      (.object (entries contents)) record) :
    Edited contents record := by
  induction edits with
  | refl => exact edited_entries distinct
  | tail _ edit ih => exact edit.edited distinct ih

namespace ItemEdit

variable {α : Type} {values : List α}

theorem forall₂_edit {becomes : α → Json → Prop} {value next : Json}
    (edited : ∀ {a}, becomes a value → becomes a next)
    {before behind : List Json}
    (each : List.Forall₂ becomes values (before ++ value :: behind)) :
    List.Forall₂ becomes values (before ++ next :: behind) := by
  induction before generalizing values with
  | nil =>
      cases each with
      | cons here others => exact .cons (edited here) others
  | cons first rest ih =>
      cases each with
      | cons here others => exact .cons here (ih others)

/-- Whatever edits are made of the items of a list, each item is edited by
itself. -/
theorem items_of_edits {edit : Json → Json → Prop} {write : α → Json}
    {value : Json}
    (edits : Relation.ReflTransGen (ItemEdit edit) (.array (values.map write))
      value) :
    ∃ items, value = .array items ∧
      List.Forall₂ (fun a => Relation.ReflTransGen edit (write a)) values
        items := by
  induction edits with
  | refl =>
      refine ⟨_, rfl, ?_⟩
      rw [List.forall₂_map_right_iff]
      exact List.forall₂_same.mpr fun _ _ => .refl
  | tail _ last ih =>
      obtain ⟨items, isArray, each⟩ := ih
      cases last with
      | mk item =>
          cases isArray
          exact ⟨_, rfl, forall₂_edit (fun becomes => becomes.tail item) each⟩

end ItemEdit

end GraphTable
