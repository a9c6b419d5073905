import GraphTable.Proofs.Json.Edits
import GraphTable.Shape.FromJson

/-!
# Reading edited records

A shape that reads each part of a record into a slot of its own, whatever edits
the value of the part has gone through, reads the record whatever edits the
record has gone through.
-/

namespace GraphTable

variable {σ α β : Type}

theorem Json.read_string (text : String) :
    (Medium.string (Json.string text) : Except Fault String) = .ok text :=
  rfl

/-- A value that is there once its name has been seen. -/
def onceSeen (seen : List String) (name : String) (value : α) : Option α :=
  if name ∈ seen then some value else none

theorem isSome_onceSeen (seen : List String) (name : String) (value : α) :
    (onceSeen seen name value).isSome = decide (name ∈ seen) := by
  by_cases mem : name ∈ seen <;> simp [onceSeen, mem]

namespace Content

variable {content : Content} {contents : List Content} {seen : List String}

/-- Every part that has to be there has been seen. -/
def AllSeen (contents : List Content) (seen : List String) : Prop :=
  ∀ content ∈ contents, content.part.name ∈ seen ∨ content.Stands []

/-- Something is still to come for every part that has not been seen, and
nothing for the others. -/
def Remains (contents : List Content) (seen : List String)
    (entries : Entries Json) : Prop :=
  ∀ content ∈ contents,
    (content.part.name ∈ seen ∧
        entries.valuesOf content.part.name = []) ∨
      (content.part.name ∉ seen ∧
        content.Stands (entries.valuesOf content.part.name))

/-- A part without edits keeps its value. -/
theorem eq_of_fixed {value : Json}
    (fixed : content.part.edit = fun _ _ => False)
    (becomes : content.Becomes value) : value = content.value := by
  rw [Becomes, fixed] at becomes
  cases becomes with
  | refl => rfl
  | tail _ edit => exact edit.elim

theorem default_of_stands (fixed : content.part.edit = fun _ _ => False)
    (stands : content.Stands []) :
    content.part.default? = some content.value := by
  cases stands with
  | absent isDefault becomes => rw [isDefault, eq_of_fixed fixed becomes]

theorem not_stands (required : content.part.default? = none) :
    ¬content.Stands [] := by
  rintro ⟨isDefault, _⟩
  rw [required] at isDefault
  cases isDefault

theorem onceSeen_of_required (value : α)
    (isSeen : content.part.name ∈ seen ∨ content.Stands [])
    (required : content.part.default? = none) :
    onceSeen seen content.part.name value = some value :=
  if_pos (isSeen.resolve_right (not_stands required))

theorem onceSeen_getD {value default : α}
    (isSeen : content.part.name ∈ seen ∨ content.Stands [])
    (fixed : content.part.edit = fun _ _ => False)
    (isDefault : content.part.default? = some content.value →
      value = default) :
    (onceSeen seen content.part.name value).getD default = value := by
  by_cases mem : content.part.name ∈ seen
  · rw [onceSeen, if_pos mem, Option.getD_some]
  · have left := default_of_stands fixed (isSeen.resolve_left mem)
    rw [onceSeen, if_neg mem, Option.getD_none, isDefault left]

theorem reads_of_fixed {read : Json → Except Fault α} {value : α}
    (fixed : content.part.edit = fun _ _ => False)
    (reads : read content.value = .ok value) {json : Json}
    (becomes : content.Becomes json) : read json = .ok value := by
  rw [eq_of_fixed fixed becomes, reads]

end Content

/-- How a slot takes a part: `filled` tells what is filled once parts of some
names have been seen. -/
structure Slot.Takes (filled : List String → σ)
    (slot : Slot (Except Fault) Json σ) (content : Content) : Prop where
  name_eq : slot.name = content.part.name
  optional : content.Stands [] → slot.required = false
  isFilled_eq : ∀ seen,
    slot.isFilled (filled seen) = decide (content.part.name ∈ seen)
  fill_eq : ∀ {value}, content.Becomes value → ∀ seen,
    slot.fill (filled seen) value = .ok (filled (content.part.name :: seen))

/-- A slot that keeps what is read from the value of a part takes the part. -/
theorem Slot.takes_of_reads {filled : List String → σ}
    {slot : Slot (Except Fault) Json σ} {content : Content}
    {read : Json → Except Fault β} {value : β} (put : σ → β → σ)
    (name_eq : slot.name = content.part.name)
    (fills : slot.fill = fun slots json => do
      return put slots (← read json))
    (optional : slot.required = false ∨ content.part.default? = none)
    (isFilled_eq : ∀ seen,
      slot.isFilled (filled seen) = decide (content.part.name ∈ seen))
    (reads : ∀ {json}, content.Becomes json → read json = .ok value)
    (puts : ∀ seen,
      put (filled seen) value = filled (content.part.name :: seen)) :
    slot.Takes filled content where
  name_eq := name_eq
  optional left := optional.resolve_right fun required =>
    Content.not_stands required left
  isFilled_eq := isFilled_eq
  fill_eq becomes seen := by
    rw [fills, ← puts]
    simp only [reads becomes]
    rfl

namespace RecordShape

/-- How a shape takes the parts of a record. -/
structure Takes (shape : RecordShape (Except Fault) Json σ α)
    (filled : List String → σ) (contents : List Content) (record : α) :
    Prop where
  blank_eq : filled [] = shape.blank
  slots : List.Forall₂ (Slot.Takes filled) shape.slots contents
  build_eq : ∀ {seen}, Content.AllSeen contents seen →
    shape.build (filled seen) = .ok record

variable {shape : RecordShape (Except Fault) Json σ α} {record : α}
  {filled : List String → σ} {contents : List Content}
  {slots : List (Slot (Except Fault) Json σ)} {seen : List String}

/-- A slot is found for the names of parts, and for no other name. -/
theorem find?_slots (takes : List.Forall₂ (Slot.Takes filled) slots contents)
    (name : String) :
    (slots.find? (·.name == name) = none ∧
        ∀ content ∈ contents, name ≠ content.part.name) ∨
      ∃ slot, slots.find? (·.name == name) = some slot ∧
        ∃ content ∈ contents, name = content.part.name ∧
          slot.Takes filled content := by
  induction takes with
  | nil => exact .inl ⟨rfl, by simp⟩
  | @cons slot content slots contents first _ ih =>
      by_cases same : slot.name = name
      · refine .inr ⟨slot, by simp [same], content, List.mem_cons_self, ?_,
          first⟩
        rw [← same, first.name_eq]
      · have passed : (slot :: slots).find? (·.name == name) =
            slots.find? (·.name == name) := by
          simp [same]
        rw [passed]
        rcases ih with ⟨none, others⟩ | ⟨found, isFound, other, mem, here⟩
        · refine .inl ⟨none, List.forall_mem_cons.mpr ⟨?_, others⟩⟩
          rw [← first.name_eq]
          exact Ne.symm same
        · exact .inr ⟨found, isFound, other, List.mem_cons_of_mem _ mem, here⟩

/-- One entry of an object is put into its slot or passed over, and what remains
stands for the parts that are not seen yet. -/
theorem Takes.place (takes : shape.Takes filled contents record)
    {name : String} {value : Json} {rest : Entries Json}
    (remains : Content.Remains contents seen ((name, value) :: rest)) :
    ∃ later, shape.place (filled seen) (.string name, value) =
        .ok (filled later) ∧
      Content.Remains contents later rest := by
  rcases find?_slots takes.slots name with
    ⟨unknown, foreign⟩ | ⟨slot, known, content, mem, rfl, slotTakes⟩
  · refine ⟨seen, ?_, fun content mem => ?_⟩
    · unfold RecordShape.place
      simp only [Medium.string, bind, Except.bind, unknown]
      rfl
    · have still := remains content mem
      rwa [Entries.valuesOf_cons_other (foreign content mem)] at still
  · obtain ⟨-, none⟩ | ⟨unseen, stands⟩ := remains content mem
    · rw [Entries.valuesOf_cons_same] at none
      cases none
    rw [Entries.valuesOf_cons_same, ← List.nil_append (_ :: _)] at stands
    obtain ⟨-, noneBehind, becomes⟩ := stands.here
    refine ⟨content.part.name :: seen, ?_, fun other otherMem => ?_⟩
    · have empty : slot.isFilled (filled seen) = false := by
        rw [slotTakes.isFilled_eq]
        exact decide_eq_false unseen
      unfold RecordShape.place
      simp only [Medium.string, bind, Except.bind, known, empty]
      exact slotTakes.fill_eq becomes seen
    · rw [List.mem_cons]
      by_cases same : other.part.name = content.part.name
      · rw [same]
        exact .inl ⟨.inl rfl, noneBehind⟩
      · have still := remains other otherMem
        rw [Entries.valuesOf_cons_other (Ne.symm same)] at still
        simpa [same] using still

theorem Takes.foldlM_place (takes : shape.Takes filled contents record)
    {entries : Entries Json} (remains : Content.Remains contents seen entries) :
    ∃ later,
      (Json.asMembers entries).entries.foldlM shape.place (filled seen) =
        .ok (filled later) ∧
      Content.AllSeen contents later := by
  induction entries generalizing seen with
  | nil =>
      refine ⟨seen, rfl, fun content mem => ?_⟩
      exact (remains content mem).imp And.left And.right
  | cons entry rest ih =>
      obtain ⟨middle, placed, remains⟩ := takes.place remains
      obtain ⟨later, others, allSeen⟩ := ih remains
      refine ⟨later, ?_, allSeen⟩
      change (shape.place (filled seen) (.string entry.1, entry.2) >>= _) = _
      rw [placed]
      exact others

theorem fillInOrder_listed
    (takes : List.Forall₂ (Slot.Takes filled) slots contents)
    {items : List Json} (listed : Content.Listed contents items) (index : Nat)
    (seen : List String) :
    ∃ later,
      shape.fillInOrder (.ok ()) index slots items (filled seen) =
        .ok (filled later) ∧
      (∀ name ∈ seen, name ∈ later) ∧ Content.AllSeen contents later := by
  induction takes generalizing items index seen with
  | nil =>
      cases listed
      exact ⟨seen, rfl, fun _ => id, fun _ mem => nomatch mem⟩
  | @cons slot content slots contents first _ ih =>
      cases listed with
      | absent absent others =>
          obtain ⟨later, filledLater, kept, allSeen⟩ :=
            ih others (index + 1) seen
          refine ⟨later, ?_, kept,
            List.forall_mem_cons.mpr ⟨.inr absent, allSeen⟩⟩
          simp only [fillInOrder, first.optional absent]
          exact filledLater
      | present becomes others =>
          obtain ⟨later, filledLater, kept, allSeen⟩ :=
            ih others (index + 1) (content.part.name :: seen)
          obtain ⟨here, before⟩ := List.forall_mem_cons.mp kept
          refine ⟨later, ?_, before,
            List.forall_mem_cons.mpr ⟨.inl here, allSeen⟩⟩
          simp only [fillInOrder, first.fill_eq becomes]
          exact filledLater

/-- A record of which something stands for every part is read. -/
theorem Takes.read_of_edited (takes : shape.Takes filled contents record)
    {value : Json} (edited : Content.Edited contents value) :
    shape.read value = .ok record := by
  have built : ∀ seen, Content.AllSeen contents seen →
      (MonadExcept.ofExcept (shape.build (filled seen)) : Except Fault α) =
        .ok record := by
    intro seen allSeen
    rw [takes.build_eq allSeen]
    rfl
  cases edited with
  | @object entries stands =>
      have remains : Content.Remains contents [] entries := fun content mem =>
        .inr ⟨List.not_mem_nil, stands content mem⟩
      obtain ⟨later, placed, allSeen⟩ := takes.foldlM_place remains
      rw [takes.blank_eq] at placed
      change ((Json.asMembers entries).entries.foldlM shape.place
        shape.blank >>= _) = _
      rw [placed]
      exact built later allSeen
  | @list items listed =>
      obtain ⟨later, filledLater, -, allSeen⟩ :=
        fillInOrder_listed takes.slots listed 0 []
      rw [takes.blank_eq] at filledLater
      change (shape.fillInOrder (.ok ()) 0 shape.slots items
        shape.blank >>= _) = _
      rw [filledLater]
      exact built later allSeen

end RecordShape

namespace Shape

variable {read : Json → Except Fault α}

theorem list_of_forall₂ {values : List α} {items : List Json}
    (each : List.Forall₂ (fun value item => read item = .ok value) values
      items) :
    list read (.array items) = .ok values := by
  have readAll : items.mapM read = .ok values := by
    induction each with
    | nil => rfl
    | cons here _ ih =>
        rw [List.mapM_cons, here, ih]
        rfl
  change (items.mapM read >>= _) = _
  rw [readAll]
  rfl

/-- A dictionary is read back from the object of its entries. -/
theorem dict_of_entries {write : α → Json}
    (reads : ∀ value, read (write value) = .ok value) (dictionary : Dict α) :
    dict read (.object
        (dictionary.entries.map fun entry => (entry.1, write entry.2))) =
      .ok dictionary := by
  let step (dict : Dict α) (entry : Json × Json) : Except Fault (Dict α) := do
    let name ← Medium.string entry.1
    let value ← read entry.2
    return dict.insert name value
  have fold : ∀ (entries : Entries α) (start : Dict α),
      (Json.asMembers
          (entries.map fun entry => (entry.1, write entry.2))).entries.foldlM
        step start =
          .ok (entries.foldl (fun dict entry => dict.insert entry.1 entry.2)
            start) := by
    intro entries
    induction entries with
    | nil => exact fun _ => rfl
    | cons entry entries ih =>
        intro start
        rw [List.foldl_cons, ← ih]
        change (read (write entry.2) >>= _) >>= _ = _
        rw [reads]
        rfl
  change (List.foldlM step _ (Json.asMembers _).entries >>= _) = _
  rw [fold]
  exact congrArg _ dictionary.ofEntries_entries

end Shape

end GraphTable
