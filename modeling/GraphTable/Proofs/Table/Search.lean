import Mathlib.Data.List.Find
import GraphTable.Proofs.Entries
import GraphTable.Table.Projector

/-!
# Searching entries by name

An entry with exactly a name goes before one with the name in another letter
case, of which the first is found.  Entries with other names have no part in the
search: whatever stands between the entries that are alike to the name, the same
one is found.
-/

namespace GraphTable

variable {name : String} {ignoreCase : Bool}

/-- What is found under a name in a dictionary: the value with exactly the name
or else, if letter case is ignored, the value with the first name that differs
in nothing else. -/
inductive Dict.Finds (dict : Dict Json) (name : String) (ignoreCase : Bool) :
    Option Json → Prop
  | exact {value : Json} (mem : (name, value) ∈ dict.entries) :
      Finds dict name ignoreCase (some value)
  | alike {before behind : Entries Json} {other : String} {value : Json}
      (ignored : ignoreCase = true) (absent : name ∉ dict.entries.names)
      (split : dict.entries = before ++ (other, value) :: behind)
      (same : Text.lower other = Text.lower name)
      (first : ∀ entry ∈ before, Text.lower entry.1 ≠ Text.lower name) :
      Finds dict name ignoreCase (some value)
  | missing (absent : name ∉ dict.entries.names)
      (noneAlike : ignoreCase = true → ∀ entry ∈ dict.entries,
        Text.lower entry.1 ≠ Text.lower name) :
      Finds dict name ignoreCase none

theorem Text.sameIgnoringCase_iff {s t : String} :
    sameIgnoringCase s t = true ↔ lower s = lower t :=
  beq_iff_eq

theorem findMember?_of_lookup? {members : Entries Json} {value : Json}
    (found : Entries.lookup? name members = some value) :
    findMember? name ignoreCase members = some value := by
  rw [findMember?, found]

theorem findMember?_of_absent {members : Entries Json}
    (absent : Entries.lookup? name members = none) :
    findMember? name ignoreCase members =
      if ignoreCase then
        (members.find? fun entry => Text.sameIgnoringCase entry.1 name).map
          Prod.snd
      else none := by
  rw [findMember?, absent]

/-- Where letter case is not ignored, a search is a lookup. -/
theorem findMember?_exact (name : String) (members : Entries Json) :
    findMember? name false members = Entries.lookup? name members := by
  unfold findMember?
  cases Entries.lookup? name members <;> rfl

theorem notAlike_iff {s t : String} :
    (!Text.sameIgnoringCase s t) = true ↔ Text.lower s ≠ Text.lower t := by
  simp [Text.sameIgnoringCase]

namespace Dict

variable {dict : Dict Json} {found : Option Json}

theorem Finds.findMember?_eq (finds : dict.Finds name ignoreCase found) :
    findMember? name ignoreCase dict.entries = found := by
  cases finds with
  | exact mem =>
      exact findMember?_of_lookup? (Entries.lookup?_of_mem dict.distinct mem)
  | @alike before behind other value ignored absent split same first =>
      rw [findMember?_of_absent (Entries.lookup?_eq_none_iff.mpr absent),
        if_pos ignored, Option.map_eq_some_iff]
      refine ⟨(other, value), ?_, rfl⟩
      rw [List.find?_eq_some_iff_append]
      exact ⟨Text.sameIgnoringCase_iff.mpr same, before, behind, split,
        fun entry mem => notAlike_iff.mpr (first entry mem)⟩
  | missing absent noneAlike =>
      rw [findMember?_of_absent (Entries.lookup?_eq_none_iff.mpr absent)]
      cases ignoreCase with
      | false => rfl
      | true =>
          rw [if_pos rfl, Option.map_eq_none_iff, List.find?_eq_none]
          intro entry mem alike
          exact noneAlike rfl entry mem (Text.sameIgnoringCase_iff.mp alike)

theorem finds_findMember? (dict : Dict Json) (name : String)
    (ignoreCase : Bool) :
    dict.Finds name ignoreCase (findMember? name ignoreCase dict.entries) := by
  cases stands : Entries.lookup? name dict.entries with
  | some value =>
      rw [findMember?_of_lookup? stands]
      exact .exact (Entries.mem_of_lookup? stands)
  | none =>
      have absent := Entries.lookup?_eq_none_iff.mp stands
      rw [findMember?_of_absent stands]
      cases ignoreCase with
      | false => exact .missing absent fun ignored => nomatch ignored
      | true =>
          rw [if_pos rfl]
          cases first : dict.entries.find? fun entry =>
              Text.sameIgnoringCase entry.1 name with
          | none =>
              refine .missing absent fun _ entry mem same => ?_
              exact List.find?_eq_none.mp first entry mem
                (Text.sameIgnoringCase_iff.mpr same)
          | some entry =>
              obtain ⟨same, before, behind, split, others⟩ :=
                List.find?_eq_some_iff_append.mp first
              exact .alike rfl absent split (Text.sameIgnoringCase_iff.mp same)
                fun earlier mem => notAlike_iff.mp (others earlier mem)

/-- One thing is found in a dictionary under a name. -/
theorem finds_iff :
    dict.Finds name ignoreCase found ↔
      findMember? name ignoreCase dict.entries = found := by
  constructor
  · exact Finds.findMember?_eq
  · rintro rfl
    exact dict.finds_findMember? name ignoreCase

end Dict

/-- A search is not changed where only entries are left out whose names are not
alike. -/
theorem findMember?_filter {keep : String × Json → Bool} {members : Entries Json}
    (kept : ∀ entry ∈ members, Text.lower entry.1 = Text.lower name →
      keep entry = true) :
    findMember? name ignoreCase (members.filter keep) =
      findMember? name ignoreCase members := by
  have exact : Entries.lookup? name (members.filter keep) =
      Entries.lookup? name members := by
    apply Entries.lookup?_filter
    intro entry mem same
    exact kept entry mem (congrArg Text.lower same)
  have alike : (members.filter keep).find? (fun entry =>
        Text.sameIgnoringCase entry.1 name) =
      members.find? fun entry => Text.sameIgnoringCase entry.1 name := by
    rw [List.find?_filter]
    apply List.find?_congr
    intro entry mem
    cases same : Text.sameIgnoringCase entry.1 name with
    | false => simp
    | true =>
        simp [kept entry mem (Text.sameIgnoringCase_iff.mp same)]
  rw [findMember?, findMember?, exact, alike]

/-- A search looks at no entries but those whose names are alike. -/
theorem findMember?_alike (members : Entries Json) :
    findMember? name ignoreCase
        (members.filter fun entry => Text.sameIgnoringCase entry.1 name) =
      findMember? name ignoreCase members := by
  apply findMember?_filter
  intro entry _ same
  exact Text.sameIgnoringCase_iff.mpr same

theorem findMember?_map (f : Json → Json) (members : Entries Json) :
    findMember? name ignoreCase
        (members.map fun entry => (entry.1, f entry.2)) =
      (findMember? name ignoreCase members).map f := by
  unfold findMember?
  rw [Entries.lookup?_map, List.find?_map]
  cases Entries.lookup? name members with
  | some value => rfl
  | none =>
      cases ignoreCase with
      | false => rfl
      | true =>
          simp only [Option.map_none, if_true, Option.map_map]
          rfl

/-- Entries whose names are not alike to a name do not stand in its way. -/
theorem findMember?_insertAll {tokens : Entries Json}
    (apart : ∀ entry ∈ tokens, Text.lower entry.1 ≠ Text.lower name)
    (new : Entries Json) :
    findMember? name ignoreCase (Entries.insertAll tokens new) =
      findMember? name ignoreCase (Dict.ofEntries new).entries := by
  have noToken : (tokens.filter fun entry =>
      Text.sameIgnoringCase entry.1 name) = [] := by
    rw [List.filter_eq_nil_iff]
    intro entry mem alike
    exact apart entry mem (Text.sameIgnoringCase_iff.mp alike)
  rw [Dict.entries_ofEntries, ← findMember?_alike,
    Entries.filter_insertAll (Text.sameIgnoringCase · name), noToken,
    ← findMember?_alike (Entries.insertAll [] new),
    Entries.filter_insertAll (Text.sameIgnoringCase · name)]
  rfl

end GraphTable
