/-!
# Named entries in order

Entries keep the order in which their names first came in. Writing a name again
replaces its value where it stands. `Dict` adds the promise that no name occurs
twice, which every way of building it keeps.
-/

namespace GraphTable

/-- Values under names, in order. -/
abbrev Entries (α : Type) := List (String × α)

namespace Entries

variable {α : Type}

/-- Find the value of the first entry with a name. -/
def lookup? (name : String) : Entries α → Option α
  | [] => none
  | (other, value) :: rest =>
      if other = name then some value else lookup? name rest

/-- Replace the value of a name where it stands, or add the name at the end. -/
def insert (name : String) (value : α) : Entries α → Entries α
  | [] => [(name, value)]
  | (other, old) :: rest =>
      if other = name then (name, value) :: rest
      else (other, old) :: insert name value rest

/-- Insert entries one after the other. -/
def insertAll (entries new : Entries α) : Entries α :=
  new.foldl (fun entries entry => insert entry.1 entry.2 entries) entries

def names (entries : Entries α) : List String :=
  entries.map Prod.fst

/-- No name occurs twice. -/
def Distinct (entries : Entries α) : Prop :=
  entries.names.Nodup

theorem mem_names_insert {name other : String} {value : α}
    {entries : Entries α} (member : other ∈ (insert name value entries).names) :
    other = name ∨ other ∈ entries.names := by
  induction entries with
  | nil => simpa [insert, names] using member
  | cons entry rest ih =>
      obtain ⟨first, old⟩ := entry
      by_cases equal : first = name
      · simp only [insert, equal, if_true, names, List.map_cons,
          List.mem_cons] at member ⊢
        exact member.elim Or.inl fun inside => Or.inr (Or.inr inside)
      · simp only [insert, equal, if_false, names, List.map_cons,
          List.mem_cons] at member ⊢
        rcases member with same | inside
        · exact Or.inr (Or.inl same)
        · exact (ih inside).elim Or.inl fun rest => Or.inr (Or.inr rest)

theorem Distinct.insert {name : String} {value : α} {entries : Entries α}
    (distinct : entries.Distinct) : (insert name value entries).Distinct := by
  induction entries with
  | nil => simp [Entries.insert, Distinct, names]
  | cons entry rest ih =>
      obtain ⟨first, old⟩ := entry
      have split : first ∉ names rest ∧ Distinct rest := by
        simpa [Distinct, names] using distinct
      by_cases equal : first = name
      · subst equal
        simpa [Entries.insert, Distinct, names] using distinct
      · have apart : first ∉ names (Entries.insert name value rest) :=
          fun inside => (mem_names_insert inside).elim equal split.1
        have tail : Distinct (Entries.insert name value rest) := ih split.2
        simpa [Entries.insert, equal, Distinct, names] using
          And.intro apart tail

end Entries

/-- Entries of which no two have the same name. -/
structure Dict (α : Type) where
  entries : Entries α
  distinct : entries.Distinct

namespace Dict

variable {α : Type}

def empty : Dict α :=
  ⟨[], by simp [Entries.Distinct, Entries.names]⟩

instance : Inhabited (Dict α) :=
  ⟨empty⟩

/-- Write a value under a name, in place if the name is there. -/
def insert (name : String) (value : α) (dict : Dict α) : Dict α :=
  ⟨Entries.insert name value dict.entries, dict.distinct.insert⟩

def get? (dict : Dict α) (name : String) : Option α :=
  Entries.lookup? name dict.entries

/-- Insert entries one after the other; the last value of a name wins. -/
def ofEntries (entries : Entries α) : Dict α :=
  entries.foldl (fun dict entry => dict.insert entry.1 entry.2) empty

end Dict

end GraphTable
