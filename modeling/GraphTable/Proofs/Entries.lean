import GraphTable.Entries

/-!
# Looking up inserted entries

Of all entries inserted under a name the last one is found, and an entry that
was there before is found only if the name is not inserted.  Entries with names
of their own come in behind those that are there, so that a dictionary is built
again from its entries.
-/

namespace GraphTable

namespace Entries

variable {α β : Type} {name other : String} {value : α}

/-- Find the value of the last entry with a name. -/
def last? (name : String) (entries : Entries α) : Option α :=
  lookup? name entries.reverse

theorem lookup?_insert_same (entries : Entries α) :
    lookup? name (insert name value entries) = some value := by
  induction entries with
  | nil => simp [insert, lookup?]
  | cons entry rest ih =>
      obtain ⟨first, old⟩ := entry
      by_cases same : first = name
      · simp [insert, lookup?, same]
      · simp [insert, lookup?, same, ih]

theorem lookup?_insert_other (differ : other ≠ name) (entries : Entries α) :
    lookup? name (insert other value entries) = lookup? name entries := by
  induction entries with
  | nil => simp [insert, lookup?, differ]
  | cons entry rest ih =>
      obtain ⟨first, old⟩ := entry
      by_cases same : first = other
      · subst same
        simp [insert, lookup?, differ]
      · simp [insert, lookup?, same, ih]

theorem lookup?_append (first second : Entries α) :
    lookup? name (first ++ second) =
      (lookup? name first).or (lookup? name second) := by
  induction first with
  | nil => rfl
  | cons entry rest ih =>
      obtain ⟨head, old⟩ := entry
      by_cases same : head = name
      · simp [lookup?, same]
      · simp [lookup?, same, ih]

theorem lookup?_eq_none_iff {entries : Entries α} :
    lookup? name entries = none ↔ name ∉ entries.names := by
  induction entries with
  | nil => simp [lookup?, names]
  | cons entry rest ih =>
      obtain ⟨first, old⟩ := entry
      by_cases same : first = name
      · simp [lookup?, names, same]
      · rw [lookup?, if_neg same, ih]
        simp [names, Ne.symm same]

theorem lookup?_eq_some_iff {entries : Entries α} :
    lookup? name entries = some value ↔
      ∃ before behind : Entries α,
        entries = before ++ (name, value) :: behind ∧ name ∉ before.names := by
  constructor
  · intro found
    induction entries with
    | nil => cases found
    | cons entry rest ih =>
        obtain ⟨first, old⟩ := entry
        by_cases same : first = name
        · rw [lookup?, if_pos same] at found
          cases found
          exact ⟨[], rest, same ▸ rfl, List.not_mem_nil⟩
        · rw [lookup?, if_neg same] at found
          obtain ⟨before, behind, rfl, absent⟩ := ih found
          refine ⟨(first, old) :: before, behind, rfl, ?_⟩
          exact List.not_mem_cons_of_ne_of_not_mem (Ne.symm same) absent
  · rintro ⟨before, behind, rfl, absent⟩
    rw [lookup?_append, lookup?_eq_none_iff.mpr absent, Option.none_or, lookup?,
      if_pos rfl]

theorem mem_of_lookup? {entries : Entries α}
    (found : lookup? name entries = some value) : (name, value) ∈ entries := by
  obtain ⟨before, behind, rfl, -⟩ := lookup?_eq_some_iff.mp found
  exact List.mem_append_right before List.mem_cons_self

theorem lookup?_of_mem {entries : Entries α} (distinct : entries.Distinct)
    (mem : (name, value) ∈ entries) : lookup? name entries = some value := by
  induction entries with
  | nil => cases mem
  | cons entry rest ih =>
      obtain ⟨first, old⟩ := entry
      obtain ⟨apart, others⟩ : first ∉ names rest ∧ Distinct rest := by
        simpa [Distinct, names] using distinct
      rcases List.mem_cons.mp mem with same | inside
      · cases same
        rw [lookup?, if_pos rfl]
      · have differ : first ≠ name := by
          rintro rfl
          exact apart (List.mem_map_of_mem inside)
        rw [lookup?, if_neg differ]
        exact ih others inside

theorem lookup?_perm {entries others : Entries α} (distinct : entries.Distinct)
    (perm : entries.Perm others) :
    lookup? name others = lookup? name entries := by
  have sameNames : entries.names.Perm others.names :=
    perm.map Prod.fst
  cases found : lookup? name entries with
  | some value =>
      have mem : (name, value) ∈ others :=
        perm.mem_iff.mp (mem_of_lookup? found)
      exact lookup?_of_mem (sameNames.nodup_iff.mp distinct) mem
  | none =>
      rw [lookup?_eq_none_iff] at found ⊢
      exact fun inside => found (sameNames.mem_iff.mpr inside)

theorem last?_cons (entry : String × α) (rest : Entries α) :
    last? name (entry :: rest) =
      (last? name rest).or (lookup? name [entry]) := by
  simp [last?, lookup?_append]

theorem last?_eq_none_iff {entries : Entries α} :
    last? name entries = none ↔ name ∉ entries.names := by
  rw [last?, lookup?_eq_none_iff, names, List.map_reverse, List.mem_reverse,
    names]

theorem last?_eq_some_iff {entries : Entries α} :
    last? name entries = some value ↔
      ∃ before behind : Entries α,
        entries = before ++ (name, value) :: behind ∧ name ∉ behind.names := by
  rw [last?, lookup?_eq_some_iff]
  constructor
  · rintro ⟨behind, before, split, absent⟩
    refine ⟨before.reverse, behind.reverse, ?_, ?_⟩
    · rw [List.reverse_eq_iff.mp split]
      simp
    · rwa [names, List.map_reverse, List.mem_reverse]
  · rintro ⟨before, behind, rfl, absent⟩
    refine ⟨behind.reverse, before.reverse, by simp, ?_⟩
    rwa [names, List.map_reverse, List.mem_reverse]

theorem lookup?_insertAll (entries new : Entries α) :
    lookup? name (insertAll entries new) =
      (last? name new).or (lookup? name entries) := by
  induction new generalizing entries with
  | nil => rfl
  | cons entry rest ih =>
      obtain ⟨head, value⟩ := entry
      have later := ih (insert head value entries)
      rw [last?_cons, Option.or_assoc]
      by_cases same : head = name
      · subst same
        rw [lookup?_insert_same] at later
        simpa [insertAll, lookup?] using later
      · rw [lookup?_insert_other same] at later
        simpa [insertAll, lookup?, same] using later

theorem insert_of_notMem {entries : Entries α} (absent : name ∉ entries.names) :
    insert name value entries = entries ++ [(name, value)] := by
  induction entries with
  | nil => rfl
  | cons entry rest ih =>
      obtain ⟨first, old⟩ := entry
      rw [names, List.map_cons, List.mem_cons, not_or] at absent
      rw [insert, if_neg (Ne.symm absent.1), ih absent.2, List.cons_append]

theorem names_insert (entries : Entries α) :
    (insert name value entries).names =
      if name ∈ entries.names then entries.names
      else entries.names ++ [name] := by
  by_cases mem : name ∈ entries.names
  · rw [if_pos mem]
    induction entries with
    | nil => cases mem
    | cons entry rest ih =>
        obtain ⟨first, old⟩ := entry
        by_cases same : first = name
        · simp [insert, names, same]
        · have inside : name ∈ names rest :=
            (List.mem_cons.mp mem).resolve_left (Ne.symm same)
          rw [insert, if_neg same]
          exact congrArg (first :: ·) (ih inside)
  · rw [if_neg mem, insert_of_notMem mem]
    exact List.map_append

/-- Which names come in, and in which order, does not depend on the values. -/
theorem names_insertAll_congr {entries new : Entries α}
    {others renewed : Entries β}
    (same : others.names = entries.names)
    (sameNew : renewed.names = new.names) :
    (insertAll others renewed).names = (insertAll entries new).names := by
  induction new generalizing entries others renewed with
  | nil =>
      obtain rfl : renewed = [] := List.map_eq_nil_iff.mp sameNew
      exact same
  | cons entry rest ih =>
      cases renewed with
      | nil => cases sameNew
      | cons renewedEntry renewedRest =>
          obtain ⟨sameFirst, sameRest⟩ := List.cons_eq_cons.mp sameNew
          have inserted :
              (insert renewedEntry.1 renewedEntry.2 others).names =
                (insert entry.1 entry.2 entries).names := by
            rw [names_insert, names_insert, same, sameFirst]
          have later := ih inserted sameRest
          exact later

theorem Distinct.insertAll {entries : Entries α} (distinct : entries.Distinct)
    (new : Entries α) : (Entries.insertAll entries new).Distinct := by
  induction new generalizing entries with
  | nil => exact distinct
  | cons entry rest ih => exact ih distinct.insert

theorem insertAll_of_distinct {entries new : Entries α}
    (distinct : Distinct (entries ++ new)) :
    insertAll entries new = entries ++ new := by
  induction new generalizing entries with
  | nil => simp [insertAll]
  | cons entry rest ih =>
      obtain ⟨first, value⟩ := entry
      have absent : first ∉ entries.names := by
        rw [Distinct, names, List.map_append, List.nodup_append] at distinct
        intro inside
        exact distinct.2.2 first inside first List.mem_cons_self rfl
      have inserted : insert first value entries = entries ++ [(first, value)] :=
        insert_of_notMem absent
      rw [List.append_cons] at distinct ⊢
      rw [← ih distinct, ← inserted]
      rfl

/-- What is inserted is filtered by name or not, wherever it comes to stand. -/
theorem filter_insert (keep : String → Bool) (entries : Entries α) :
    (insert name value entries).filter (fun entry => keep entry.1) =
      if keep name then
        insert name value (entries.filter fun entry => keep entry.1)
      else entries.filter fun entry => keep entry.1 := by
  induction entries with
  | nil => rw [insert, List.filter_cons, List.filter_nil, insert]
  | cons entry rest ih =>
      obtain ⟨first, old⟩ := entry
      by_cases same : first = name
      · subst same
        cases kept : keep first <;> simp [insert, kept]
      · rw [insert, if_neg same, List.filter_cons, ih, List.filter_cons]
        cases keep first <;> cases keep name <;> simp [insert, same]

/-- A lookup is not changed where only entries with other names are left out. -/
theorem lookup?_filter {keep : String × α → Bool} {entries : Entries α}
    (kept : ∀ entry ∈ entries, entry.1 = name → keep entry = true) :
    lookup? name (entries.filter keep) = lookup? name entries := by
  induction entries with
  | nil => rfl
  | cons entry rest ih =>
      have later := ih fun other mem => kept other (List.mem_cons_of_mem _ mem)
      obtain ⟨first, old⟩ := entry
      by_cases same : first = name
      · have keepsFirst : keep (first, old) = true :=
          kept _ List.mem_cons_self same
        rw [List.filter_cons_of_pos keepsFirst]
        simp [lookup?, same]
      · cases keepsFirst : keep (first, old) <;>
          simp [lookup?, same, keepsFirst, later]

theorem filter_insertAll (keep : String → Bool) (entries new : Entries α) :
    (insertAll entries new).filter (fun entry => keep entry.1) =
      insertAll (entries.filter fun entry => keep entry.1)
        (new.filter fun entry => keep entry.1) := by
  induction new generalizing entries with
  | nil => rfl
  | cons entry rest ih =>
      obtain ⟨first, value⟩ := entry
      have later := ih (insert first value entries)
      rw [filter_insert] at later
      cases kept : keep first <;> simpa [insertAll, kept] using later

theorem map_insert (f : α → β) (entries : Entries α) :
    (insert name value entries).map (fun entry => (entry.1, f entry.2)) =
      insert name (f value) (entries.map fun entry => (entry.1, f entry.2)) := by
  induction entries with
  | nil => rfl
  | cons entry rest ih =>
      obtain ⟨first, old⟩ := entry
      by_cases same : first = name
      · simp [insert, same]
      · simp [insert, same, ih]

theorem map_insertAll (f : α → β) (entries new : Entries α) :
    (insertAll entries new).map (fun entry => (entry.1, f entry.2)) =
      insertAll (entries.map fun entry => (entry.1, f entry.2))
        (new.map fun entry => (entry.1, f entry.2)) := by
  induction new generalizing entries with
  | nil => rfl
  | cons entry rest ih =>
      have later := ih (insert entry.1 entry.2 entries)
      rw [map_insert] at later
      exact later

def valuesOf (name : String) (entries : Entries α) : List α :=
  (entries.filter fun entry => entry.1 = name).map Prod.snd

theorem valuesOf_append (before after : Entries α) :
    valuesOf name (before ++ after) =
      before.valuesOf name ++ after.valuesOf name := by
  simp [valuesOf]

theorem valuesOf_cons_same (rest : Entries α) :
    valuesOf name ((name, value) :: rest) = value :: rest.valuesOf name := by
  simp [valuesOf]

theorem valuesOf_cons_other (differ : other ≠ name) (rest : Entries α) :
    valuesOf name ((other, value) :: rest) = rest.valuesOf name := by
  simp [valuesOf, differ]

theorem valuesOf_perm {entries others : Entries α}
    (perm : entries.Perm others) :
    (entries.valuesOf name).Perm (others.valuesOf name) :=
  (perm.filter _).map _

theorem valuesOf_of_notMem {entries : Entries α}
    (absent : name ∉ entries.names) : entries.valuesOf name = [] := by
  rw [valuesOf, List.map_eq_nil_iff, List.filter_eq_nil_iff]
  rintro entry mem same
  rw [← of_decide_eq_true same] at absent
  exact absent (List.mem_map_of_mem mem)

theorem lookup?_map (f : α → β) (entries : Entries α) :
    lookup? name (entries.map fun entry => (entry.1, f entry.2)) =
      (lookup? name entries).map f := by
  induction entries with
  | nil => rfl
  | cons entry rest ih =>
      obtain ⟨head, value⟩ := entry
      by_cases same : head = name
      · simp [lookup?, same]
      · simpa [lookup?, same] using ih

theorem last?_map (f : α → β) (entries : Entries α) :
    last? name (entries.map fun entry => (entry.1, f entry.2)) =
      (last? name entries).map f := by
  rw [last?, ← List.map_reverse, lookup?_map, last?]

end Entries

namespace Dict

variable {α : Type}

theorem ext_entries {dict other : Dict α}
    (same : dict.entries = other.entries) : dict = other := by
  cases dict
  cases other
  congr

theorem entries_ofEntries (entries : Entries α) :
    (ofEntries entries).entries = Entries.insertAll [] entries :=
  (List.foldl_hom Dict.entries fun _ _ => rfl).symm

theorem ofEntries_entries (dict : Dict α) : ofEntries dict.entries = dict := by
  apply ext_entries
  rw [entries_ofEntries]
  exact Entries.insertAll_of_distinct dict.distinct

end Dict

end GraphTable
