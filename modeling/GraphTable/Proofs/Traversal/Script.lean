import GraphTable.Proofs.Traversal.Literal
import GraphTable.Traversal.Script

/-!
# Scripts of traversals

A text is read as a traversal exactly if it is the script of that traversal.  No
two traversals share a script.  A label shows in it as one literal, which ends
where it was meant to end, whatever the label.
-/

namespace GraphTable

theorem dropWord?_append (word rest : List Char) :
    dropWord? word (word ++ rest) = some rest := by
  induction word with
  | nil => rfl
  | cons c word ih => simp [dropWord?, ih]

theorem eq_of_dropWord? {word cs rest : List Char}
    (dropped : dropWord? word cs = some rest) : cs = word ++ rest := by
  fun_induction dropWord? word cs with
  | case1 cs => exact Option.some.inj dropped
  | case2 c word => cases dropped
  | case3 c word cs ih => rw [ih dropped, List.cons_append]
  | case4 c word d cs differ => cases dropped

namespace Step

variable {cs rest : List Char} {step : Step} {steps : List Step}

theorem script_hasLabel (label : String) (rest : List Char) :
    script (.hasLabel label) ++ rest =
      ".hasLabel(".toList ++
        (Literal.write label.toList ++ ([')'] ++ rest)) := by
  unfold script
  generalize ".hasLabel(".toList = opening
  simp

theorem read?_hasLabel (label : String) (rest : List Char) :
    read? (script (.hasLabel label) ++ rest) =
      some (.hasLabel label, rest) := by
  have opened := dropWord?_append ".hasLabel(".toList
    (Literal.write label.toList ++ ([')'] ++ rest))
  have scanned : Literal.scan
      (Literal.write label.toList ++ ([')'] ++ rest)) =
        some (label.toList, [')'] ++ rest) :=
    Literal.scan_eq_some_iff.mpr rfl
  have closed := dropWord?_append [')'] rest
  rw [script_hasLabel]
  unfold read?
  simp only [opened, scanned, closed, Option.bind_eq_bind, Option.bind_some,
    String.ofList_toList]
  rfl

theorem read?_valueMap (rest : List Char) :
    read? (script .valueMap ++ rest) = some (.valueMap, rest) := by
  have noLabel : dropWord? ".hasLabel(".toList (script .valueMap ++ rest) =
      none :=
    rfl
  have dropped : dropWord? ".valueMap().with(WithOptions.tokens)".toList
      (script .valueMap ++ rest) = some rest :=
    dropWord?_append _ rest
  unfold read?
  simp only [noLabel, dropped]

theorem read?_elementMap (rest : List Char) :
    read? (script .elementMap ++ rest) = some (.elementMap, rest) := by
  have noLabel : dropWord? ".hasLabel(".toList (script .elementMap ++ rest) =
      none :=
    rfl
  have noValues : dropWord? ".valueMap().with(WithOptions.tokens)".toList
      (script .elementMap ++ rest) = none :=
    rfl
  have dropped : dropWord? ".elementMap()".toList (script .elementMap ++ rest) =
      some rest :=
    dropWord?_append _ rest
  unfold read?
  simp only [noLabel, noValues, dropped, Option.map_some]

theorem read?_script (step : Step) (rest : List Char) :
    read? (step.script ++ rest) = some (step, rest) := by
  cases step with
  | hasLabel label => exact read?_hasLabel label rest
  | valueMap => exact read?_valueMap rest
  | elementMap => exact read?_elementMap rest

theorem eq_of_read? (isRead : read? cs = some (step, rest)) :
    cs = step.script ++ rest := by
  unfold read? at isRead
  split at isRead
  · next inside opened =>
      simp only [Option.bind_eq_bind, Option.bind_eq_some_iff] at isRead
      obtain ⟨⟨label, behind⟩, scanned, last, closed, both⟩ := isRead
      cases both
      have literal := Literal.scan_eq_some_iff.mp scanned
      have bracket : behind = [')'] ++ rest := eq_of_dropWord? closed
      subst bracket
      rw [eq_of_dropWord? opened, literal, script_hasLabel]
      simp only [String.toList_ofList]
  · split at isRead
    · next behind dropped =>
        cases isRead
        exact eq_of_dropWord? dropped
    · obtain ⟨behind, dropped, both⟩ := Option.map_eq_some_iff.mp isRead
      cases both
      exact eq_of_dropWord? dropped

theorem script_length_pos (step : Step) : 0 < step.script.length := by
  have starts : ∃ call, step.script = '.' :: call := by
    cases step <;> exact ⟨_, rfl⟩
  obtain ⟨call, starts⟩ := starts
  rw [starts]
  exact Nat.succ_pos _

theorem readAll?_succ (isRead : read? cs = some (step, rest)) (fuel : Nat) :
    readAll? (fuel + 1) cs = (readAll? fuel rest).map (step :: ·) := by
  cases cs with
  | nil => cases isRead
  | cons c cs =>
      simp only [readAll?, isRead, Option.bind_eq_bind, Option.bind_some]
      cases readAll? fuel rest <;> rfl

theorem readAll?_script (steps : List Step) {fuel : Nat}
    (enough : (steps.flatMap script).length ≤ fuel) :
    readAll? fuel (steps.flatMap script) = some steps := by
  induction steps generalizing fuel with
  | nil => cases fuel <;> rfl
  | cons step steps ih =>
      have positive := step.script_length_pos
      rw [List.flatMap_cons, List.length_append] at enough
      obtain ⟨less, rfl⟩ : ∃ less, fuel = less + 1 := ⟨fuel - 1, by omega⟩
      rw [List.flatMap_cons, readAll?_succ (read?_script step _),
        ih (by omega), Option.map_some]

theorem eq_of_readAll? {fuel : Nat} (areRead : readAll? fuel cs = some steps) :
    cs = steps.flatMap script := by
  fun_induction readAll? fuel cs generalizing steps with
  | case1 fuel =>
      cases areRead
      rfl
  | case2 c cs => cases areRead
  | case3 fuel c cs ih =>
      simp only [Option.bind_eq_bind, Option.bind_eq_some_iff] at areRead
      obtain ⟨⟨step, rest⟩, first, others, later, all⟩ := areRead
      cases all
      rw [eq_of_read? first, ih rest later, List.flatMap_cons]

end Step

/-- Read the call of a start at the front of a script. -/
def Source.read? (cs : List Char) : Option (Source × List Char) :=
  match dropWord? Source.vertices.script cs with
  | some rest => some (.vertices, rest)
  | none => (dropWord? Source.edges.script cs).map (.edges, ·)

theorem Source.read?_eq_some_iff {cs rest : List Char} {source : Source} :
    Source.read? cs = some (source, rest) ↔ cs = source.script ++ rest := by
  constructor
  · intro isRead
    unfold read? at isRead
    split at isRead
    · next behind dropped =>
        cases isRead
        exact eq_of_dropWord? dropped
    · obtain ⟨behind, dropped, both⟩ := Option.map_eq_some_iff.mp isRead
      cases both
      exact eq_of_dropWord? dropped
  · rintro rfl
    cases source with
    | vertices =>
        unfold read?
        rw [dropWord?_append]
    | edges =>
        have noVertices : dropWord? Source.vertices.script
            (Source.edges.script ++ rest) = none :=
          rfl
        unfold read?
        simp only [noVertices, dropWord?_append, Option.map_some]

namespace Traversal

theorem read?_eq (script : String) :
    read? script =
      (dropWord? ['g'] script.toList).bind fun calls =>
        (Source.read? calls).bind fun (source, rest) =>
          (Step.readAll? rest.length rest).map (mk source) := by
  have readBehind (source : Source) (rest : List Char) :
      ((Step.readAll? rest.length rest).bind fun steps =>
        pure (mk source steps)) =
      (Step.readAll? rest.length rest).map (mk source) := by
    cases Step.readAll? rest.length rest <;> rfl
  unfold read?
  cases dropWord? ['g'] script.toList with
  | none => rfl
  | some calls =>
      simp only [Option.bind_eq_bind, Option.bind_some, Source.read?]
      cases dropWord? Source.vertices.script calls with
      | some rest => exact readBehind .vertices rest
      | none =>
          cases dropWord? Source.edges.script calls with
          | some rest => exact readBehind .edges rest
          | none => rfl

theorem script_toList (traversal : Traversal) :
    traversal.script.toList =
      ['g'] ++ (traversal.source.script ++
        traversal.steps.flatMap Step.script) := by
  simp [script]

theorem read?_script (traversal : Traversal) :
    read? traversal.script = some traversal := by
  obtain ⟨source, steps⟩ := traversal
  have started := Source.read?_eq_some_iff.mpr
    (Eq.refl (source.script ++ steps.flatMap Step.script))
  rw [read?_eq, script_toList, dropWord?_append]
  simp only [Option.bind_some, started, Option.map_some,
    Step.readAll?_script steps (Nat.le_refl _)]

theorem eq_of_read? {script : String} {traversal : Traversal}
    (isRead : read? script = some traversal) : script = traversal.script := by
  rw [read?_eq] at isRead
  simp only [Option.bind_eq_some_iff, Option.map_eq_some_iff] at isRead
  obtain ⟨calls, begun, ⟨source, rest⟩, started, steps, areRead, all⟩ := isRead
  cases all
  have sourceFirst : calls = source.script ++ rest :=
    Source.read?_eq_some_iff.mp started
  have stepsBehind : rest = steps.flatMap Step.script :=
    Step.eq_of_readAll? areRead
  rw [← String.toList_inj, script_toList, eq_of_dropWord? begun, sourceFirst,
    stepsBehind]

theorem script_around_label (source : Source) (before after : List Step)
    (label : String) :
    script ⟨source, before ++ .hasLabel label :: after⟩ =
      String.ofList
        (['g'] ++ source.script ++ before.flatMap Step.script ++
          ".hasLabel(".toList ++ Literal.write label.toList ++
          ([')'] ++ after.flatMap Step.script)) := by
  unfold script
  congr 1
  rw [List.flatMap_append, List.flatMap_cons, Step.script_hasLabel]
  generalize ".hasLabel(".toList = opening
  simp

/-- A text is read as a traversal exactly if it is the script of the traversal,
so that no two traversals share a script.  What stands before and behind a label
does not depend on the label: only its own literal does, and it is read as the
label between the same steps. -/
theorem script_decodes_uniquely :
    (∀ (script : String) (traversal : Traversal),
      read? script = some traversal ↔ script = traversal.script) ∧
    Function.Injective script ∧
    ∀ (source : Source) (before after : List Step),
      ∃ front back : List Char, ∀ label : String,
        script ⟨source, before ++ .hasLabel label :: after⟩ =
          String.ofList (front ++ Literal.write label.toList ++ back) ∧
        read? (String.ofList (front ++ Literal.write label.toList ++ back)) =
          some ⟨source, before ++ .hasLabel label :: after⟩ := by
  refine ⟨fun script traversal => ⟨eq_of_read?, ?_⟩, ?_, ?_⟩
  · rintro rfl
    exact read?_script traversal
  · intro first second same
    have firstRead := read?_script first
    rw [same, read?_script second] at firstRead
    exact (Option.some.inj firstRead).symm
  · intro source before after
    refine ⟨_, _, fun label =>
      ⟨script_around_label source before after label, ?_⟩⟩
    rw [← script_around_label]
    exact read?_script _

/-- A label that looks like the end of its literal and one more step. -/
example :
    script ⟨.vertices, [.hasLabel "').drop()"]⟩ =
        "g.V().hasLabel('\\').drop()')" ∧
      read? "g.V().hasLabel('\\').drop()')" =
        some ⟨.vertices, [.hasLabel "').drop()"]⟩ := by
  decide +kernel

end Traversal

end GraphTable
