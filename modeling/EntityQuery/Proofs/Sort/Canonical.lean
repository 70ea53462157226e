import EntityQuery.Proofs.Sort.Path
import EntityQuery.Proofs.Text

namespace EntityQuery.SortPath

variable {schema : Schema} {model : Model} {access : Access} {ignoreCase guardsTree : Bool}
  {path : String} {fields : List Field}

/-- A name that can be one step of a path: it has no point in it and no white space around it. -/
def IsStep (name : String) : Prop := '.' ∉ name.toList ∧ Text.trim name.toList = name.toList

private theorem notMem_splitOn (c : Char) (text : List Char) :
    ∀ part ∈ text.splitOn c, c ∉ part := by
  rw [List.splitOn_eq_splitOnP]
  induction text with
  | nil => simp
  | cons d rest ih =>
    rw [List.splitOnP_cons_eq_if_modifyHead]
    split
    · exact List.forall_mem_cons.mpr ⟨List.not_mem_nil, ih⟩
    case isFalse hd =>
      obtain ⟨first, others, hsplit⟩ :=
        List.exists_cons_of_ne_nil (List.splitOnP_ne_nil (fun d => d == c) rest)
      rw [hsplit] at ih ⊢
      obtain ⟨hfirst, hothers⟩ := List.forall_mem_cons.mp ih
      refine List.forall_mem_cons.mpr ⟨fun hmem => ?_, hothers⟩
      rcases List.mem_cons.mp hmem with rfl | hmem
      · simp at hd
      · exact hfirst hmem

theorem isStep_of_mem_names {name : String} (hname : name ∈ names path) : IsStep name := by
  obtain ⟨part, hpart, rfl⟩ := List.mem_map.mp hname
  rw [IsStep, String.toList_ofList]
  refine ⟨fun hpoint => ?_, Text.trim_trim part⟩
  exact notMem_splitOn '.' path.toList part hpart (Text.mem_of_mem_trim hpoint)

theorem IsStep.of_sameIgnoringCase {name other : String} (hname : IsStep name)
    (hsame : Text.sameIgnoringCase other.toList name.toList = true) : IsStep other := by
  obtain ⟨hpoint, htrim⟩ := hname
  refine ⟨fun hmem => hpoint ?_, Text.trim_eq_self_of_sameIgnoringCase hsame htrim⟩
  obtain ⟨c, hc, hcase⟩ :=
    exists_of_forall₂_mem (Text.sameIgnoringCase_iff.mp hsame).flip hmem
  rwa [← Text.eq_point_of_toLower hcase.symm]

/-- The fields on a path have names that can be steps, if the names that lead to them can. -/
theorem Leads.isStep {names : List String} (h : Leads schema ignoreCase model names fields)
    (hnames : ∀ name ∈ names, IsStep name) : ∀ field ∈ fields, IsStep field.name := by
  induction h with
  | last hfield _ _ =>
    intro field hmem
    cases List.mem_singleton.mp hmem
    exact (hnames _ (List.mem_singleton.mpr rfl)).of_sameIgnoringCase
      (Model.sameIgnoringCase_of_fieldInCase? hfield)
  | step hhop _ _ _ ih =>
    obtain ⟨hname, hrest⟩ := List.forall_mem_cons.mp hnames
    refine List.forall_mem_cons.mpr ⟨?_, ih hrest⟩
    exact hname.of_sameIgnoringCase (Model.sameIgnoringCase_of_fieldInCase? hhop)

/-- The steps of a path that is put together from them. -/
theorem names_intercalate {steps : List String} (hne : steps ≠ [])
    (hsteps : ∀ name ∈ steps, IsStep name) : names (String.intercalate "." steps) = steps := by
  have hpoints : ∀ part ∈ steps.map String.toList, '.' ∉ part :=
    List.forall_mem_map.mpr fun name hname => (hsteps name hname).1
  have hsplit : (String.intercalate "." steps).toList.splitOn '.' = steps.map String.toList := by
    rw [String.toList_intercalate]
    exact List.splitOn_intercalate '.' hpoints (by simpa using hne)
  rw [names, hsplit, List.map_map]
  conv_rhs => rw [← List.map_id steps]
  refine List.map_congr_left fun name hname => ?_
  rw [Function.comp_apply, (hsteps name hname).2, String.ofList_toList, id]

/-- The names of the fields on a path lead along the same fields, whether or not letter case is
    told apart then. -/
theorem Leads.map_name {names : List String} (h : Leads schema ignoreCase model names fields)
    (other : Bool) : Leads schema other model (fields.map (·.name)) fields := by
  induction h with
  | last hfield hsortable hscalar =>
    exact .last (Model.fieldInCase?_name hfield other) hsortable hscalar
  | step hhop hsortable hkind _ ih =>
    exact .step (Model.fieldInCase?_name hhop other) hsortable hkind ih

/-- A path that was resolved has a form in which it leads to the same value, whether or not
    letter case is told apart then. Only a field named like the path to an entity itself would
    stand in the way. -/
theorem resolve_path (hnames : ∀ field ∈ model.fields, field.name ≠ SortKey.pathToSelf)
    (hresolve : resolve schema model path ignoreCase guardsTree = .ok access)
    (otherCase otherGuards : Bool) :
    ∃ found, resolve schema model path ignoreCase otherGuards = .ok found ∧
      resolve schema model access.path otherCase otherGuards = .ok found := by
  obtain ⟨hself, fields, hleads, rfl⟩ := resolve_eq_ok_iff.mp hresolve
  refine ⟨⟨steps otherGuards fields⟩, resolve_eq_ok_iff.mpr ⟨hself, fields, hleads, rfl⟩, ?_⟩
  have hne : fields.map (·.name) ≠ [] := by simpa using hleads.ne_nil
  have hsteps : ∀ name ∈ fields.map (·.name), IsStep name :=
    List.forall_mem_map.mpr (hleads.isStep fun name hname => isStep_of_mem_names hname)
  have hpath : (Access.mk (steps guardsTree fields)).path =
      String.intercalate "." (fields.map (·.name)) := by
    rw [Access.path, Access.dotted, map_name_steps]
  have hread : names (Access.mk (steps guardsTree fields)).path = fields.map (·.name) := by
    rw [hpath, names_intercalate hne hsteps]
  refine resolve_eq_ok_iff.mpr ⟨fun hclash => ?_, fields, hread ▸ hleads.map_name otherCase, rfl⟩
  -- The path to an entity itself has one step, so one field of the type would have its name.
  rw [hclash] at hread
  have hone : fields.map (·.name) = [SortKey.pathToSelf] := hread.symm.trans (by decide)
  obtain ⟨field, rfl, hname⟩ := List.map_eq_singleton_iff.mp hone
  obtain ⟨name, hfield⟩ := hleads.of_singleton
  exact hnames field (Model.mem_fields_of_fieldInCase? hfield) hname

end EntityQuery.SortPath
