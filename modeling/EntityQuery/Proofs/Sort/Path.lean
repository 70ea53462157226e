import EntityQuery.Proofs.Model
import EntityQuery.Proofs.Predicate.Typing
import EntityQuery.Sort.Entity

namespace EntityQuery

variable {schema : Schema} {model : Model} {access found : Access} {ignoreCase guardsTree : Bool}
  {path : String} {fields : List Field}

namespace SortPath

theorem names_ne_nil (path : String) : names path ≠ [] := by
  simp [names, List.splitOn_ne_nil]

section

variable {unknown notSortable : Fault} {name next : String} {rest : List String}

theorem follow_last_eq_ok_iff :
    follow schema ignoreCase guardsTree unknown notSortable model access [name] = .ok found ↔
      ∃ field, model.fieldInCase? name ignoreCase = some field ∧ field.sortable = true ∧
        field.kind.isScalar = true ∧ found = access.member field.name false := by
  rw [follow]
  cases model.fieldInCase? name ignoreCase with
  | none => simp
  | some field =>
    cases hsortable : field.sortable <;> cases hscalar : field.kind.isScalar <;>
      simp [hsortable, hscalar, eq_comm (a := found)]

theorem follow_step_eq_ok_iff :
    follow schema ignoreCase guardsTree unknown notSortable model access (name :: next :: rest) =
        .ok found ↔
      ∃ hop target, model.fieldInCase? name ignoreCase = some hop ∧ hop.sortable = true ∧
        hop.kind = .navigation target ∧
        follow schema ignoreCase guardsTree unknown notSortable (schema.model target)
          (access.member hop.name guardsTree) (next :: rest) = .ok found := by
  rw [follow]
  cases model.fieldInCase? name ignoreCase with
  | none => simp
  | some hop =>
    cases hsortable : hop.sortable <;> cases hkind : hop.kind <;>
      simp [hsortable, hkind, FieldKind.isCollection, FieldKind.target?]

end

/-- Names lead from a type of entities along sortable fields, all but the last of which lead to
    one entity each, to a sortable value. -/
inductive Leads (schema : Schema) (ignoreCase : Bool) : Model → List String → List Field → Prop
  | last {model name field} (hfield : model.fieldInCase? name ignoreCase = some field)
    (hsortable : field.sortable = true) (hscalar : field.kind.isScalar = true) :
    Leads schema ignoreCase model [name] [field]
  | step {model name hop target names fields}
    (hhop : model.fieldInCase? name ignoreCase = some hop) (hsortable : hop.sortable = true)
    (hkind : hop.kind = .navigation target)
    (hrest : Leads schema ignoreCase (schema.model target) names fields) :
    Leads schema ignoreCase model (name :: names) (hop :: fields)

/-- The steps through some fields. What is read last is never checked. -/
def steps (guardsTree : Bool) : List Field → List Segment
  | [] => []
  | [field] => [⟨field.name, false⟩]
  | hop :: next :: rest => ⟨hop.name, guardsTree⟩ :: steps guardsTree (next :: rest)

theorem steps_cons (hop : Field) (hne : fields ≠ []) :
    steps guardsTree (hop :: fields) = ⟨hop.name, guardsTree⟩ :: steps guardsTree fields := by
  cases fields with
  | nil => exact absurd rfl hne
  | cons next rest => rfl

theorem map_name_steps (guardsTree : Bool) (fields : List Field) :
    (steps guardsTree fields).map (·.name) = fields.map (·.name) := by
  fun_induction steps guardsTree fields with
  | case1 => rfl
  | case2 => rfl
  | case3 hop next rest ih =>
    rw [List.map_cons, ih]
    rfl

theorem Leads.ne_nil {names : List String} (h : Leads schema ignoreCase model names fields) :
    fields ≠ [] := by
  cases h <;> exact List.cons_ne_nil _ _

theorem Leads.of_singleton {names : List String} {field : Field}
    (h : Leads schema ignoreCase model names [field]) :
    ∃ name, model.fieldInCase? name ignoreCase = some field := by
  cases h with
  | last hfield _ _ => exact ⟨_, hfield⟩
  | step _ _ _ hrest => exact absurd rfl hrest.ne_nil

/-- A field with a value can be sorted by under its own name, whether or not letter case is told
    apart, unless the name would be cut into a path. -/
theorem leads_name (schema : Schema) {property : String} {field : Field}
    (hfield : model.field? property = some field) (hsortable : field.sortable = true)
    (hscalar : field.kind.isScalar = true) (hname : names field.name = [field.name])
    (ignoreCase : Bool) : Leads schema ignoreCase model (names field.name) [field] := by
  have hfound : model.fieldInCase? property true = some field := hfield
  rw [hname]
  exact .last (Model.fieldInCase?_name hfound ignoreCase) hsortable hscalar

theorem follow_eq_ok_iff {unknown notSortable : Fault} {names : List String} (hnames : names ≠ []) :
    follow schema ignoreCase guardsTree unknown notSortable model access names = .ok found ↔
      ∃ fields, Leads schema ignoreCase model names fields ∧
        found = ⟨access.segments ++ steps guardsTree fields⟩ := by
  induction names generalizing model access with
  | nil => exact absurd rfl hnames
  | cons name tail ih =>
    cases tail with
    | nil =>
      rw [follow_last_eq_ok_iff]
      constructor
      · rintro ⟨field, hfield, hsortable, hscalar, rfl⟩
        exact ⟨[field], .last hfield hsortable hscalar, rfl⟩
      · rintro ⟨fields, hleads, rfl⟩
        cases hleads with
        | last hfield hsortable hscalar => exact ⟨_, hfield, hsortable, hscalar, rfl⟩
        | step _ _ _ hrest => cases hrest
    | cons next tail =>
      rw [follow_step_eq_ok_iff]
      constructor
      · rintro ⟨hop, target, hhop, hsortable, hkind, hfollow⟩
        obtain ⟨fields, hleads, rfl⟩ := (ih (List.cons_ne_nil _ _)).mp hfollow
        refine ⟨hop :: fields, .step hhop hsortable hkind hleads, ?_⟩
        simp [Access.member, steps_cons hop hleads.ne_nil]
      · rintro ⟨fields, hleads, rfl⟩
        cases hleads with
        | @step _ _ hop target _ fields hhop hsortable hkind hrest =>
          refine ⟨hop, target, hhop, hsortable, hkind, (ih (List.cons_ne_nil _ _)).mpr ?_⟩
          refine ⟨fields, hrest, ?_⟩
          simp [Access.member, steps_cons hop hrest.ne_nil]

theorem resolve_eq_ok_iff :
    resolve schema model path ignoreCase guardsTree = .ok access ↔
      path ≠ SortKey.pathToSelf ∧ ∃ fields, Leads schema ignoreCase model (names path) fields ∧
        access = ⟨steps guardsTree fields⟩ := by
  unfold resolve
  by_cases hself : path = SortKey.pathToSelf
  · simp [hself]
  · have hother : (path == SortKey.pathToSelf) = false := beq_eq_false_iff_ne.mpr hself
    rw [hother, if_neg Bool.false_ne_true, follow_eq_ok_iff (names_ne_nil path)]
    exact ⟨fun h => ⟨hself, h⟩, fun h => h.2⟩

/-- Fields that names lead along are reached by the steps through them. -/
private theorem Leads.reaches {names : List String}
    (h : Leads schema ignoreCase model names fields) (guardsTree : Bool) :
    ∃ field, Access.Reaches schema (·.sortable) model ⟨steps guardsTree fields⟩ field ∧
      field.kind.isScalar = true := by
  induction h with
  | @last model name field hfield hsortable hscalar =>
    exact ⟨field, .last (Model.mem_fields_of_fieldInCase? hfield) hsortable false, hscalar⟩
  | @step model name hop target names fields hhop hsortable hkind hrest ih =>
    obtain ⟨field, hreaches, hscalar⟩ := ih
    have hmem := Model.mem_fields_of_fieldInCase? hhop
    rw [steps_cons hop hrest.ne_nil]
    exact ⟨field, .step hmem hsortable hkind guardsTree hreaches, hscalar⟩

/-- A path to sort by leads along sortable fields to one that holds a value. -/
theorem resolve_reaches
    (hresolve : resolve schema model path ignoreCase guardsTree = .ok access) :
    ∃ field, access.Reaches schema (·.sortable) model field ∧ field.kind.isScalar = true := by
  obtain ⟨-, fields, hleads, rfl⟩ := resolve_eq_ok_iff.mp hresolve
  exact hleads.reaches guardsTree

end SortPath

/-- The keys of a compiled sort lead along sortable fields to values. -/
theorem EntitySort.compileWith_reaches {sort : EntitySort model} {settings : SortSettings}
    {compiled : CompiledSort} (hcompiled : sort.compileWith schema settings = .ok compiled) :
    ∀ key ∈ compiled.keys, ∃ field, key.1.Reaches schema (·.sortable) model field ∧
      field.kind.isScalar = true := by
  obtain ⟨keys, hkeys, hcompiled⟩ := bind_eq_ok_iff.mp hcompiled
  cases hcompiled
  intro key hkey
  obtain ⟨stored, _, hstored⟩ := exists_of_forall₂_mem (mapM_eq_ok_iff.mp hkeys) hkey
  obtain ⟨access, haccess, hentry⟩ := bind_eq_ok_iff.mp hstored
  cases hentry
  exact SortPath.resolve_reaches haccess

end EntityQuery
