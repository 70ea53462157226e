import EntityQuery.Filter.Entity
import EntityQuery.Proofs.Condition.Inequality
import EntityQuery.Proofs.Filter.Build
import EntityQuery.Proofs.Sort.Accepted
import EntityQuery.Proofs.Sort.Selection

namespace EntityQuery

open StableSort (ComparesOn)

namespace Comparison

/-- Two comparisons of which one accepts what comes before a constant and the other what comes
    after it. One of them accepts the constant itself as well. -/
inductive Divide : Comparison → Comparison → Prop
  | less : Divide .less .greaterOrEqual
  | lessOrEqual : Divide .lessOrEqual .greater

variable {lower upper : Comparison} {value : Scalar} {actual : Value}

namespace Divide

theorem accepts_upper (h : Divide lower upper) (ordering : Ordering) :
    upper.accepts (some ordering) = !lower.accepts (some ordering) := by
  cases h <;> cases ordering <;> rfl

/-- What comes before an element that is accepted from below is accepted from below. -/
theorem accepts_of_isLE {α : Type} {related : α → α → Prop} {cmp : α → α → Ordering}
    (h : Divide lower upper) (hcmp : ComparesOn related cmp)
    (hsymm : ∀ {x y}, related x y → related y x) {a b c : α} (hab : related a b)
    (hbc : related b c) (hac : related a c) (hle : (cmp a b).isLE = true)
    (haccepts : lower.accepts (some (cmp b c)) = true) :
    lower.accepts (some (cmp a c)) = true := by
  have hbound : (cmp b c).isLE = true := by
    cases h <;> cases hends : cmp b c <;> simp_all [accepts]
  have htrans := hcmp.trans hab hbc hac hle hbound
  cases hends : cmp a c with
  | lt => cases h <;> rfl
  | eq =>
    -- If the outer two tie, then the one between them ties with both.
    rwa [(hcmp.eq_of_eq hsymm hab hbc hac hle hbound hends).2] at haccepts
  | gt => simp [hends] at htrans

/-- Null is on neither side. -/
theorem holds_null (h : Divide lower upper) (hvalue : value.isNull = false)
    (hactual : actual.isNull = true) :
    lower.holds actual value = false ∧ upper.holds actual value = false := by
  cases actual with
  | null =>
    rw [Comparison.holds_null lower hvalue, Comparison.holds_null upper hvalue]
    cases h <;> exact ⟨rfl, rfl⟩
  | _ => cases hactual

/-- What is comparable but not on one side is on the other. -/
theorem holds_upper (h : Divide lower upper) (hvalue : value.isNull = false)
    (hcomparable : actual.isNull = false →
      ∃ ordering, actual.compareScalar? value = some ordering) :
    upper.holds actual value = (!actual.isNull && !lower.holds actual value) := by
  cases hactual : actual.isNull with
  | true => exact (h.holds_null hvalue hactual).2
  | false =>
    obtain ⟨ordering, hordering⟩ := hcomparable hactual
    rw [upper.holds_eq_accepts hactual hvalue, lower.holds_eq_accepts hactual hvalue, hordering,
      h.accepts_upper]
    rfl

end Divide

end Comparison

theorem Value.isNull_of_isLE {a b : Value} (hle : (sortCompare a b).isLE = true)
    (hb : b.isNull = true) : a.isNull = true := by
  cases b with
  | null =>
    cases a with
    | null => rfl
    | _ => cases hle
  | _ => cases hb

theorem Fits.hasKind {schema : Schema} {field : Field} {value : Value}
    (h : Fits schema field value) (hnull : value.isNull = false) :
    HasKind schema field.kind value := by
  cases h with
  | null _ => cases hnull
  | value hkind => exact hkind

/-- A constant has a place among the values of a kind, where filters and sort keys agree on what
    comes before it. -/
structure Scalar.IsPlaced (schema : Schema) (kind : FieldKind) (constant : Scalar) (place : Value) :
    Prop where
  isNull : constant.isNull = false
  sameKind : ∀ actual, HasKind schema kind actual → Value.SameKind actual place
  compareScalar? : ∀ actual, HasKind schema kind actual →
    actual.compareScalar? constant = some (actual.sortCompare place)

theorem PropertyContext.exists_isPlaced {context : PropertyContext} {literal : String}
    {constant : Scalar} (hkind : context.field.kind = .int ∨ context.field.kind = .dateTime)
    (hconstant : context.orderConstant? literal = some constant) (schema : Schema) :
    ∃ place, constant.IsPlaced schema context.field.kind place := by
  have hnull := isNull_orderConstant? hconstant
  unfold orderConstant? readNumber? at hconstant
  generalize context.field.kind = kind at hkind hconstant
  rcases hkind with rfl | rfl
  · obtain ⟨number, -, rfl⟩ := Option.map_eq_some_iff.mp hconstant
    refine ⟨.int number, hnull, fun actual hactual => ?_, fun actual hactual => ?_⟩
    · cases hactual with
      | int value => exact .int value number
    · cases hactual with
      | int value => rfl
  · obtain ⟨span, -, rfl⟩ := Option.map_eq_some_iff.mp hconstant
    refine ⟨.dateTime span.start, hnull, fun actual hactual => ?_, fun actual hactual => ?_⟩
    · cases hactual with
      | dateTime value => exact .dateTime value span.start
    · cases hactual with
      | dateTime value => rfl

namespace Scalar.IsPlaced

variable {schema : Schema} {field : Field} {constant : Scalar} {place a b : Value}
  {lower upper : Comparison}

/-- A value that fits the field and is not null is on one side of the constant. -/
theorem holds_upper (h : constant.IsPlaced schema field.kind place)
    (hdivide : lower.Divide upper) (ha : Fits schema field a) :
    upper.holds a constant = (!a.isNull && !lower.holds a constant) :=
  hdivide.holds_upper h.isNull fun hnull => ⟨_, h.compareScalar? a (ha.hasKind hnull)⟩

/-- What sort keys put before a value that is accepted from below is null or accepted from
    below. -/
theorem holds_lower_of_isLE (h : constant.IsPlaced schema field.kind place)
    (hdivide : lower.Divide upper) (hscalar : field.kind.isScalar = true)
    (ha : Fits schema field a) (hb : Fits schema field b) (hle : (a.sortCompare b).isLE = true)
    (hnull : a.isNull = false) (hholds : lower.holds b constant = true) :
    lower.holds a constant = true := by
  have hnull' : b.isNull = false := by
    cases hb : b.isNull with
    | false => rfl
    | true => exact (Value.isNull_of_isLE hle hb).symm.trans hnull
  have ha' := ha.hasKind hnull
  have hb' := hb.hasKind hnull'
  rw [lower.holds_eq_accepts hnull' h.isNull, h.compareScalar? b hb'] at hholds
  rw [lower.holds_eq_accepts hnull h.isNull, h.compareScalar? a ha']
  exact hdivide.accepts_of_isLE Value.comparesOn_sortCompare Value.SameKind.symm
    (.of_fits (.inr ha) (.inr hb) hscalar) (h.sameKind b hb') (h.sameKind a ha') hle hholds

end Scalar.IsPlaced

section

variable {α : Type} {xs : List α}

/-- If what is kept comes before what is not, then it is the first part of a list. -/
theorem filter_append_filter_not {keep : α → Bool}
    (h : xs.Pairwise fun x y => keep y = true → keep x = true) :
    xs.filter keep ++ xs.filter (fun x => !keep x) = xs := by
  induction xs with
  | nil => rfl
  | cons x rest ih =>
    obtain ⟨hx, hrest⟩ := List.pairwise_cons.mp h
    cases hkeep : keep x with
    | true => simp [hkeep, ih hrest]
    | false =>
      -- Then nothing in the rest is kept either.
      have hnone : ∀ y ∈ x :: rest, keep y = false := by
        refine List.forall_mem_cons.mpr ⟨hkeep, fun y hy => ?_⟩
        exact Bool.eq_false_iff.mpr fun hkept => by simp [hx y hy hkept] at hkeep
      rw [List.filter_eq_nil_iff.mpr fun y hy => by simp [hnone y hy],
        List.filter_eq_self.mpr fun y hy => by simp [hnone y hy], List.nil_append]

/-- Three kinds of elements, of which those of an earlier kind come first. -/
structure Layered (cmp : α → α → Ordering) (missing lower upper : α → Bool) (xs : List α) :
    Prop where
  missing_first : ∀ x ∈ xs, ∀ y ∈ xs, (cmp x y).isLE = true → missing y = true → missing x = true
  lower_first : ∀ x ∈ xs, ∀ y ∈ xs, (cmp x y).isLE = true → missing x = false → lower y = true →
    lower x = true
  disjoint : ∀ x ∈ xs, missing x = true → lower x = false
  upper_eq : ∀ x ∈ xs, upper x = (!missing x && !lower x)

variable {cmp : α → α → Ordering} {missing lower upper : α → Bool}

theorem Layered.reverse (h : Layered cmp missing lower upper xs) :
    Layered cmp missing lower upper xs.reverse := by
  constructor <;> simp only [List.mem_reverse]
  · exact h.missing_first
  · exact h.lower_first
  · exact h.disjoint
  · exact h.upper_eq

/-- A sorted list is that of its elements of the first kind, then those of the second, and then
    those of the third. -/
theorem Layered.append_filter (h : Layered cmp missing lower upper xs)
    (hsorted : xs.Pairwise fun x y => (cmp x y).isLE = true) :
    xs.filter missing ++ xs.filter lower ++ xs.filter upper = xs := by
  have hfirst : xs.Pairwise fun x y => missing y = true → missing x = true :=
    hsorted.imp_of_mem fun {x y} hx hy => h.missing_first x hx y hy
  have hsecond : (xs.filter fun x => !missing x).Pairwise fun x y => lower y = true →
      lower x = true := by
    refine (hsorted.filter _).imp_of_mem fun {x y} hx hy hle => ?_
    obtain ⟨hx, hpresent⟩ := List.mem_filter.mp hx
    exact h.lower_first x hx y (List.mem_of_mem_filter hy) hle (by simpa using hpresent)
  have hlower : (xs.filter fun x => lower x && !missing x) = xs.filter lower := by
    refine List.filter_congr fun x hx => ?_
    cases hmissing : missing x with
    | true => simp [h.disjoint x hx hmissing]
    | false => simp
  have hupper : (xs.filter fun x => !lower x && !missing x) = xs.filter upper :=
    List.filter_congr fun x hx => by rw [h.upper_eq x hx, Bool.and_comm]
  calc xs.filter missing ++ xs.filter lower ++ xs.filter upper
      = xs.filter missing ++ ((xs.filter fun x => !missing x).filter lower ++
          (xs.filter fun x => !missing x).filter fun x => !lower x) := by
        rw [List.filter_filter, List.filter_filter, hlower, hupper, List.append_assoc]
    _ = xs.filter missing ++ xs.filter fun x => !missing x := by
        rw [filter_append_filter_not hsecond]
    _ = xs := filter_append_filter_not hfirst

/-- Three blocks of a list, from the first to the last or the other way round. -/
def SortDirection.join (direction : SortDirection) (first second third : List α) : List α :=
  match direction with
  | ascending => first ++ second ++ third
  | descending => third ++ second ++ first

theorem Layered.join_filter (h : Layered cmp missing lower upper xs) {direction : SortDirection}
    (hsorted : xs.Pairwise fun x y => (direction.orient cmp x y).isLE = true) :
    direction.join (xs.filter missing) (xs.filter lower) (xs.filter upper) = xs := by
  cases direction with
  | ascending => exact h.append_filter hsorted
  | descending =>
    have hblocks := h.reverse.append_filter (List.pairwise_reverse.mpr hsorted)
    simp only [List.filter_reverse, ← List.reverse_append] at hblocks
    rw [List.reverse_inj] at hblocks
    rw [SortDirection.join, List.append_assoc]
    exact hblocks

end

namespace CompiledSort

variable {α : Type} [AsEntity α] {items : List α} {schema : Schema} {model : Model} {field : Field}

/-- Entities are sorted by a field of theirs that holds a value, whether or not paths are checked
    for missing entities. -/
theorem exists_sorted_by_field (hfield : field ∈ model.fields)
    (hscalar : field.kind.isScalar = true)
    (hconforms : ∀ item ∈ items, Conforms schema model (entity item)) (direction : SortDirection)
    (guarded : Bool) :
    ∃ arranged,
      CompiledSort.sorted ⟨[(Access.root.member field.name false, direction)], guarded⟩ items =
        .ok arranged ∧
      arranged.Perm items ∧
      arranged.Pairwise fun x y => (direction.orient (fun x y : α =>
        ((entity x).get field.name).sortCompare ((entity y).get field.name)) x y).isLE = true := by
  have hrelated : ∀ x ∈ items, ∀ y ∈ items,
      Value.SameKind ((entity x).get field.name) ((entity y).get field.name) := fun x hx y hy =>
    .of_fits (.inr ((hconforms x hx).fits hfield)) (.inr ((hconforms y hy).fits hfield)) hscalar
  have hsortable : CompiledSort.Sortable
      ⟨[(Access.root.member field.name false, direction)], guarded⟩ items :=
    ⟨fun _ _ => rfl, fun x hx y hy => .cons (hrelated x hx y hy) .nil⟩
  have hbefore : (CompiledSort.before
      ⟨[(Access.root.member field.name false, direction)], guarded⟩ : α → α → Bool) = fun x y =>
        direction.orient Value.sortCompare ((entity x).get field.name)
          ((entity y).get field.name) == .lt := by
    funext x y
    change ((direction.orient Value.sortCompare _ _).then .eq == .lt) = _
    rw [Ordering.then_eq]
  refine ⟨_, hsortable.sorted_eq, StableSort.sort_perm _ items, ?_⟩
  have hany : items.Pairwise fun _ _ => True := List.pairwise_of_forall fun _ _ => trivial
  rw [hbefore]
  refine (StableSort.sort_by_comparison (Value.comparesOn_orient direction) hrelated hany).imp ?_
  intro x y hxy
  have hle : direction.orient Value.sortCompare ((entity x).get field.name)
      ((entity y).get field.name) ≠ .gt := by
    rcases hxy with hlt | ⟨htie, -⟩ <;> simp [*]
  cases direction <;> exact Ordering.isLE_iff_ne_gt.mpr hle

end CompiledSort

/-- A sort by one path has the way that the path leads as its only key. -/
theorem EntitySort.exists_add?_empty {schema : Schema} {model : Model} {path : String}
    {settings : SortSettings} {access : Access} (direction : SortDirection)
    (hresolve : SortPath.resolve schema model path settings.ignorePropertyNameCase
      settings.conditionalAccess.guardsTree = .ok access) :
    ∃ sort, (empty : EntitySort model).add? path direction = some sort ∧
      sort.compileWith schema settings =
        .ok ⟨[(access, direction)], settings.conditionalAccess.guardsEvaluation⟩ := by
  let sort : EntitySort model := ⟨[⟨path, direction, 0⟩], none⟩
  have hkeys : sort.keys = [⟨path, direction, 0⟩] := rfl
  refine ⟨sort, rfl, ?_⟩
  rw [compileWith, hkeys, List.mapM_cons, hresolve]
  rfl

namespace EntityFilter

variable {schema : Schema} {model : Model} {field : Field} {settings : FilterSettings}
  {property literal : String}

/-- A filter on one property has the condition of that property alone. -/
theorem compileWith_add_empty {values : List ValueFilter} {condition : Predicate}
    (hfield : model.field? property = some field) (hfilterable : field.filterable = true)
    (hvalues : values ≠ []) (hcondition :
      (PropertyContext.ofField model field settings).propertyCondition values = .ok condition) :
    ((empty : EntityFilter model).add property values).compileWith schema settings =
      .ok ⟨.allOf [condition], settings.conditionalAccess.guardsEvaluation⟩ := by
  have htree : ((empty : EntityFilter model).add property values).tree =
      ⟨[⟨field.name, values⟩], [], none, none⟩ := by
    rw [add, Model.canonicalName_of_field? hfield, FilterTree.add,
      List.isEmpty_eq_false_iff.mpr hvalues]
    rfl
  have hfound := FilterTree.filterableField_eq_ok_iff.mpr ⟨Model.field?_name hfield, hfilterable⟩
  have hproperty : FilterTree.buildProperty model settings none ⟨field.name, values⟩ =
      .ok condition := by
    rw [FilterTree.buildProperty, hfound]
    change FilterTree.degrade settings
      ((PropertyContext.ofField model field settings).propertyCondition values) = _
    rw [hcondition]
    rfl
  have hbuilt : FilterTree.build schema model settings none
      ⟨[⟨field.name, values⟩], [], none, none⟩ = .ok (.allOf [condition]) :=
    (FilterTree.build_eq_ok_iff rfl).mpr ⟨[condition], [], .cons hproperty .nil, .nil, rfl⟩
  rw [compileWith, htree, hbuilt]
  rfl

/-- A comparison with a text that stands for a number or an instant selects the items whose value
    compares with that as asked. -/
theorem exists_selects_comparison (schema : Schema) {constant : Scalar}
    (hfield : model.field? property = some field) (hfilterable : field.filterable = true)
    (hkind : field.kind = .int ∨ field.kind = .dateTime)
    (hconstant : (PropertyContext.ofField model field settings).orderConstant? literal =
      some constant) (comparison : Comparison) :
    ∃ compiled : CompiledFilter,
      ((empty : EntityFilter model).add property
        [.create comparison.operator literal]).compileWith schema settings = .ok compiled ∧
      ∀ {α : Type} [AsEntity α] (items : List α), compiled.select items =
        .ok (items.filter fun item =>
          comparison.holds ((entity item).get field.name) constant) := by
  obtain ⟨condition, hcondition, htests⟩ :=
    PropertyContext.propertyCondition_ordered hkind hconstant comparison
  refine ⟨_, compileWith_add_empty hfield hfilterable (List.cons_ne_nil _ _) hcondition, ?_⟩
  intro α _ items
  have hverdict (item : α) : CompiledFilter.evaluate
      ⟨.allOf [condition], settings.conditionalAccess.guardsEvaluation⟩ item =
        .ok (comparison.holds ((entity item).get field.name) constant) := by
    rw [CompiledFilter.evaluate, Predicate.evaluate_allOf_singleton]
    exact htests _ _ _ (Access.resolve_member _ _ _ _)
  rw [CompiledFilter.select_eq_filter fun item _ => ⟨_, hverdict item⟩]
  congr 2
  funext item
  rw [CompiledFilter.accepts, hverdict]

end EntityFilter

/-- Filters and sorts put the values of a field into the same order. All items that conform to a
    type can be sorted by a field with numbers or instants, and then every text that stands for a
    number or an instant divides those with a value into two blocks one after the other, of what
    comes before it and what comes after it. The items without a value are in front of both in
    ascending order and behind both in descending order. All settings agree on this. -/
theorem CompiledSort.sorted_divides {α : Type} [AsEntity α] {items : List α} {schema : Schema}
    {model : Model} {field : Field} {property path literal : String} {settings : FilterSettings}
    {sortSettings : SortSettings}
    (hfield : model.field? property = some field) (hfilterable : field.filterable = true)
    (hkind : field.kind = .int ∨ field.kind = .dateTime)
    (hliteral : ((PropertyContext.ofField model field settings).orderConstant? literal).isSome)
    (hself : path ≠ SortKey.pathToSelf)
    (hpath : SortPath.Leads schema sortSettings.ignorePropertyNameCase model
      (SortPath.names path) [field])
    (hconforms : ∀ item ∈ items, Conforms schema model (entity item))
    (direction : SortDirection) :
    ∃ sort order arranged,
      (EntitySort.empty : EntitySort model).add? path direction = some sort ∧
      sort.compileWith schema sortSettings = .ok order ∧
      order.sorted items = .ok arranged ∧ arranged.Perm items ∧
      ∀ lower upper, Comparison.Divide lower upper → ∃ below above : CompiledFilter,
        ((EntityFilter.empty : EntityFilter model).add property
          [.create lower.operator literal]).compileWith schema settings = .ok below ∧
        ((EntityFilter.empty : EntityFilter model).add property
          [.create upper.operator literal]).compileWith schema settings = .ok above ∧
        ∃ missing before after, arranged = direction.join missing before after ∧
          missing = arranged.filter (fun item => ((entity item).get field.name).isNull) ∧
          below.select arranged = .ok before ∧ above.select arranged = .ok after := by
  have hmem := Model.mem_fields_of_field? hfield
  have hscalar : field.kind.isScalar = true := by rcases hkind with h | h <;> rw [h] <;> rfl
  have hresolve : SortPath.resolve schema model path sortSettings.ignorePropertyNameCase
      sortSettings.conditionalAccess.guardsTree = .ok (Access.root.member field.name false) :=
    SortPath.resolve_eq_ok_iff.mpr ⟨hself, [field], hpath, rfl⟩
  obtain ⟨sort, hadded, hcompiled⟩ := EntitySort.exists_add?_empty direction hresolve
  obtain ⟨constant, hconstant⟩ := Option.isSome_iff_exists.mp hliteral
  obtain ⟨place, hplace⟩ := PropertyContext.exists_isPlaced hkind hconstant schema
  obtain ⟨arranged, harranged, hperm, hsorted⟩ := exists_sorted_by_field hmem hscalar hconforms
    direction sortSettings.conditionalAccess.guardsEvaluation
  refine ⟨sort, _, arranged, hadded, hcompiled, harranged, hperm, fun lower upper hdivide => ?_⟩
  obtain ⟨below, hbelow, hbefore⟩ := EntityFilter.exists_selects_comparison schema hfield
    hfilterable hkind hconstant lower
  obtain ⟨above, habove, hafter⟩ := EntityFilter.exists_selects_comparison schema hfield
    hfilterable hkind hconstant upper
  have hfits : ∀ item ∈ arranged, Fits schema field ((entity item).get field.name) :=
    fun item hitem => (hconforms item (hperm.mem_iff.mp hitem)).fits hmem
  refine ⟨below, above, hbelow, habove, _, _, _, Eq.symm ?_, rfl, hbefore arranged,
    hafter arranged⟩
  refine Layered.join_filter ?_ hsorted
  constructor
  · intro x _ y _ hle hnull
    exact Value.isNull_of_isLE hle hnull
  · intro x hx y hy hle hnull hholds
    exact hplace.holds_lower_of_isLE hdivide hscalar (hfits x hx) (hfits y hy) hle hnull hholds
  · intro x _ hnull
    exact (hdivide.holds_null hplace.isNull hnull).1
  · intro x hx
    exact hplace.holds_upper hdivide (hfits x hx)

namespace Scores

def score : Field := { name := "Score", kind := .int, nullable := true }

def game : Model := ⟨"Player", [{ name := "Name", kind := .text }, score]⟩

def schema : Schema := ⟨[game]⟩

theorem player_conforms (name : String) (points : Option Int64) :
    Conforms schema game (player name points) := by
  refine .intro fun field hfield => ?_
  simp only [game, List.mem_cons, List.not_mem_nil, or_false] at hfield
  rcases hfield with rfl | rfl
  · exact .value (.text name)
  · cases points with
    | none => exact .null rfl
    | some points => exact .value (.int points)

end Scores

/-- From high to low, players with at least twenty points come first, those with less come next, and
    the one without points is last. -/
theorem CompiledSort.sorted_divides_scores :
    let settings := Teams.settings .never
    let twenty (operator : Operator) : EntityFilter Scores.game :=
      EntityFilter.empty.add "SCORE" [.create operator " 20"]
    ∃ (fromHighToLow : EntitySort Scores.game) (order : CompiledSort)
      (below above : CompiledFilter) (before after : List Entity),
      EntitySort.empty.add? "Score" .descending = some fromHighToLow ∧
      fromHighToLow.compileWith Scores.schema .builtin = .ok order ∧
      (twenty .lessThan).compileWith Scores.schema settings = .ok below ∧
      (twenty .greaterThanOrEqual).compileWith Scores.schema settings = .ok above ∧
      order.sorted Scores.players = .ok (after ++ before ++ [Scores.player "Dee" none]) ∧
      below.select (after ++ before ++ [Scores.player "Dee" none]) = .ok before ∧
      above.select (after ++ before ++ [Scores.player "Dee" none]) = .ok after := by
  intro settings twenty
  have hfield : Scores.game.field? "SCORE" = some Scores.score := by decide
  have hliteral : ((PropertyContext.ofField Scores.game Scores.score settings).orderConstant?
      " 20").isSome := by decide
  have hself : "Score" ≠ SortKey.pathToSelf := by decide
  have hpath := SortPath.leads_name Scores.schema hfield rfl rfl (by decide)
    SortSettings.builtin.ignorePropertyNameCase
  have hconforms : ∀ player ∈ Scores.players, Conforms Scores.schema Scores.game (entity player) :=
    List.forall_mem_map.mpr fun entry _ => Scores.player_conforms entry.1 entry.2
  obtain ⟨sort, order, arranged, hadded, horder, harranged, -, hdivides⟩ := sorted_divides hfield
    rfl (.inl rfl) hliteral hself hpath hconforms .descending
  obtain ⟨below, above, hbelow, habove, missing, before, after, hjoin, hmissing, hbefore, hafter⟩ :=
    hdivides _ _ .less
  have hdee : missing = [Scores.player "Dee" none] := by
    cases hadded
    cases horder
    cases harranged
    exact hmissing
  have hblocks : arranged = after ++ before ++ [Scores.player "Dee" none] := hdee ▸ hjoin
  rw [hblocks] at harranged hbefore hafter
  exact ⟨sort, order, below, above, before, after, hadded, horder, hbelow, habove, harranged,
    hbefore, hafter⟩

end EntityQuery
