import EntityQuery.Proofs.Filter.Pruned
import EntityQuery.Proofs.Filter.Reordered

namespace EntityQuery

/-- Value filters are refused with the fault of the first one, if it has one. -/
theorem PropertyContext.propertyCondition_cons_of_error {context : PropertyContext}
    {filter : ValueFilter} {fault : Fault} (hfault : context.filterCondition filter = .error fault)
    (rest : List ValueFilter) : context.propertyCondition (filter :: rest) = .error fault := by
  rw [propertyCondition_eq, List.mapM_cons, groupedCondition, hfault]
  rfl

namespace FilterTree

variable {schema : Schema} {model : Model} {settings : FilterSettings} {tree : FilterTree}

/-- A property filter is refused if its first value filter is refused for other reasons than its
    data. -/
private theorem buildProperty_ne_ok {property : String} {field : Field} {value : ValueFilter}
    {rest : List ValueFilter} {fault : Fault}
    (hfield : filterableField model property = .ok field)
    (hfault : (PropertyContext.ofField model field settings).filterCondition value = .error fault)
    (hdata : fault.isDataFault = false) (condition : Predicate) :
    buildProperty model settings none ⟨property, value :: rest⟩ ≠ .ok condition := by
  have hrefused := PropertyContext.propertyCondition_cons_of_error hfault rest
  rw [Ne, buildProperty_eq_ok_iff_or_passedOver]
  rintro ⟨other, hother, hcondition⟩
  cases hfield.symm.trans hother
  rw [hrefused] at hcondition
  rcases hcondition with hcondition | ⟨-, -, _, hsame, hpassed⟩
  · cases hcondition
  · cases hsame
    exact Bool.false_ne_true (hdata.symm.trans hpassed)

/-- Where reasons are mixed, some order of the values has a refused one in front. -/
theorem Mixes.exists_refused (hmixes : Mixes schema model settings tree)
    (hplain : tree.WithoutInterceptors) :
    ∃ other, tree.Reordered other ∧
      ¬ ∃ changed, build schema model settings none other = .ok changed := by
  induction hmixes with
  | @here model settings tree filter field _ hfilter hfield hmixes =>
    obtain ⟨properties, nested, own, rule⟩ := tree
    obtain ⟨property, values⟩ := filter
    obtain ⟨-, value, hvalue, fault, hfault, hdata⟩ := hmixes
    obtain ⟨before, after, rfl⟩ := List.append_of_mem hfilter
    obtain ⟨first, others, rfl⟩ := List.append_of_mem hvalue
    have h := @Reordered.values before after property _ _ nested own rule
      (@List.perm_middle _ value first others)
    refine ⟨_, h, fun hbuilt => ?_⟩
    have hproperties := ((exists_build_iff (h.interceptor_eq ▸ hplain.here)).mp hbuilt).1
    obtain ⟨condition, hcondition⟩ :=
      hproperties _ (List.mem_append_right before List.mem_cons_self)
    exact buildProperty_ne_ok hfield hfault hdata condition hcondition
  | @inside model settings tree entry field target hentry hfield _ ih =>
    obtain ⟨moved, hmoved, hrefused⟩ := ih (hplain.inside entry hentry)
    obtain ⟨properties, nested, own, rule⟩ := tree
    obtain ⟨property, inner⟩ := entry
    obtain ⟨before, after, rfl⟩ := List.append_of_mem hentry
    have h := @Reordered.inside properties before after property _ _ own rule hmoved
    refine ⟨_, h, fun hbuilt => hrefused ?_⟩
    have hnested := ((exists_build_iff (h.interceptor_eq ▸ hplain.here)).mp hbuilt).2
    obtain ⟨field', target', hfield', hinner⟩ :=
      exists_buildEntry_iff.mp (hnested _ (List.mem_append_right before List.mem_cons_self))
    cases hfield.symm.trans hfield'
    rwa [← hmoved.settings_eq] at hinner

/-- Under lenient settings the order of values makes no difference unless the reasons to refuse them
    are mixed. A filter that can be built can then be built in every order, and one that mixes them
    cannot be built in some other order. Wherever a filter can be built in two orders, it gives all
    entities the same verdicts in both. -/
theorem builds_reordered_iff_not_mixes (hplain : tree.WithoutInterceptors) :
    (¬ tree.Mixes schema model settings → ∀ other, tree.Reordered other →
      ((∃ predicate, build schema model settings none tree = .ok predicate) ↔
        ∃ changed, build schema model settings none other = .ok changed)) ∧
    ((∃ predicate, build schema model settings none tree = .ok predicate) →
      ((∀ other, tree.Reordered other →
          ∃ changed, build schema model settings none other = .ok changed) ↔
        ¬ tree.Mixes schema model settings)) ∧
    ∀ other predicate changed, tree.Reordered other →
      build schema model settings none tree = .ok predicate →
      build schema model settings none other = .ok changed →
      ∀ entity, Conforms schema model entity → ∃ verdict,
        predicate.evaluate true entity = .ok verdict ∧
        changed.evaluate true entity = .ok verdict := by
  refine ⟨fun hmixes other h => ⟨?_, ?_⟩, fun hbuilt => ⟨?_, ?_⟩, ?_⟩
  · exact exists_build_reordered hplain hmixes h
  · have hmixes' : ¬ other.Mixes schema model settings :=
      fun hother => hmixes (hother.reordered h.symm)
    exact exists_build_reordered (h.withoutInterceptors hplain) hmixes' h.symm
  · intro hall hmixes
    obtain ⟨other, h, hrefused⟩ := hmixes.exists_refused hplain
    exact hrefused (hall other h)
  · exact fun hmixes other h => exists_build_reordered hplain hmixes h hbuilt
  · intro other predicate changed h hbuilt hother entity hconforms
    have hlike := (interchangeable_build hplain h hbuilt hother).of_relaxed
    obtain ⟨verdict, hverdict⟩ := hlike.sound.evaluates hconforms
    exact ⟨verdict, hverdict, hlike.evaluate_eq hconforms ▸ hverdict⟩

end FilterTree

namespace Ships

/-- Settings under which values that cannot be read are passed over. -/
def lenient : FilterSettings := { Teams.settings .never with ignoreParseExceptions := true }

def old : ValueFilter := .create .default "old"

def containing : ValueFilter := .create .contains "5"

def aged (values : List ValueFilter) : FilterTree := asking [⟨"Age", values⟩] []

def over60 : ValueFilter := .create .greaterThan "60"

def ann : Entity := .ofProperties [("Name", .text "Ann"), ("Age", .int 30)]

theorem ann_conforms : Conforms schema sailor ann := by
  refine .intro fun field hfield => ?_
  rcases List.mem_pair.mp hfield with rfl | rfl
  · exact .value (.text "Ann")
  · exact .value (.int 30)

theorem reordered_aged {values others : List ValueFilter} (h : values.Perm others) :
    (aged values).Reordered (aged others) := by
  have hreordered := @FilterTree.Reordered.values [] [] "Age" _ _ [] none none h
  exact hreordered

end Ships

namespace FilterTree

/-- Two ages of which one cannot be read are passed over in both orders, and so is one that is
    followed by an operator that ages do not take. With that operator in front the filter is
    refused. -/
theorem builds_reordered_iff_not_mixes_aged :
    (∃ changed, build Ships.schema Ships.sailor Ships.lenient none
        (Ships.aged [Ships.over60, Ships.old]) = .ok changed ∧
      changed.evaluate true Ships.ann = .ok true) ∧
    (Ships.aged [Ships.old, Ships.containing]).Mixes Ships.schema Ships.sailor Ships.lenient ∧
    ∃ other, (Ships.aged [Ships.old, Ships.containing]).Reordered other ∧
      ¬ ∃ changed, build Ships.schema Ships.sailor Ships.lenient none other = .ok changed := by
  have hplain (values : List ValueFilter) : (Ships.aged values).WithoutInterceptors :=
    .intro rfl nofun
  refine ⟨?_, ?_⟩
  · obtain ⟨hunmixed, -, hverdicts⟩ := @builds_reordered_iff_not_mixes Ships.schema Ships.sailor
      Ships.lenient _ (hplain [Ships.old, Ships.over60])
    have hmoved := Ships.reordered_aged (.swap Ships.over60 Ships.old [])
    have hbuilt : build Ships.schema Ships.sailor Ships.lenient none
        (Ships.aged [Ships.old, Ships.over60]) = .ok .everything := rfl
    have hnot : ¬ (Ships.aged [Ships.old, Ships.over60]).Mixes Ships.schema Ships.sailor
        Ships.lenient := by
      rintro (⟨-, hfilter, hfield, -, value, hvalue, fault, hfault, hdata⟩ | ⟨hentry, -, -⟩)
      · cases List.mem_singleton.mp hfilter
        cases hfield
        rcases List.mem_pair.mp hvalue with rfl | rfl
        · cases hfault
          cases hdata
        · cases hfault
      · cases hentry
    obtain ⟨changed, hchanged⟩ := (hunmixed hnot _ hmoved).mp ⟨_, hbuilt⟩
    obtain ⟨verdict, hverdict, hsame⟩ :=
      hverdicts _ _ changed hmoved hbuilt hchanged Ships.ann Ships.ann_conforms
    cases hverdict
    exact ⟨changed, hchanged, hsame⟩
  · obtain ⟨-, hmixed, -⟩ := @builds_reordered_iff_not_mixes Ships.schema Ships.sailor
      Ships.lenient _ (hplain [Ships.old, Ships.containing])
    have hmixes : (Ships.aged [Ships.old, Ships.containing]).Mixes Ships.schema Ships.sailor
        Ships.lenient :=
      .here rfl (List.mem_singleton.mpr rfl) rfl ⟨⟨Ships.old, by decide, _, rfl, rfl⟩,
        Ships.containing, by decide, _, rfl, rfl⟩
    refine ⟨hmixes, ?_⟩
    have hsome := mt (hmixed ⟨_, rfl⟩).mp (not_not_intro hmixes)
    simpa using hsome

/-- An age that cannot be read passes over an operator that ages do not take, but only if it comes
    before it. -/
theorem order_matters_aged :
    Ships.lenient.ignoreParseExceptions = true ∧
    (Ships.aged [Ships.old, Ships.containing]).WithoutInterceptors ∧
    (Ships.aged [Ships.old, Ships.containing]).Reordered
      (Ships.aged [Ships.containing, Ships.old]) ∧
    build Ships.schema Ships.sailor Ships.lenient none
      (Ships.aged [Ships.old, Ships.containing]) = .ok .everything ∧
    ∃ fault, build Ships.schema Ships.sailor Ships.lenient none
      (Ships.aged [Ships.containing, Ships.old]) = .error fault ∧
      fault.code = .unsupportedOperator :=
  ⟨rfl, .intro rfl nofun, Ships.reordered_aged (.swap _ _ []), rfl, _, rfl, rfl⟩

end FilterTree

end EntityQuery
