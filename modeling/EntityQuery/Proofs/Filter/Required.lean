import EntityQuery.Proofs.Filter.Folding
import EntityQuery.Proofs.Filter.Typing

namespace EntityQuery

namespace FilterTree

variable {schema : Schema} {model : Model} {settings : FilterSettings} {entity : Entity}

/-- A filter within that asks for something requires an entity to ask it of. Where a filter
    accepts an entity, each filter within whose field is a navigation leads to an entity that
    meets it, and each on a collection is met by one of its elements, unless the filter within
    asks for nothing. One that asks for nothing is left out, even if the navigation is null or the
    collection has no elements. -/
theorem leadsTo_of_accepts {tree : FilterTree} {predicate : Predicate}
    (hplain : tree.WithoutInterceptors)
    (hcareful : SettingsEverywhere FilterSettings.Careful settings tree)
    (hconforms : Conforms schema model entity)
    (hbuilt : build schema model settings none tree = .ok predicate)
    (haccepts : predicate.Accepts true entity) :
    ∀ entry ∈ tree.nested, ∃ field target inner,
      model.field? entry.1 = some field ∧ field.kind.target? = some target ∧
      build schema (schema.model target) (entry.2.settings.getD settings) none entry.2 =
        .ok inner ∧
      (AsksNothing schema (schema.model target) entry.2 →
        buildEntry schema model settings none entry = .ok []) ∧
      (¬ AsksNothing schema (schema.model target) entry.2 →
        field.LeadsTo (fun related => inner.Accepts true related) entity) := by
  intro entry hentry
  obtain ⟨conditions, inner, -, hinner, rfl⟩ := (build_eq_ok_iff hplain.here).mp hbuilt
  obtain ⟨parts, hparts, hentryBuilt⟩ := exists_of_forall₂_mem hinner.flip hentry
  obtain ⟨field, target, inside, hfield, hinside, hadded⟩ := buildEntry_eq_ok_iff.mp hentryBuilt
  obtain ⟨hfound, htarget⟩ := navigableField_eq_ok_iff.mp hfield
  replace hfound := (filterableField_eq_ok_iff.mp hfound).1
  have heverything := build_eq_everything_iff (hplain.inside entry hentry)
    (hcareful.inside hentry) hinside
  refine ⟨field, target, inside, hfound, htarget, hinside, ?_⟩
  rw [← heverything]
  rcases hadded with ⟨hall, rfl⟩ | ⟨hne, rfl⟩
  · exact ⟨fun _ => hentryBuilt, fun hne => absurd hall hne⟩
  · refine ⟨fun hall => absurd hall hne, fun _ => ?_⟩
    have hdecides : (attach field settings inside).Decides
        (field.LeadsTo fun related => inside.Accepts true related) entity :=
      attach_decides htarget (hconforms.fits (Model.mem_fields_of_field? hfound))
        hcareful.1.guards fun related hrelated =>
          ⟨(build_typed (hplain.inside entry hentry) hinside).evaluates hrelated, .rfl⟩
    apply hdecides.2.mp
    refine Predicate.accepts_allOf_iff.mp haccepts _ (List.mem_append_right _ ?_)
    exact List.mem_flatten.mpr ⟨_, hparts, List.mem_singleton_self _⟩

private theorem not_asksNothing_named (name : String) :
    ¬ AsksNothing Teams.schema Teams.person (Teams.named name) := by
  intro hasks
  have hmet := (asksNothing_iff.mp hasks).1 _ (List.mem_singleton_self _) _ rfl
  simp [Field.MetInAdvance] at hmet

/-- Bob is asked for among the members, so that there have to be some. -/
theorem leadsTo_of_accepts_led : ∃ member members,
    Teams.led.get "Members" = .list (member :: members) := by
  have hcareful : SettingsEverywhere FilterSettings.Careful (Teams.settings .whenCompiled)
      Teams.tree := ⟨⟨rfl, rfl⟩, Teams.nested_everywhere fun _ _ hown => nomatch hown⟩
  obtain ⟨field, target, inner, hfield, htarget, -, -, hleads⟩ :=
    leadsTo_of_accepts Teams.withoutInterceptors hcareful led_conforms rfl rfl
      ("Members", Teams.named "Bob") (by simp [Teams.tree])
  cases hfield
  cases htarget
  obtain ⟨items, hitems, item, hitem, -⟩ := hleads (not_asksNothing_named "Bob")
  cases hitems
  exact ⟨_, _, rfl⟩

end FilterTree

namespace Teams

/-- People who have a name, which all people do. -/
def present : FilterTree := ⟨[⟨"Name", [.notNull]⟩], [], none, none⟩

/-- Teams whose lead has a name and of whose members one has a name. -/
def peopled : FilterTree := ⟨[], [("Lead", present), ("Members", present)], none, none⟩

def deserted : Entity := .ofProperties [("Lead", .null), ("Members", .list [])]

theorem peopled_everywhere {P : FilterTree → Prop} (h : P present) :
    ∀ entry ∈ peopled.nested, entry.2.Everywhere P := by
  simp only [peopled, List.forall_mem_cons]
  exact ⟨.intro h nofun, .intro h nofun, nofun⟩

theorem deserted_conforms : Conforms schema team deserted := by
  refine .intro fun field hfield => ?_
  rcases List.mem_pair.mp hfield with rfl | rfl
  · exact .null rfl
  · exact .value (.collection nofun)

end Teams

/-- A team without a lead and without members is accepted, although both filters within are not
    empty: what they ask for is met in advance, and so they are left out. -/
theorem FilterTree.accepts_deserted :
    Teams.peopled.WithoutInterceptors ∧
    SettingsEverywhere FilterSettings.Careful (Teams.settings .whenCompiled) Teams.peopled ∧
    Conforms Teams.schema Teams.team Teams.deserted ∧
    (∀ entry ∈ Teams.peopled.nested, entry.2.isEmpty = false) ∧
    (∃ predicate, build Teams.schema Teams.team (Teams.settings .whenCompiled) none
      Teams.peopled = .ok predicate ∧ predicate.Accepts true Teams.deserted) ∧
    Teams.deserted.get "Lead" = .null ∧ Teams.deserted.get "Members" = .list [] := by
  refine ⟨.intro rfl (Teams.peopled_everywhere rfl), ?_, Teams.deserted_conforms, ?_,
    ⟨_, rfl, rfl⟩, rfl, rfl⟩
  · exact ⟨⟨rfl, rfl⟩, Teams.peopled_everywhere fun _ hown => nomatch hown⟩
  · simp only [Teams.peopled, List.forall_mem_cons]
    exact ⟨rfl, rfl, nofun⟩

end EntityQuery
