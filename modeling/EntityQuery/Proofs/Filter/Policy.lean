import EntityQuery.Filter.Entity
import EntityQuery.Proofs.Filter.Folding
import EntityQuery.Proofs.Filter.Simulation
import EntityQuery.Proofs.Predicate.Checks

namespace EntityQuery

variable {settings : FilterSettings}

namespace PropertyContext

private theorem admits_checked (model : Model) (field : Field) (settings : FilterSettings) :
    (ofField model field settings).Admits Predicate.Checked where
  toSimplifiable := Predicate.compositional_checked.simplifiable
  comparison _ _ := .comparison (Access.checksWay_member _ _)
  textMatch _ _ _ _ := .textMatch (Access.checksWay_member _ _)
  isNull := .isNull (Access.checksWay_member _ _)
  notNull := .notNull (Access.checksWay_member _ _)

private theorem admits_withoutChecks_eq (model : Model) (field : Field)
    (settings : FilterSettings) :
    (ofField model field settings).Admits fun predicate => predicate.withoutChecks = predicate where
  toSimplifiable := Predicate.compositional_withoutChecks_eq.simplifiable
  comparison _ _ := rfl
  textMatch _ _ _ _ := rfl
  isNull := rfl
  notNull := rfl

end PropertyContext

namespace FilterTree

/-- A predicate that carries its checks, and the same predicate without them. -/
def StripsTo (checked flat : Predicate) : Prop :=
  checked.Checked ∧ checked.withoutChecks = flat

private theorem StripsTo.isEverything {inner other : Predicate} (h : StripsTo inner other) :
    inner.isEverything = other.isEverything := by
  rw [← h.2]
  cases inner <;> rfl

private theorem StripsTo.allOf {parts others : List Predicate}
    (h : List.Forall₂ StripsTo parts others) :
    StripsTo (.allOf parts) (.allOf others) := by
  have hothers : parts.map Predicate.withoutChecks = others := by
    refine List.forall₂_eq_eq_eq ▸ List.forall₂_map_left_iff.mpr ?_
    exact h.imp fun _ _ hpart => hpart.2
  refine ⟨Predicate.compositional_checked.simplifiable.allOf fun part hpart => ?_, ?_⟩
  · obtain ⟨_, _, hrelated⟩ := exists_of_forall₂_mem h.flip hpart
    exact hrelated.1
  · rw [Predicate.withoutChecks_allOf, hothers]

private theorem StripsTo.rebase {inner other : Predicate} (h : StripsTo inner other)
    (name : String) :
    StripsTo (inner.rebase (Access.root.member name true))
      (other.rebase (Access.root.member name false)) := by
  refine ⟨h.1.rebase (Access.checksAll_member name), ?_⟩
  rw [Predicate.withoutChecks_rebase, h.2]
  rfl

private theorem StripsTo.anyIn {inner other : Predicate} (h : StripsTo inner other)
    (name : String) :
    StripsTo (.anyIn (Access.root.member name true) inner)
      (.anyIn (Access.root.member name false) other) := by
  refine ⟨h.1.anyIn name, ?_⟩
  rw [Predicate.withoutChecks_anyIn, h.2]
  rfl

private theorem StripsTo.notNull (name : String) :
    StripsTo (.notNull (Access.root.member name true))
      (.notNull (Access.root.member name false)) :=
  ⟨.notNull (Access.checksWay_member name true), rfl⟩

/-- Checks in the predicate are those of evaluation, written into the paths. -/
theorem stripsTo_simulation (hpolicy : settings.conditionalAccess = .always) :
    BuildSimulation settings { settings with conditionalAccess := .whenCompiled } StripsTo where
  property model filter := by
    rw [buildProperty_conditionalAccess]
    refine Alike.refl fun condition hcondition => ⟨?_, ?_⟩
    · exact buildProperty_admits (fun field _ => PropertyContext.admits_checked _ field _)
        hcondition
    · exact buildProperty_admits (P := fun predicate => predicate.withoutChecks = predicate)
        (fun field _ => PropertyContext.admits_withoutChecks_eq _ field _) hcondition
  isEverything := StripsTo.isEverything
  attach field inner other hinner _ := by
    simp only [attach, hpolicy, ConditionalAccess.guardsTree, ConditionalAccess.guardsEvaluation,
      Bool.and_true]
    split
    · exact hinner.anyIn field.name
    · split
      · exact StripsTo.allOf (.cons (StripsTo.notNull _) (.cons (hinner.rebase _) .nil))
      · exact hinner.rebase field.name
  allOf := StripsTo.allOf

/-- Checks that are written into the predicate suffice. A filter that is built with them gives
    a predicate that is evaluated alike with and without further checks, faults included, so
    that a missing entity is never a fault. Built with checks during evaluation instead, it
    gives the same predicate without checks on its paths, which is evaluated alike. -/
theorem evaluate_eq_of_always {schema : Schema} {model : Model} {tree : FilterTree}
    {predicate : Predicate} (hplain : tree.WithoutInterceptors) (hshares : tree.SharesSettings)
    (hpolicy : settings.conditionalAccess = .always)
    (hbuilt : build schema model settings none tree = .ok predicate) :
    (∀ entity, predicate.evaluate false entity = predicate.evaluate true entity ∧
      ∀ path, predicate.evaluate false entity ≠ .error (.nullNavigation path)) ∧
    build schema model { settings with conditionalAccess := .whenCompiled } none tree =
      .ok predicate.withoutChecks ∧
    ∀ entity, predicate.withoutChecks.evaluate true entity = predicate.evaluate true entity := by
  have hsimulation := (stripsTo_simulation hpolicy).build schema hplain hshares model
  rw [hbuilt] at hsimulation
  generalize hflat : build schema model { settings with conditionalAccess := .whenCompiled } none
    tree = flat at hsimulation
  cases hsimulation with
  | ok hrelated =>
    obtain ⟨hchecked, rfl⟩ := hrelated
    refine ⟨fun entity => ⟨hchecked.evaluate_eq entity, ?_⟩, rfl,
      predicate.evaluate_withoutChecks⟩
    rw [hchecked.evaluate_eq entity]
    exact (predicate.evaluate_dropsNull entity).ne_null

/-- A team without a lead is refused alike whether or not the evaluation checks once more. -/
theorem evaluate_always_leaderless : ∃ predicate,
    build Teams.schema Teams.team (Teams.settings .always) none Teams.tree = .ok predicate ∧
      predicate.evaluate true Teams.leaderless = .ok false ∧
      predicate.evaluate false Teams.leaderless = .ok false := by
  have hpolicy : (Teams.settings .always).conditionalAccess = .always := rfl
  have hbuilt : build Teams.schema Teams.team (Teams.settings .always) none Teams.tree = .ok _ :=
    rfl
  obtain ⟨halike, -⟩ :=
    evaluate_eq_of_always Teams.withoutInterceptors Teams.sharesSettings hpolicy hbuilt
  refine ⟨_, hbuilt, rfl, ?_⟩
  rw [(halike Teams.leaderless).1]
  rfl

/-- A predicate without checks of missing entities, and one with them: both are decided from
    the outset in the same way, or else both read first and the second one gives the verdicts
    of the first one without faults. -/
inductive Weakens : Predicate → Predicate → Prop
  | everything : Weakens .everything .everything
  | nothing : Weakens .nothing .nothing
  | reads {flat guarded : Predicate} (hflat : flat.ReadsFirst) (hguarded : guarded.ReadsFirst)
    (hrefines : ∀ entity, Refines (flat.evaluate false entity) (guarded.evaluate true entity)) :
    Weakens flat guarded

namespace Weakens

variable {flat guarded : Predicate}

theorem settled_left (h : Weakens flat guarded) : flat.Settled := by
  cases h with
  | everything => exact .inl rfl
  | nothing => exact .inr (.inl rfl)
  | reads hflat _ _ => exact .inr (.inr hflat)

theorem settled_right (h : Weakens flat guarded) : guarded.Settled := by
  cases h with
  | everything => exact .inl rfl
  | nothing => exact .inr (.inl rfl)
  | reads _ hguarded _ => exact .inr (.inr hguarded)

theorem eq_everything_iff (h : Weakens flat guarded) :
    flat = .everything ↔ guarded = .everything := by
  cases h with
  | everything | nothing => simp
  | reads hflat hguarded _ => simp [hflat.ne_everything, hguarded.ne_everything]

theorem eq_nothing_iff (h : Weakens flat guarded) :
    flat = .nothing ↔ guarded = .nothing := by
  cases h with
  | everything | nothing => simp
  | reads hflat hguarded _ => simp [hflat.ne_nothing, hguarded.ne_nothing]

theorem refines (h : Weakens flat guarded) (entity : Entity) :
    Refines (flat.evaluate false entity) (guarded.evaluate true entity) := by
  cases h with
  | everything | nothing => exact fun _ heval => heval
  | reads _ _ hrefines => exact hrefines entity

/-- A settled predicate needs no further checks to be decided. -/
theorem of_settled (hsettled : flat.Settled) : Weakens flat flat := by
  rcases hsettled with rfl | rfl | hreads
  · exact .everything
  · exact .nothing
  · exact .reads hreads hreads fun entity => (flat.evaluate_dropsNull entity).refines

theorem allOf {parts others : List Predicate} (h : List.Forall₂ Weakens parts others) :
    Weakens (.allOf parts) (.allOf others) := by
  have hleft : ∀ part ∈ parts, ∃ other ∈ others, Weakens part other :=
    fun part hpart => exists_of_forall₂_mem h.flip hpart
  have hright : ∀ other ∈ others, ∃ part ∈ parts, Weakens part other :=
    fun other hother => exists_of_forall₂_mem h hother
  by_cases hnothing : .nothing ∈ parts
  · obtain ⟨other, hother, hrelated⟩ := hleft _ hnothing
    rw [Predicate.allOf_eq_nothing hnothing,
      Predicate.allOf_eq_nothing (hrelated.eq_nothing_iff.mp rfl ▸ hother)]
    exact .nothing
  have hnothing' : .nothing ∉ others := by
    intro hother
    obtain ⟨part, hpart, hrelated⟩ := hright _ hother
    exact hnothing (hrelated.eq_nothing_iff.mpr rfl ▸ hpart)
  by_cases hall : ∀ part ∈ parts, part = .everything
  · have hall' : ∀ other ∈ others, other = .everything := by
      intro other hother
      obtain ⟨part, hpart, hrelated⟩ := hright other hother
      exact hrelated.eq_everything_iff.mp (hall part hpart)
    rw [Predicate.allOf_eq_everything hall, Predicate.allOf_eq_everything hall']
    exact .everything
  push Not at hall
  obtain ⟨part, hpart, hne⟩ := hall
  obtain ⟨other, hother, hrelated⟩ := hleft part hpart
  refine .reads ?_ ?_ fun entity => ?_
  · refine Predicate.readsFirst_allOf (fun part hpart => ?_) hnothing ⟨part, hpart, hne⟩
    obtain ⟨_, _, hrelated⟩ := hleft part hpart
    exact hrelated.settled_left
  · refine Predicate.readsFirst_allOf (fun other hother => ?_) hnothing'
      ⟨other, hother, fun heq => hne (hrelated.eq_everything_iff.mpr heq)⟩
    obtain ⟨_, _, hrelated⟩ := hright other hother
    exact hrelated.settled_right
  · rw [Predicate.evaluate_allOf hnothing, Predicate.evaluate_allOf hnothing']
    exact sequential_refines.allM (h.imp fun _ _ hrelated => hrelated.refines entity)

theorem anyIn (h : Weakens flat guarded) (name : String) :
    Weakens (.anyIn (Access.root.member name false) flat)
      (.anyIn (Access.root.member name false) guarded) := by
  by_cases hnothing : flat = .nothing
  · rw [hnothing, h.eq_nothing_iff.mp hnothing]
    exact .nothing
  · rw [Predicate.anyIn_eq_any hnothing,
      Predicate.anyIn_eq_any (h.eq_nothing_iff.not.mp hnothing)]
    exact .reads (.any rfl) (.any rfl) fun entity =>
      Predicate.evaluate_any_refines h.refines _ entity

/-- Behind a property that holds no entity the first predicate gives no verdict, and otherwise
    both are tested on that entity. -/
private theorem refines_rebase (hflat : flat.ReadsFirst)
    (hrefines : ∀ entity, Refines (flat.evaluate false entity) (guarded.evaluate true entity))
    (name : String) (entity : Entity) (verdict : Bool)
    (heval : (flat.rebase (Access.root.member name false)).evaluate false entity = .ok verdict) :
    (∃ related, entity.get name = .object related) ∧
      (guarded.rebase (Access.root.member name false)).evaluate true entity = .ok verdict := by
  by_cases hvalue : ∃ related, entity.get name = .object related
  · obtain ⟨related, hrelated⟩ := hvalue
    have hresolve (checks : Bool) :
        (Access.root.member name false).resolve entity checks = .ok (.object related) := by
      rw [Access.resolve_member, hrelated]
    rw [(Predicate.evaluate_rebase_sameOutcome (hresolve false) flat).ok_iff] at heval
    refine ⟨⟨related, hrelated⟩, ?_⟩
    rw [(Predicate.evaluate_rebase_sameOutcome (hresolve true) guarded).ok_iff]
    exact hrefines related verdict heval
  · obtain ⟨fault, hfault⟩ := hflat.evaluate_rebase_fault fun related h => hvalue ⟨related, h⟩
    rw [hfault] at heval
    cases heval

theorem rebase (h : Weakens flat guarded) (name : String) :
    Weakens (flat.rebase (Access.root.member name false))
      (guarded.rebase (Access.root.member name false)) := by
  cases h with
  | everything => exact .everything
  | nothing => exact .nothing
  | reads hflat hguarded hrefines =>
    refine .reads (hflat.rebase _) (hguarded.rebase _) fun entity verdict heval => ?_
    exact (refines_rebase hflat hrefines name entity verdict heval).2

/-- That a property holds an entity may be tested in advance, where it is a fault otherwise. -/
theorem rebase_notNull (h : Weakens flat guarded) (hne : flat ≠ .everything) (name : String) :
    Weakens (flat.rebase (Access.root.member name false))
      (.allOf [.notNull (Access.root.member name false),
        guarded.rebase (Access.root.member name false)]) := by
  cases h with
  | everything => exact absurd rfl hne
  | nothing => exact .nothing
  | reads hflat hguarded hrefines =>
    -- The added test never decides in advance, and it reads the same property first.
    have hparts : .nothing ∉ [Predicate.notNull (Access.root.member name false),
        guarded.rebase (Access.root.member name false)] := by
      simpa using (hguarded.rebase _).ne_nothing.symm
    refine .reads (hflat.rebase _) ?_ fun entity verdict heval => ?_
    · refine Predicate.readsFirst_allOf ?_ hparts ⟨_, List.mem_cons_self, by simp⟩
      intro part hpart
      rcases List.mem_pair.mp hpart with rfl | rfl
      · exact .inr (.inr (.notNull rfl))
      · exact .inr (.inr (hguarded.rebase _))
    · obtain ⟨⟨related, hrelated⟩, hverdict⟩ :=
        refines_rebase hflat hrefines name entity verdict heval
      rw [Predicate.evaluate_allOf hparts, List.allM_cons, List.allM_cons, List.allM_nil, hverdict,
        Predicate.evaluate, Access.resolve_member, hrelated]
      cases verdict <;> rfl

end Weakens

/-- Leaving missing entities unchecked weakens a filter and changes nothing else. -/
theorem weakens_simulation (settings : FilterSettings) :
    BuildSimulation { settings with conditionalAccess := .never }
      { settings with conditionalAccess := .whenCompiled } Weakens where
  property model filter := by
    rw [buildProperty_conditionalAccess, buildProperty_conditionalAccess]
    refine Alike.refl fun condition hcondition => Weakens.of_settled ?_
    exact buildProperty_settled hcondition
  isEverything {inner other} h := by
    cases h with
    | everything | nothing => rfl
    | reads hflat hguarded _ => cases hflat <;> cases hguarded <;> rfl
  attach field inner other hinner hopen := by
    simp only [attach, ConditionalAccess.guardsTree, ConditionalAccess.guardsEvaluation,
      Bool.and_true, Bool.and_false, Bool.false_eq_true, if_false]
    split
    · exact hinner.anyIn field.name
    · split
      · exact hinner.rebase_notNull (by rintro rfl; cases hopen) field.name
      · exact hinner.rebase field.name
  allOf := Weakens.allOf

end FilterTree

/-- Without checks of missing entities a filter can fail on an entity, but it cannot give
    another verdict: it compiles exactly if it does with checks during evaluation, with the same
    fault otherwise, and each of its verdicts is the one with checks. -/
theorem EntityFilter.compileWith_never {model : Model} (schema : Schema)
    (filter : EntityFilter model) (settings : FilterSettings)
    (hplain : filter.tree.WithoutInterceptors) (hshares : filter.tree.SharesSettings) :
    Alike
      (fun unchecked checked : CompiledFilter => ∀ (entity : Entity) (verdict : Bool),
        unchecked.evaluate entity = .ok verdict → checked.evaluate entity = .ok verdict)
      (filter.compileWith schema { settings with conditionalAccess := .never })
      (filter.compileWith schema { settings with conditionalAccess := .whenCompiled }) := by
  refine ((FilterTree.weakens_simulation settings).build schema hplain hshares model).bind
    fun flat guarded hrelated => .ok ?_
  exact fun entity verdict => hrelated.refines entity verdict

/-- A team that is accepted without checks is accepted with them. -/
theorem EntityFilter.compileWith_whenCompiled_led : ∃ checked,
    EntityFilter.compileWith Teams.schema (⟨Teams.tree⟩ : EntityFilter Teams.team)
      (Teams.settings .whenCompiled) = .ok checked ∧
    checked.evaluate Teams.led = .ok true := by
  have halike := compileWith_never Teams.schema (⟨Teams.tree⟩ : EntityFilter Teams.team)
    (Teams.settings .whenCompiled) Teams.withoutInterceptors Teams.sharesSettings
  cases halike with
  | ok hab => exact ⟨_, rfl, hab _ _ rfl⟩

end EntityQuery
