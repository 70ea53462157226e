import EntityQuery.Access
import EntityQuery.Proofs.Sequential

namespace EntityQuery.Access

/-- The segments already followed show only in the path of a fault. -/
theorem follow_sameOutcome (guarded guard : Bool) (passed others : List Segment) (value : Value)
    (segments : List Segment) :
    SameOutcome (follow guarded passed guard value segments)
      (follow guarded others guard value segments) := by
  induction segments generalizing passed others guard value with
  | nil => rfl
  | cons segment rest ih =>
    cases value with
    | object entity => simpa only [follow] using ih _ _ _ _
    | null =>
      simp only [follow]
      split <;> rfl
    | _ => rfl

/-- A path that leads to an entity goes on from there. -/
theorem follow_append {guarded guard : Bool} {passed : List Segment} {value : Value}
    {segments : List Segment} {related : Entity}
    (hfollow : follow guarded passed guard value segments = .ok (.object related))
    (rest : List Segment) :
    ∃ last, follow guarded passed guard value (segments ++ rest) =
      follow guarded (passed ++ segments) last (.object related) rest := by
  induction segments generalizing passed guard value with
  | nil =>
    simp only [follow, Except.ok.injEq] at hfollow
    exact ⟨guard, by simp [hfollow]⟩
  | cons segment tail ih =>
    cases value with
    | object entity =>
      obtain ⟨last, hlast⟩ := ih hfollow
      exact ⟨last, by simpa [follow] using hlast⟩
    | null =>
      simp only [follow] at hfollow
      split at hfollow <;> cases hfollow
    | _ => cases hfollow

/-- From an entity on, a path leads where it leads from the start of a longer path that passes
    through the entity. -/
theorem resolve_rebased_sameOutcome {before : Access} {entity related : Entity} {guarded : Bool}
    (hbefore : before.resolve entity guarded = .ok (.object related)) (access : Access) :
    SameOutcome ((access.rebased before).resolve entity guarded)
      (access.resolve related guarded) := by
  obtain ⟨last, hlast⟩ := follow_append hbefore access.segments
  simp only [resolve, rebased, hlast]
  -- The guard of the last step is looked at only if the value is null, which an entity is not.
  cases access.segments with
  | nil => rfl
  | cons segment rest => exact follow_sameOutcome _ _ _ _ _ _

theorem rebased_rebased (access inner outer : Access) :
    (access.rebased inner).rebased outer = access.rebased (inner.rebased outer) := by
  simp only [rebased, List.append_assoc]

theorem resolve_member (entity : Entity) (name : String) (conditional guarded : Bool) :
    (root.member name conditional).resolve entity guarded = .ok (entity.get name) := rfl

theorem isRoot_rebased {access before : Access} (hroot : access.isRoot = false) :
    (access.rebased before).isRoot = false := by
  simp_all [isRoot, rebased]

theorem endsConditional_rebased {access : Access} (hroot : access.isRoot = false)
    (before : Access) : (access.rebased before).endsConditional = access.endsConditional := by
  have hne : access.segments ≠ [] := by simpa [isRoot] using hroot
  rw [endsConditional, rebased, List.getLast?_append_of_ne_nil _ hne, endsConditional]

theorem isRoot_of_endsConditional {access : Access} (h : access.endsConditional = true) :
    access.isRoot = false := by
  obtain ⟨_ | ⟨segment, rest⟩⟩ := access
  · cases h
  · rfl

/-- Behind a property that holds no entity, an unchecked path ends in a fault. -/
theorem resolve_rebased_fault {access : Access} (hroot : access.isRoot = false) {entity : Entity}
    {name : String} (hvalue : ∀ related, entity.get name ≠ .object related) :
    ∃ fault, (access.rebased (root.member name false)).resolve entity false = .error fault := by
  obtain ⟨_ | ⟨segment, rest⟩⟩ := access
  · simp [isRoot] at hroot
  · change ∃ fault, follow false [⟨name, false⟩] false (entity.get name) (segment :: rest) = _
    cases hget : entity.get name with
    | object related => exact absurd hget (hvalue related)
    | _ => exact ⟨_, rfl⟩

/-- Checking every step of a path removes faults at missing entities and changes nothing
    else. -/
theorem resolve_dropsNull (access : Access) (entity : Entity) :
    DropsNull (access.resolve entity false) (access.resolve entity true) := by
  suffices h : ∀ segments passed guard value,
      DropsNull (follow false passed guard value segments)
        (follow true passed guard value segments) from h _ _ _ _
  intro segments
  induction segments with
  | nil => exact fun _ _ value => DropsNull.ok value
  | cons segment rest ih =>
    intro passed guard value
    cases value with
    | object entity => exact ih _ _ _
    | null =>
      cases guard with
      | true => exact DropsNull.ok Value.null
      | false => exact ⟨.inr ⟨_, rfl⟩, fun _ h => nomatch h⟩
    | _ => exact DropsNull.of_eq fun _ h => nomatch h

/-- All steps but the last are checked, which leaves no unchecked null to go on from. -/
def ChecksWay (access : Access) : Prop :=
  ∀ segment ∈ access.segments.dropLast, segment.conditional = true

/-- All steps are checked, the last one too. -/
def ChecksAll (access : Access) : Prop :=
  ∀ segment ∈ access.segments, segment.conditional = true

theorem ChecksAll.checksWay {access : Access} (h : access.ChecksAll) : access.ChecksWay :=
  fun segment hmem => h segment (List.dropLast_subset _ hmem)

theorem checksWay_member (name : String) (conditional : Bool) :
    (root.member name conditional).ChecksWay := by
  simp [ChecksWay, member, root]

theorem checksAll_member (name : String) : (root.member name true).ChecksAll := by
  simp [ChecksAll, member, root]

theorem ChecksWay.rebased {access before : Access} (h : access.ChecksWay)
    (hbefore : before.ChecksAll) : (access.rebased before).ChecksWay := by
  intro segment hmem
  cases hsegments : access.segments with
  | nil =>
    simp only [Access.rebased, hsegments, List.append_nil] at hmem
    exact hbefore.checksWay segment hmem
  | cons first rest =>
    simp only [Access.rebased, List.dropLast_append_of_ne_nil (hsegments ▸ List.cons_ne_nil _ _),
      List.mem_append] at hmem
    exact hmem.elim (hbefore segment) (h segment)

/-- A path whose way is checked needs no further checks. -/
theorem ChecksWay.resolve_eq {access : Access} (h : access.ChecksWay) (entity : Entity) :
    access.resolve entity false = access.resolve entity true := by
  suffices hfollow : ∀ segments : List Segment,
      (∀ segment ∈ segments.dropLast, segment.conditional = true) → ∀ passed value,
      follow false passed true value segments = follow true passed true value segments from
    hfollow access.segments h [] _
  intro segments
  induction segments with
  | nil => exact fun _ _ _ => rfl
  | cons segment rest ih =>
    intro hchecked passed value
    cases value with
    | object entity =>
      cases rest with
      | nil => rfl
      | cons next tail =>
        have hsegment : segment.conditional = true := hchecked segment (by simp)
        have hrest : ∀ other ∈ (next :: tail).dropLast, other.conditional = true :=
          fun other hmem => hchecked other (by simp_all)
        simpa only [follow, hsegment] using ih hrest _ _
    | _ => rfl

/-- The path without checks on its way. -/
def withoutChecks (access : Access) : Access :=
  ⟨access.segments.map fun segment => ⟨segment.name, false⟩⟩

theorem withoutChecks_rebased (access before : Access) :
    (access.rebased before).withoutChecks = access.withoutChecks.rebased before.withoutChecks := by
  simp [withoutChecks, rebased]

theorem path_withoutChecks (access : Access) : access.withoutChecks.path = access.path := by
  simp [withoutChecks, path, dotted, Function.comp_def]

/-- The checks of a path make no difference where every step is checked anyway. -/
theorem resolve_withoutChecks (access : Access) (entity : Entity) :
    access.withoutChecks.resolve entity true = access.resolve entity true := by
  suffices h : ∀ (segments passed others : List Segment) guard other value,
      passed.map (·.name) = others.map (·.name) →
      follow true passed guard value (segments.map fun segment => ⟨segment.name, false⟩) =
        follow true others other value segments from h _ _ _ _ _ _ rfl
  intro segments
  induction segments with
  | nil => exact fun _ _ _ _ _ _ => rfl
  | cons segment rest ih =>
    intro passed others guard other value hnames
    cases value with
    | object entity => exact ih _ _ _ _ _ (by simp [hnames])
    | null => simp [follow]
    | _ => simp [follow, dotted, hnames]

end EntityQuery.Access
