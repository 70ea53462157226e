import EntityQuery.Proofs.Agreement
import EntityQuery.Proofs.Filter.Typing
import EntityQuery.Proofs.Sort.Path

namespace EntityQuery

namespace CompiledSort

variable {schema : Schema} {model : Model} {sort : CompiledSort} {shown : Field → Bool}

/-- Keys on values that are shown are the same for entities that agree, and so is a fault at
    reading them. -/
theorem row_eq_of_agree {first second : Entity}
    (hkeys : ∀ key ∈ sort.keys, ∃ field, key.1.Reaches schema shown model field ∧
      field.kind.isScalar = true)
    (hagree : Agree schema shown model first second) : sort.row first = sort.row second := by
  refine mapM_eq_of_forall₂ (List.forall₂_same.mpr fun key hkey => ?_)
  obtain ⟨field, hreaches, hscalar⟩ := hkeys key hkey
  exact (hreaches.resolve_alike hagree).eq fun _ _ hsame => hsame.eq_of_isScalar hscalar

variable {α : Type} [AsEntity α] {items others : List α}

/-- The order of items depends on their rows alone. -/
theorem order_eq_of_forall₂
    (hrows : List.Forall₂ (fun item other => sort.row (entity item) = sort.row (entity other))
      items others) : sort.order items = sort.order others := by
  unfold order
  rw [hrows.length_eq, mapM_eq_of_forall₂ hrows]

end CompiledSort

/-- What is closed to filters and to sorting does not show in their results. On two entities
    that agree in all filterable fields, related entities included, a filter has the same
    verdict or the same fault. Two lists that agree item by item in all sortable fields are put
    into the same order, or cannot be ordered for the same fault. -/
theorem results_eq_of_agree (schema : Schema) (model : Model) :
    (∀ (tree : FilterTree) (settings : FilterSettings) (predicate : Predicate),
      tree.WithoutInterceptors → tree.build schema model settings none = .ok predicate →
      ∀ (guarded : Bool) (first second : Entity),
        Agree schema (·.filterable) model first second →
          predicate.evaluate guarded first = predicate.evaluate guarded second) ∧
    ∀ (sort : EntitySort model) (settings : SortSettings) (compiled : CompiledSort),
      sort.compileWith schema settings = .ok compiled →
      ∀ {α : Type} [AsEntity α] (items others : List α),
        List.Forall₂ (fun item other => Agree schema (·.sortable) model (entity item)
          (entity other)) items others →
          compiled.order items = compiled.order others := by
  constructor
  · intro tree settings predicate hplain hbuilt guarded first second hagree
    exact (FilterTree.build_typed hplain hbuilt).evaluate_eq hagree
  · intro sort settings compiled hcompiled α _ items others hagree
    refine CompiledSort.order_eq_of_forall₂ (hagree.imp fun item other hitem => ?_)
    exact CompiledSort.row_eq_of_agree (EntitySort.compileWith_reaches hcompiled) hitem

namespace Staff

/-- What an employee is paid, which is closed to filters and to sorting. -/
def pay : Field := { name := "Pay", kind := .int, filterable := false, sortable := false }

/-- Employees with a boss, who may be missing, and staff. -/
def employee : Model where
  name := "Employee"
  fields := [
    { name := "Name", kind := .text }, pay,
    { name := "Boss", kind := .navigation "Employee", nullable := true },
    { name := "Staff", kind := .collection "Employee" }]

def schema : Schema := ⟨[employee]⟩

def worker (name : String) (amount : Int64) : Entity :=
  .ofProperties [("Name", .text name), ("Pay", .int amount), ("Boss", .null), ("Staff", .list [])]

/-- Someone whose boss is Ann and whose staff is Bob, all on the same pay. -/
def manager (name : String) (amount : Int64) : Entity :=
  .ofProperties [("Name", .text name), ("Pay", .int amount),
    ("Boss", .object (worker "Ann" amount)), ("Staff", .list [worker "Bob" amount])]

/-- Those whose boss is Ann and whose staff includes Bob. -/
def tree : FilterTree where
  properties := []
  nested := [("boss", Teams.named "Ann"), ("staff", Teams.named "Bob")]
  settings := none
  interceptor := none

theorem withoutInterceptors : tree.WithoutInterceptors := by
  refine .intro rfl fun entry hentry => ?_
  rcases List.mem_pair.mp hentry with rfl | rfl
  · exact .intro rfl fun _ hinside => nomatch hinside
  · exact .intro rfl fun _ hinside => nomatch hinside

/-- By the name of the boss from Z to A, and then by name. -/
def sort : EntitySort employee := ⟨[⟨"boss.name", .descending, 0⟩, ⟨"name", .ascending, 1⟩], none⟩

variable {shown : Field → Bool}

theorem worker_agree (hpay : shown pay = false) (name : String) (amount other : Int64) :
    Agree schema shown employee (worker name amount) (worker name other) := by
  refine .intro fun field hfield hshown => ?_
  simp only [employee, List.mem_cons, List.not_mem_nil, or_false] at hfield
  rcases hfield with rfl | rfl | rfl | rfl
  · exact .same (.text name)
  · simp [hpay] at hshown
  · exact .same .null
  · exact .same (.list [])

theorem manager_agree (hpay : shown pay = false) (name : String) (amount other : Int64) :
    Agree schema shown employee (manager name amount) (manager name other) := by
  refine .intro fun field hfield hshown => ?_
  simp only [employee, List.mem_cons, List.not_mem_nil, or_false] at hfield
  rcases hfield with rfl | rfl | rfl | rfl
  · exact .same (.text name)
  · simp [hpay] at hshown
  · exact .object rfl (worker_agree hpay "Ann" amount other)
  · exact .list rfl (.cons (worker_agree hpay "Bob" amount other) .nil)

end Staff

/-- Pay shows neither in what is selected nor in what comes first. -/
theorem results_eq_staff :
    (∃ predicate, Staff.tree.build Staff.schema Staff.employee (Teams.settings .never) none =
        .ok predicate ∧
      predicate.evaluate false (Staff.manager "Kim" 10) = .ok true ∧
      predicate.evaluate false (Staff.manager "Kim" 20) = .ok true) ∧
    ∃ compiled, Staff.sort.compileWith Staff.schema .builtin = .ok compiled ∧
      compiled.order [Staff.manager "Lee" 10, Staff.manager "Kim" 20] = .ok [1, 0] ∧
      compiled.order [Staff.manager "Lee" 40, Staff.manager "Kim" 30] = .ok [1, 0] := by
  obtain ⟨hfilter, hsort⟩ := results_eq_of_agree Staff.schema Staff.employee
  constructor
  · have hbuilt : Staff.tree.build Staff.schema Staff.employee (Teams.settings .never) none =
        .ok _ := rfl
    refine ⟨_, hbuilt, rfl, ?_⟩
    rw [← hfilter _ _ _ Staff.withoutInterceptors hbuilt false _ _
      (Staff.manager_agree rfl "Kim" 10 20)]
    rfl
  · have hcompiled : Staff.sort.compileWith Staff.schema .builtin = .ok _ := rfl
    refine ⟨_, hcompiled, rfl, ?_⟩
    rw [← hsort _ _ _ hcompiled _ _ (.cons (Staff.manager_agree rfl "Lee" 10 40)
      (.cons (Staff.manager_agree rfl "Kim" 20 30) .nil))]
    rfl

end EntityQuery
