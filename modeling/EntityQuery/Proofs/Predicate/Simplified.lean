import EntityQuery.Predicate.Simplified
import EntityQuery.Proofs.Predicate.Evaluation

namespace EntityQuery.Predicate

variable {guarded : Bool} {entity : Entity} {parts : List Predicate}

theorem isEverything_iff {predicate : Predicate} :
    predicate.isEverything = true ↔ predicate = everything := by
  cases predicate <;> simp [isEverything]

/-- The parts of a predicate when it is taken as a conjunction. -/
def conjunctsOf : Predicate → List Predicate
  | everything => []
  | conjunction parts => parts
  | predicate => [predicate]

/-- The parts of a predicate when it is taken as a disjunction. -/
def disjunctsOf : Predicate → List Predicate
  | nothing => []
  | disjunction parts => parts
  | predicate => [predicate]

/-- A conjunction of parts, which is no conjunction if there are fewer than two. -/
def conjoined : List Predicate → Predicate
  | [] => everything
  | [part] => part
  | parts => conjunction parts

/-- A disjunction of parts, which is no disjunction if there are fewer than two. -/
def disjoined : List Predicate → Predicate
  | [] => nothing
  | [part] => part
  | parts => disjunction parts

private theorem conjuncts_eq_none (h : nothing ∈ parts) : conjuncts parts = none := by
  induction parts with
  | nil => cases h
  | cons part rest ih =>
    rcases List.mem_cons.mp h with rfl | hrest
    · rfl
    · cases part <;> simp [conjuncts, ih hrest]

private theorem conjuncts_eq_some (h : nothing ∉ parts) :
    conjuncts parts = some (parts.flatMap conjunctsOf) := by
  induction parts with
  | nil => rfl
  | cons part rest ih =>
    obtain ⟨hpart, hrest⟩ := List.ne_and_not_mem_of_not_mem_cons h
    cases part with
    | nothing => exact absurd rfl hpart
    | _ => simp [conjuncts, conjunctsOf, ih hrest]

private theorem disjuncts_eq_none (h : everything ∈ parts) : disjuncts parts = none := by
  induction parts with
  | nil => cases h
  | cons part rest ih =>
    rcases List.mem_cons.mp h with rfl | hrest
    · rfl
    · cases part <;> simp [disjuncts, ih hrest]

private theorem disjuncts_eq_some (h : everything ∉ parts) :
    disjuncts parts = some (parts.flatMap disjunctsOf) := by
  induction parts with
  | nil => rfl
  | cons part rest ih =>
    obtain ⟨hpart, hrest⟩ := List.ne_and_not_mem_of_not_mem_cons h
    cases part with
    | everything => exact absurd rfl hpart
    | _ => simp [disjuncts, disjunctsOf, ih hrest]

theorem allOf_eq_nothing (h : nothing ∈ parts) : allOf parts = nothing := by
  simp [allOf, conjuncts_eq_none h]

theorem allOf_eq_conjoined (h : nothing ∉ parts) :
    allOf parts = conjoined (parts.flatMap conjunctsOf) := by
  rw [allOf, conjuncts_eq_some h]
  rcases parts.flatMap conjunctsOf with _ | ⟨part, _ | ⟨next, rest⟩⟩ <;> rfl

theorem allOf_eq_everything (h : ∀ part ∈ parts, part = everything) :
    allOf parts = everything := by
  have hconjuncts : parts.flatMap conjunctsOf = [] :=
    List.flatMap_eq_nil_iff.mpr fun part hpart => by rw [h part hpart]; rfl
  have hnothing : nothing ∉ parts := fun hmem => nomatch h nothing hmem
  rw [allOf_eq_conjoined hnothing, hconjuncts, conjoined]

private theorem conjuncts_filter (parts : List Predicate) :
    conjuncts (parts.filter fun part => !part.isEverything) = conjuncts parts := by
  induction parts with
  | nil => rfl
  | cons part rest ih =>
    cases heverything : part.isEverything with
    | true =>
      rw [List.filter_cons_of_neg (by simp [heverything]), ih, isEverything_iff.mp heverything]
      rfl
    | false =>
      rw [List.filter_cons_of_pos (by simp [heverything])]
      cases part <;> simp only [conjuncts, ih]

/-- Parts that accept everything make no difference to a conjunction. -/
theorem allOf_congr {others : List Predicate}
    (h : (parts.filter fun part => !part.isEverything) =
      others.filter fun part => !part.isEverything) : allOf parts = allOf others := by
  rw [allOf, ← conjuncts_filter parts, h, conjuncts_filter, allOf]

theorem someOf_eq_everything (h : everything ∈ parts) : someOf parts = everything := by
  simp [someOf, disjuncts_eq_none h]

theorem someOf_eq_disjoined (h : everything ∉ parts) :
    someOf parts = disjoined (parts.flatMap disjunctsOf) := by
  rw [someOf, disjuncts_eq_some h]
  rcases parts.flatMap disjunctsOf with _ | ⟨part, _ | ⟨next, rest⟩⟩ <;> rfl

theorem someOf_eq_nothing (h : ∀ part ∈ parts, part = nothing) : someOf parts = nothing := by
  have hdisjuncts : parts.flatMap disjunctsOf = [] :=
    List.flatMap_eq_nil_iff.mpr fun part hpart => by rw [h part hpart]; rfl
  have heverything : everything ∉ parts := fun hmem => nomatch h everything hmem
  rw [someOf_eq_disjoined heverything, hdisjuncts, disjoined]

private theorem allM_append {α : Type} (test : α → Except Fault Bool) (xs ys : List α) :
    (xs ++ ys).allM test = (do if ← xs.allM test then ys.allM test else return false) := by
  induction xs with
  | nil => rfl
  | cons x rest ih =>
    simp only [List.cons_append, List.allM_cons, ih, bind_assoc]
    congr 1
    funext verdict
    cases verdict <;> rfl

private theorem anyM_append {α : Type} (test : α → Except Fault Bool) (xs ys : List α) :
    (xs ++ ys).anyM test = (do if ← xs.anyM test then return true else ys.anyM test) := by
  induction xs with
  | nil => rfl
  | cons x rest ih =>
    simp only [List.cons_append, List.anyM_cons, ih, bind_assoc]
    congr 1
    funext verdict
    cases verdict <;> rfl

private theorem evaluate_conjoined (parts : List Predicate) :
    evaluate guarded (conjoined parts) entity =
      parts.allM fun part => evaluate guarded part entity := by
  rcases parts with _ | ⟨part, _ | ⟨next, rest⟩⟩
  · rfl
  · cases h : evaluate guarded part entity with
    | error fault => simp [conjoined, h]; rfl
    | ok verdict => cases verdict <;> simp [conjoined, h] <;> rfl
  · exact evaluate_conjunction _

private theorem evaluate_disjoined (parts : List Predicate) :
    evaluate guarded (disjoined parts) entity =
      parts.anyM fun part => evaluate guarded part entity := by
  rcases parts with _ | ⟨part, _ | ⟨next, rest⟩⟩
  · rfl
  · cases h : evaluate guarded part entity with
    | error fault => simp [disjoined, h]; rfl
    | ok verdict => cases verdict <;> simp [disjoined, h] <;> rfl
  · exact evaluate_disjunction _

private theorem evaluate_conjunctsOf (predicate : Predicate) :
    evaluate guarded (conjoined (conjunctsOf predicate)) entity =
      evaluate guarded predicate entity := by
  cases predicate with
  | conjunction parts =>
    rw [conjunctsOf, evaluate_conjoined, evaluate_conjunction]
  | _ => rfl

private theorem evaluate_disjunctsOf (predicate : Predicate) :
    evaluate guarded (disjoined (disjunctsOf predicate)) entity =
      evaluate guarded predicate entity := by
  cases predicate with
  | disjunction parts =>
    rw [disjunctsOf, evaluate_disjoined, evaluate_disjunction]
  | _ => rfl

/-- Unless it accepts nothing from the outset, a simplified conjunction tests its parts in
    order, faults included. -/
theorem evaluate_allOf (h : nothing ∉ parts) :
    evaluate guarded (allOf parts) entity =
      parts.allM fun part => evaluate guarded part entity := by
  rw [allOf_eq_conjoined h, evaluate_conjoined]
  clear h
  induction parts with
  | nil => rfl
  | cons part rest ih =>
    rw [List.flatMap_cons, allM_append, ih, List.allM_cons, ← evaluate_conjoined,
      evaluate_conjunctsOf]

theorem evaluate_allOf_cons_of_rejects {part : Predicate}
    (h : evaluate guarded part entity = .ok false) (rest : List Predicate) :
    evaluate guarded (allOf (part :: rest)) entity = .ok false := by
  by_cases hnothing : nothing ∈ part :: rest
  · rw [allOf_eq_nothing hnothing]
    rfl
  · rw [evaluate_allOf hnothing, List.allM_cons, h]
    rfl

theorem evaluate_allOf_singleton (part : Predicate) :
    evaluate guarded (allOf [part]) entity = evaluate guarded part entity := by
  by_cases hnothing : nothing ∈ [part]
  · rw [allOf_eq_nothing hnothing, List.mem_singleton.mp hnothing]
  · rw [evaluate_allOf hnothing, ← evaluate_conjoined, conjoined]

/-- Unless it accepts everything from the outset, a simplified disjunction tests its parts in
    order, faults included. -/
theorem evaluate_someOf (h : everything ∉ parts) :
    evaluate guarded (someOf parts) entity =
      parts.anyM fun part => evaluate guarded part entity := by
  rw [someOf_eq_disjoined h, evaluate_disjoined]
  clear h
  induction parts with
  | nil => rfl
  | cons part rest ih =>
    rw [List.flatMap_cons, anyM_append, ih, List.anyM_cons, ← evaluate_disjoined,
      evaluate_disjunctsOf]

theorem evaluate_someOf_singleton (part : Predicate) :
    evaluate guarded (someOf [part]) entity = evaluate guarded part entity := by
  by_cases heverything : everything ∈ [part]
  · rw [someOf_eq_everything heverything, List.mem_singleton.mp heverything]
  · rw [evaluate_someOf heverything, ← evaluate_disjoined, disjoined]

theorem evaluate_not (predicate : Predicate) :
    evaluate guarded (not predicate) entity =
      (do return !(← evaluate guarded predicate entity)) := by
  cases predicate with
  | negation part =>
    simp only [not, evaluate, bind_assoc, pure_bind, Bool.not_not, bind_pure]
  | _ => rfl

theorem anyIn_eq_any {part : Predicate} (h : part ≠ nothing) (collection : Access) :
    anyIn collection part = any collection part := by
  cases part with
  | nothing => exact absurd rfl h
  | _ => rfl

theorem allM_ok {α : Type} {test : α → Except Fault Bool} {xs : List α}
    (h : ∀ x ∈ xs, ∃ verdict, test x = .ok verdict) : ∃ verdict, xs.allM test = .ok verdict := by
  induction xs with
  | nil => exact ⟨true, rfl⟩
  | cons x rest ih =>
    obtain ⟨verdict, hx⟩ := h x List.mem_cons_self
    rw [List.allM_cons, hx]
    cases verdict with
    | true => exact ih fun y hy => h y (List.mem_cons_of_mem x hy)
    | false => exact ⟨false, rfl⟩

theorem anyM_ok {α : Type} {test : α → Except Fault Bool} {xs : List α}
    (h : ∀ x ∈ xs, ∃ verdict, test x = .ok verdict) : ∃ verdict, xs.anyM test = .ok verdict := by
  induction xs with
  | nil => exact ⟨false, rfl⟩
  | cons x rest ih =>
    obtain ⟨verdict, hx⟩ := h x List.mem_cons_self
    rw [List.anyM_cons, hx]
    cases verdict with
    | true => exact ⟨true, rfl⟩
    | false => exact ih fun y hy => h y (List.mem_cons_of_mem x hy)

private theorem allM_eq_true_iff {α : Type} {test : α → Except Fault Bool} {xs : List α} :
    xs.allM test = .ok true ↔ ∀ x ∈ xs, test x = .ok true := by
  induction xs with
  | nil => simp [pure, Except.pure]
  | cons x rest ih =>
    rw [List.allM_cons, List.forall_mem_cons, ← ih]
    cases htest : test x with
    | error fault => simp [bind, Except.bind]
    | ok verdict => cases verdict <;> simp [bind, Except.bind, pure, Except.pure]

theorem anyM_eq_true_iff {α : Type} {test : α → Except Fault Bool} {xs : List α}
    (h : ∀ x ∈ xs, ∃ verdict, test x = .ok verdict) :
    xs.anyM test = .ok true ↔ ∃ x ∈ xs, test x = .ok true := by
  induction xs with
  | nil => simp [pure, Except.pure]
  | cons x rest ih =>
    obtain ⟨verdict, hx⟩ := h x List.mem_cons_self
    rw [List.anyM_cons, hx, List.exists_mem_cons_iff,
      ← ih fun y hy => h y (List.mem_cons_of_mem x hy), hx]
    cases verdict <;> simp [bind, Except.bind, pure, Except.pure]

private theorem anyM_eq_false_iff {α : Type} {test : α → Except Fault Bool} {xs : List α} :
    xs.anyM test = .ok false ↔ ∀ x ∈ xs, test x = .ok false := by
  induction xs with
  | nil => simp [pure, Except.pure]
  | cons x rest ih =>
    rw [List.anyM_cons, List.forall_mem_cons, ← ih]
    cases htest : test x with
    | error fault => simp [bind, Except.bind]
    | ok verdict => cases verdict <;> simp [bind, Except.bind, pure, Except.pure]

/-- A conjunction accepts what all of its parts accept. -/
theorem accepts_allOf_iff :
    Accepts guarded (allOf parts) entity ↔ ∀ part ∈ parts, Accepts guarded part entity := by
  by_cases hnothing : nothing ∈ parts
  · rw [allOf_eq_nothing hnothing]
    constructor
    · intro haccepts
      cases haccepts
    · intro hparts
      exact hparts nothing hnothing
  · rw [Accepts, evaluate_allOf hnothing]
    exact allM_eq_true_iff

/-- A disjunction accepts what one of its parts accepts, if all of them can be tested. -/
theorem accepts_someOf_iff (h : ∀ part ∈ parts, Evaluates guarded part entity) :
    Accepts guarded (someOf parts) entity ↔ ∃ part ∈ parts, Accepts guarded part entity := by
  by_cases heverything : everything ∈ parts
  · rw [someOf_eq_everything heverything]
    exact ⟨fun _ => ⟨everything, heverything, rfl⟩, fun _ => rfl⟩
  · rw [Accepts, evaluate_someOf heverything]
    exact anyM_eq_true_iff h

/-- A simplified predicate may stand in place of a raw one: it gives each verdict of the raw one,
    and it has the same fault unless it is decided from the outset. -/
structure Replaces (guarded : Bool) (entity : Entity) (decided raw simplified : Predicate) :
    Prop where
  verdict : ∀ verdict, evaluate guarded raw entity = .ok verdict →
    evaluate guarded simplified entity = .ok verdict
  fault : ∀ fault, evaluate guarded raw entity = .error fault →
    evaluate guarded simplified entity = .error fault ∨ simplified = decided

namespace Replaces

variable {decided raw simplified : Predicate}

theorem of_eq (h : evaluate guarded simplified entity = evaluate guarded raw entity) :
    Replaces guarded entity decided raw simplified where
  verdict _ hraw := h.trans hraw
  fault _ hraw := .inl (h.trans hraw)

theorem of_decided (outcome : Bool) (hsimplified : simplified = decided)
    (hdecided : evaluate guarded decided entity = .ok outcome)
    (hraw : evaluate guarded raw entity ≠ .ok !outcome) :
    Replaces guarded entity decided raw simplified where
  verdict verdict hverdict := by
    have hsame : verdict = outcome := by
      by_contra hother
      rw [Bool.eq_not_of_ne hother] at hverdict
      exact hraw hverdict
    rw [hsimplified, hdecided, hsame]
  fault _ _ := .inr hsimplified

end Replaces

theorem replaces_allOf (guarded : Bool) (entity : Entity) (parts : List Predicate) :
    Replaces guarded entity nothing (conjunction parts) (allOf parts) := by
  by_cases hnothing : nothing ∈ parts
  · refine .of_decided false (allOf_eq_nothing hnothing) rfl fun haccepts => ?_
    rw [evaluate_conjunction] at haccepts
    cases allM_eq_true_iff.mp haccepts nothing hnothing
  · refine .of_eq ?_
    rw [evaluate_allOf hnothing, evaluate_conjunction]

theorem replaces_someOf (guarded : Bool) (entity : Entity) (parts : List Predicate) :
    Replaces guarded entity everything (disjunction parts) (someOf parts) := by
  by_cases heverything : everything ∈ parts
  · refine .of_decided true (someOf_eq_everything heverything) rfl fun hrejects => ?_
    rw [evaluate_disjunction] at hrejects
    cases anyM_eq_false_iff.mp hrejects everything heverything
  · refine .of_eq ?_
    rw [evaluate_someOf heverything, evaluate_disjunction]

theorem replaces_anyIn (guarded : Bool) (entity : Entity) (collection : Access)
    (part : Predicate) :
    Replaces guarded entity nothing (any collection part) (anyIn collection part) := by
  by_cases hnothing : part = nothing
  · subst hnothing
    refine .of_decided false rfl rfl fun haccepts => ?_
    rw [evaluate_any] at haccepts
    obtain ⟨value, -, hitems⟩ := bind_eq_ok_iff.mp haccepts
    obtain ⟨items, -, hfound⟩ := bind_eq_ok_iff.mp hitems
    have hnone : items.anyM (evaluate guarded nothing) = .ok false :=
      anyM_eq_false_iff.mpr fun _ _ => rfl
    rw [hnone] at hfound
    cases hfound
  · rw [anyIn_eq_any hnothing]
    exact .of_eq rfl

/-- The simplifying constructors may stand in place of the raw ones. They give all verdicts of the
    raw predicates, and they have the same faults unless a conjunction or a test of a collection
    comes down to nothing or a disjunction to everything. A negation keeps all faults. -/
theorem simplified_replaces_raw (guarded : Bool) (entity : Entity) (parts : List Predicate)
    (part : Predicate) (collection : Access) :
    Replaces guarded entity nothing (conjunction parts) (allOf parts) ∧
    Replaces guarded entity everything (disjunction parts) (someOf parts) ∧
    evaluate guarded (not part) entity = evaluate guarded (negation part) entity ∧
    Replaces guarded entity nothing (any collection part) (anyIn collection part) := by
  refine ⟨replaces_allOf guarded entity parts, replaces_someOf guarded entity parts, ?_,
    replaces_anyIn guarded entity collection part⟩
  rw [evaluate_not, evaluate]

/-- A fault at a missing lead is kept through the group around it, and goes with the rest of a
    conjunction that comes down to nothing. -/
theorem simplified_replaces_raw_leaderless :
    let team : Entity := .ofProperties [("Name", .text "Red"), ("Lead", .null)]
    let unnamed := isNull ((Access.root.member "Lead" false).member "Name" false)
    (evaluate false (.conjunction [.conjunction [unnamed], .everything]) team =
        .error (.nullNavigation "Lead") ∧
      evaluate false (allOf [.conjunction [unnamed], .everything]) team =
        .error (.nullNavigation "Lead")) ∧
    evaluate false (.conjunction [unnamed, .nothing]) team = .error (.nullNavigation "Lead") ∧
    allOf [unnamed, .nothing] = .nothing := by
  intro team unnamed
  have hreplaces := fun parts => (simplified_replaces_raw false team parts unnamed .root).1
  refine ⟨⟨rfl, ?_⟩, rfl, ?_⟩
  · exact ((hreplaces [.conjunction [unnamed], .everything]).fault _ rfl).resolve_right nofun
  · exact ((hreplaces [unnamed, .nothing]).fault (.nullNavigation "Lead") rfl).resolve_left nofun

/-- A property of predicates that simplification keeps. -/
structure Simplifiable (P : Predicate → Prop) : Prop where
  everything : P .everything
  nothing : P .nothing
  allOf : ∀ {parts}, (∀ part ∈ parts, P part) → P (.allOf parts)
  someOf : ∀ {parts}, (∀ part ∈ parts, P part) → P (.someOf parts)
  not : ∀ {part}, P part → P (.not part)

theorem simplifiable_evaluates (guarded : Bool) (entity : Entity) :
    Simplifiable fun predicate => Evaluates guarded predicate entity where
  everything := ⟨true, rfl⟩
  nothing := ⟨false, rfl⟩
  allOf {parts} h := by
    by_cases hnothing : .nothing ∈ parts
    · exact ⟨false, by rw [allOf_eq_nothing hnothing]; rfl⟩
    · rw [Evaluates, evaluate_allOf hnothing]
      exact allM_ok h
  someOf {parts} h := by
    by_cases heverything : .everything ∈ parts
    · exact ⟨true, by rw [someOf_eq_everything heverything]; rfl⟩
    · rw [Evaluates, evaluate_someOf heverything]
      exact anyM_ok h
  not {part} h := by
    obtain ⟨verdict, hverdict⟩ := h
    exact ⟨!verdict, by rw [evaluate_not, hverdict]; rfl⟩

/-- A judgement of predicates that takes simplified conjunctions and disjunctions of known parts
    for what they are. -/
structure Judges (known judged : Predicate → Prop) : Prop where
  simplifiable : Simplifiable known
  everything : judged .everything
  allOf : ∀ {parts}, (∀ part ∈ parts, known part) →
    (judged (.allOf parts) ↔ ∀ part ∈ parts, judged part)
  someOf : ∀ {parts}, (∀ part ∈ parts, known part) →
    (judged (.someOf parts) ↔ ∃ part ∈ parts, judged part)

theorem judges_accepts (guarded : Bool) (entity : Entity) :
    Judges (fun predicate => Evaluates guarded predicate entity)
      fun predicate => Accepts guarded predicate entity where
  simplifiable := simplifiable_evaluates guarded entity
  everything := rfl
  allOf _ := accepts_allOf_iff
  someOf := accepts_someOf_iff

/-- A property of predicates that holds of a compound exactly if it holds of its parts. -/
structure Compositional (P : Predicate → Prop) : Prop where
  everything : P .everything
  nothing : P .nothing
  conjunction : ∀ {parts}, P (.conjunction parts) ↔ ∀ part ∈ parts, P part
  disjunction : ∀ {parts}, P (.disjunction parts) ↔ ∀ part ∈ parts, P part
  negation : ∀ {part}, P (.negation part) ↔ P part

namespace Compositional

variable {P : Predicate → Prop}

private theorem conjoined (hP : Compositional P) (h : ∀ part ∈ parts, P part) :
    P (conjoined parts) := by
  rcases parts with _ | ⟨part, _ | ⟨next, rest⟩⟩
  · exact hP.everything
  · exact h part List.mem_cons_self
  · exact hP.conjunction.mpr h

private theorem disjoined (hP : Compositional P) (h : ∀ part ∈ parts, P part) :
    P (disjoined parts) := by
  rcases parts with _ | ⟨part, _ | ⟨next, rest⟩⟩
  · exact hP.nothing
  · exact h part List.mem_cons_self
  · exact hP.disjunction.mpr h

private theorem of_mem_conjunctsOf (hP : Compositional P) {predicate part : Predicate}
    (h : P predicate) (hpart : part ∈ conjunctsOf predicate) : P part := by
  cases predicate with
  | everything => cases hpart
  | conjunction parts => exact hP.conjunction.mp h part hpart
  | _ => exact List.mem_singleton.mp hpart ▸ h

private theorem of_mem_disjunctsOf (hP : Compositional P) {predicate part : Predicate}
    (h : P predicate) (hpart : part ∈ disjunctsOf predicate) : P part := by
  cases predicate with
  | nothing => cases hpart
  | disjunction parts => exact hP.disjunction.mp h part hpart
  | _ => exact List.mem_singleton.mp hpart ▸ h

theorem simplifiable (hP : Compositional P) : Simplifiable P where
  everything := hP.everything
  nothing := hP.nothing
  allOf {parts} h := by
    by_cases hnothing : .nothing ∈ parts
    · rw [allOf_eq_nothing hnothing]
      exact hP.nothing
    · rw [allOf_eq_conjoined hnothing]
      refine hP.conjoined fun part hpart => ?_
      obtain ⟨whole, hwhole, hmem⟩ := List.mem_flatMap.mp hpart
      exact hP.of_mem_conjunctsOf (h whole hwhole) hmem
  someOf {parts} h := by
    by_cases heverything : .everything ∈ parts
    · rw [someOf_eq_everything heverything]
      exact hP.everything
    · rw [someOf_eq_disjoined heverything]
      refine hP.disjoined fun part hpart => ?_
      obtain ⟨whole, hwhole, hmem⟩ := List.mem_flatMap.mp hpart
      exact hP.of_mem_disjunctsOf (h whole hwhole) hmem
  not {part} h := by
    cases part with
    | everything => exact hP.nothing
    | nothing => exact hP.everything
    | negation inner => exact hP.negation.mp h
    | _ => exact hP.negation.mpr h

end Compositional

end EntityQuery.Predicate
