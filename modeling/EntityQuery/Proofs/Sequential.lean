import EntityQuery.Fault.Basic
import Mathlib.Data.List.Forall2

namespace EntityQuery

theorem bind_eq_ok_iff {α β : Type} {x : Except Fault α} {f : α → Except Fault β} {b : β} :
    (x >>= f) = .ok b ↔ ∃ a, x = .ok a ∧ f a = .ok b := by
  cases x <;> simp [bind, Except.bind]

theorem bind_eq_error_iff {α β : Type} {x : Except Fault α} {f : α → Except Fault β}
    {fault : Fault} :
    (x >>= f) = .error fault ↔ x = .error fault ∨ ∃ a, x = .ok a ∧ f a = .error fault := by
  cases x <;> simp [bind, Except.bind]

theorem exists_map_eq_ok_iff {α β : Type} {x : Except Fault α} {f : α → β} :
    (∃ b, (do return f (← x)) = (.ok b : Except Fault β)) ↔ ∃ a, x = .ok a := by
  cases x <;> simp [bind, Except.bind, pure, Except.pure]

theorem map_eq_error_iff {α β : Type} {x : Except Fault α} {f : α → β} {fault : Fault} :
    (do return f (← x)) = (.error fault : Except Fault β) ↔ x = .error fault := by
  cases x <;> simp [bind, Except.bind, pure, Except.pure]

theorem mapM_eq_ok_iff {α β : Type} {f : α → Except Fault β} {xs : List α} {ys : List β} :
    xs.mapM f = .ok ys ↔ List.Forall₂ (fun x y => f x = .ok y) xs ys := by
  induction xs generalizing ys with
  | nil => simp [pure, Except.pure, eq_comm]
  | cons x rest ih =>
    simp only [List.mapM_cons, bind_eq_ok_iff, List.forall₂_cons_left_iff, ih]
    simp [pure, Except.pure, eq_comm]

theorem exists_mapM_eq_ok_iff {α β : Type} {f : α → Except Fault β} {xs : List α} :
    (∃ ys, xs.mapM f = .ok ys) ↔ ∀ x ∈ xs, ∃ y, f x = .ok y := by
  induction xs with
  | nil => simp [pure, Except.pure]
  | cons x rest ih =>
    rw [List.forall_mem_cons, ← ih]
    simp [List.mapM_cons, bind_eq_ok_iff, pure, Except.pure]

/-- The first step that fails has the fault of the whole. -/
theorem mapM_eq_error_iff {α β : Type} {f : α → Except Fault β} {xs : List α} {fault : Fault} :
    xs.mapM f = .error fault ↔ ∃ before x after, xs = before ++ x :: after ∧
      (∀ y ∈ before, ∃ z, f y = .ok z) ∧ f x = .error fault := by
  induction xs with
  | nil => simp [pure, Except.pure]
  | cons x rest ih =>
    rw [List.mapM_cons]
    cases hx : f x with
    | error other =>
      constructor
      · intro h
        cases h
        exact ⟨[], x, rest, rfl, by simp, hx⟩
      · rintro ⟨_ | ⟨first, before⟩, y, after, hsplit, hbefore, hy⟩
        · cases hsplit
          rw [hx] at hy
          cases hy
          rfl
        · cases hsplit
          obtain ⟨z, hz⟩ := hbefore x List.mem_cons_self
          rw [hx] at hz
          cases hz
    | ok z =>
      change (do return z :: (← rest.mapM f)) = _ ↔ _
      rw [map_eq_error_iff, ih]
      constructor
      · rintro ⟨before, y, after, rfl, hbefore, hy⟩
        exact ⟨x :: before, y, after, rfl, List.forall_mem_cons.mpr ⟨⟨z, hx⟩, hbefore⟩, hy⟩
      · rintro ⟨_ | ⟨first, before⟩, y, after, hsplit, hbefore, hy⟩
        · cases hsplit
          rw [hx] at hy
          cases hy
        · cases hsplit
          exact ⟨before, y, after, rfl, (List.forall_mem_cons.mp hbefore).2, hy⟩

theorem mapM_eq_of_forall₂ {α β γ : Type} {f : α → Except Fault γ} {g : β → Except Fault γ}
    {xs : List α} {ys : List β} (h : List.Forall₂ (fun x y => f x = g y) xs ys) :
    xs.mapM f = ys.mapM g := by
  induction h with
  | nil => rfl
  | cons hhead _ ih => rw [List.mapM_cons, List.mapM_cons, hhead, ih]

theorem exists_of_forall₂_mem {α β : Type} {R : α → β → Prop} {xs : List α} {ys : List β}
    (h : List.Forall₂ R xs ys) {y : β} (hy : y ∈ ys) : ∃ x ∈ xs, R x y := by
  induction h with
  | nil => cases hy
  | cons hhead _ ih =>
    rcases List.mem_cons.mp hy with rfl | hrest
    · exact ⟨_, List.mem_cons_self, hhead⟩
    · obtain ⟨x, hx, hR⟩ := ih hrest
      exact ⟨x, List.mem_cons_of_mem _ hx, hR⟩

theorem forall_mem_iff_of_forall₂ {α β : Type} {R : α → β → Prop} {P : α → Prop} {Q : β → Prop}
    {xs : List α} {ys : List β} (h : List.Forall₂ R xs ys)
    (hiff : ∀ x ∈ xs, ∀ y, R x y → (P x ↔ Q y)) : (∀ x ∈ xs, P x) ↔ ∀ y ∈ ys, Q y := by
  induction h with
  | nil => simp
  | cons hhead _ ih =>
    rw [List.forall_mem_cons, List.forall_mem_cons, hiff _ List.mem_cons_self _ hhead,
      ih fun x hx => hiff x (List.mem_cons_of_mem _ hx)]

theorem exists_mem_iff_of_forall₂ {α β : Type} {R : α → β → Prop} {P : α → Prop} {Q : β → Prop}
    {xs : List α} {ys : List β} (h : List.Forall₂ R xs ys)
    (hiff : ∀ x ∈ xs, ∀ y, R x y → (P x ↔ Q y)) : (∃ x ∈ xs, P x) ↔ ∃ y ∈ ys, Q y := by
  induction h with
  | nil => simp
  | cons hhead _ ih =>
    rw [List.exists_mem_cons_iff, List.exists_mem_cons_iff, hiff _ List.mem_cons_self _ hhead,
      ih fun x hx => hiff x (List.mem_cons_of_mem _ hx)]

/-- Two lists of which each element of one is related to an element of the other, wherever that
    stands in it. -/
structure Covers {α β : Type} (R : α → β → Prop) (xs : List α) (ys : List β) : Prop where
  forth : ∀ x ∈ xs, ∃ y ∈ ys, R x y
  back : ∀ y ∈ ys, ∃ x ∈ xs, R x y

namespace Covers

variable {α β γ : Type} {R : α → β → Prop}

theorem append {xs xs' : List α} {ys ys' : List β} (h : Covers R xs ys) (h' : Covers R xs' ys') :
    Covers R (xs ++ xs') (ys ++ ys') where
  forth := List.forall_mem_append.mpr
    ⟨fun x hx => (h.forth x hx).imp fun _ hy => ⟨List.mem_append_left _ hy.1, hy.2⟩,
      fun x hx => (h'.forth x hx).imp fun _ hy => ⟨List.mem_append_right _ hy.1, hy.2⟩⟩
  back := List.forall_mem_append.mpr
    ⟨fun y hy => (h.back y hy).imp fun _ hx => ⟨List.mem_append_left _ hx.1, hx.2⟩,
      fun y hy => (h'.back y hy).imp fun _ hx => ⟨List.mem_append_right _ hx.1, hx.2⟩⟩

theorem flatten {xss : List (List α)} {yss : List (List β)} (h : Covers (Covers R) xss yss) :
    Covers R xss.flatten yss.flatten where
  forth := List.forall_mem_flatten.mpr fun xs hxs x hx => by
    obtain ⟨ys, hys, hcovers⟩ := h.forth xs hxs
    obtain ⟨y, hy, hR⟩ := hcovers.forth x hx
    exact ⟨y, List.mem_flatten.mpr ⟨ys, hys, hy⟩, hR⟩
  back := List.forall_mem_flatten.mpr fun ys hys y hy => by
    obtain ⟨xs, hxs, hcovers⟩ := h.back ys hys
    obtain ⟨x, hx, hR⟩ := hcovers.back y hy
    exact ⟨x, List.mem_flatten.mpr ⟨xs, hxs, hx⟩, hR⟩

/-- Results of related elements are related, wherever the elements stand. -/
theorem of_forall₂ {δ : Type} {P : α → γ → Prop} {Q : β → δ → Prop} {S : γ → δ → Prop}
    {xs : List α} {ys : List β} {zs : List γ} {others : List δ} (h : Covers R xs ys)
    (hxs : List.Forall₂ P xs zs) (hys : List.Forall₂ Q ys others)
    (hresults : ∀ x ∈ xs, ∀ y, R x y → ∀ z other, P x z → Q y other → S z other) :
    Covers S zs others where
  forth z hz := by
    obtain ⟨x, hx, hxz⟩ := exists_of_forall₂_mem hxs hz
    obtain ⟨y, hy, hR⟩ := h.forth x hx
    obtain ⟨other, hother, hyOther⟩ := exists_of_forall₂_mem hys.flip hy
    exact ⟨other, hother, hresults x hx y hR z other hxz hyOther⟩
  back other hother := by
    obtain ⟨y, hy, hyOther⟩ := exists_of_forall₂_mem hys hother
    obtain ⟨x, hx, hR⟩ := h.back y hy
    obtain ⟨z, hz, hxz⟩ := exists_of_forall₂_mem hxs.flip hx
    exact ⟨z, hz, hresults x hx y hR z other hxz hyOther⟩

end Covers

/-- Two results with the same fault, or with related values. -/
inductive Alike {α β : Type} (R : α → β → Prop) : Except Fault α → Except Fault β → Prop
  | ok {a : α} {b : β} (hab : R a b) : Alike R (.ok a) (.ok b)
  | error (fault : Fault) : Alike R (.error fault) (.error fault)

namespace Alike

variable {α β γ δ : Type} {R : α → β → Prop} {S : γ → δ → Prop}

theorem refl {x : Except Fault α} {R : α → α → Prop} (h : ∀ a, x = .ok a → R a a) :
    Alike R x x := by
  cases x with
  | ok a => exact .ok (h a rfl)
  | error fault => exact .error fault

theorem bind {x : Except Fault α} {y : Except Fault β} {f : α → Except Fault γ}
    {g : β → Except Fault δ} (hxy : Alike R x y) (hfg : ∀ a b, R a b → Alike S (f a) (g b)) :
    Alike S (x >>= f) (y >>= g) := by
  cases hxy with
  | ok hab => exact hfg _ _ hab
  | error fault => exact .error fault

theorem eq {R : α → α → Prop} {x y : Except Fault α} (hxy : Alike R x y)
    (heq : ∀ a b, R a b → a = b) : x = y := by
  cases hxy with
  | ok hab => rw [heq _ _ hab]
  | error fault => rfl

theorem exists_ok {x : Except Fault α} {b : β} (hxy : Alike R x (.ok b)) :
    ∃ a, x = .ok a ∧ R a b := by
  cases hxy with
  | ok hab => exact ⟨_, rfl, hab⟩

theorem eq_error {x : Except Fault α} {fault : Fault} (hxy : Alike R x (.error fault)) :
    x = .error fault := by
  cases hxy with
  | error => rfl

/-- Steps that make no difference between related values make two results equal. -/
theorem bind_eq {x : Except Fault α} {y : Except Fault β} {f : α → Except Fault γ}
    {g : β → Except Fault γ} (hxy : Alike R x y) (hfg : ∀ a b, R a b → f a = g b) :
    (x >>= f) = (y >>= g) := by
  cases hxy with
  | ok hab => exact hfg _ _ hab
  | error fault => rfl

theorem mapM {f : α → Except Fault γ} {g : β → Except Fault δ} {xs : List α} {ys : List β}
    (h : List.Forall₂ (fun x y => Alike S (f x) (g y)) xs ys) :
    Alike (List.Forall₂ S) (xs.mapM f) (ys.mapM g) := by
  induction h with
  | nil => exact .ok .nil
  | cons hhead _ ih =>
    rw [List.mapM_cons, List.mapM_cons]
    refine hhead.bind fun a b hab => ?_
    exact ih.bind fun rest others hrest => .ok (.cons hab hrest)

theorem mapM_of_mem {f : α → Except Fault γ} {g : α → Except Fault δ} {xs : List α}
    (h : ∀ x ∈ xs, Alike S (f x) (g x)) : Alike (List.Forall₂ S) (xs.mapM f) (xs.mapM g) :=
  mapM (List.forall₂_same.mpr h)

end Alike

/-- A relation between results that is kept when steps are taken one after the other. -/
structure Sequential (R : ∀ {α : Type}, Except Fault α → Except Fault α → Prop) : Prop where
  ok : ∀ {α : Type} (a : α), R (.ok a) (.ok a)
  bind : ∀ {α β : Type} {x y : Except Fault α} {f g : α → Except Fault β},
    R x y → (∀ a, R (f a) (g a)) → R (x >>= f) (y >>= g)

namespace Sequential

variable {R : ∀ {α : Type}, Except Fault α → Except Fault α → Prop} {α β : Type}

/-- Conversions of related results are related. -/
theorem map (hR : Sequential R) {x y : Except Fault α} (f : α → β) (hxy : R x y) :
    R (do return f (← x)) (do return f (← y)) :=
  hR.bind hxy fun a => hR.ok (f a)

theorem allM (hR : Sequential R) {f : α → Except Fault Bool} {g : β → Except Fault Bool}
    {xs : List α} {ys : List β} (h : List.Forall₂ (fun x y => R (f x) (g y)) xs ys) :
    R (xs.allM f) (ys.allM g) := by
  induction h with
  | nil => exact hR.ok true
  | cons hhead _ ih =>
    rw [List.allM_cons, List.allM_cons]
    refine hR.bind hhead fun verdict => ?_
    cases verdict with
    | true => exact ih
    | false => exact hR.ok false

theorem anyM (hR : Sequential R) {f : α → Except Fault Bool} {g : β → Except Fault Bool}
    {xs : List α} {ys : List β} (h : List.Forall₂ (fun x y => R (f x) (g y)) xs ys) :
    R (xs.anyM f) (ys.anyM g) := by
  induction h with
  | nil => exact hR.ok false
  | cons hhead _ ih =>
    rw [List.anyM_cons, List.anyM_cons]
    refine hR.bind hhead fun verdict => ?_
    cases verdict with
    | true => exact hR.ok true
    | false => exact ih

theorem allM_of_mem (hR : Sequential R) {f g : α → Except Fault Bool} {xs : List α}
    (h : ∀ x ∈ xs, R (f x) (g x)) : R (xs.allM f) (xs.allM g) :=
  hR.allM (List.forall₂_same.mpr h)

theorem anyM_of_mem (hR : Sequential R) {f g : α → Except Fault Bool} {xs : List α}
    (h : ∀ x ∈ xs, R (f x) (g x)) : R (xs.anyM f) (xs.anyM g) :=
  hR.anyM (List.forall₂_same.mpr h)

end Sequential

/-- Equality is kept by sequencing. -/
theorem sequential_eq : Sequential fun x y => x = y where
  ok _ := rfl
  bind := by
    intro α β x y f g hxy hfg
    rw [hxy, funext hfg]

/-- The second result is that of the first wherever the first is no fault. -/
def Refines {α : Type} (x y : Except Fault α) : Prop := ∀ a, x = .ok a → y = .ok a

theorem sequential_refines : Sequential Refines where
  ok _ := fun _ h => h
  bind := by
    intro α β x y f g hxy hfg b hb
    cases x with
    | error fault => cases hb
    | ok a =>
      rw [hxy a rfl]
      exact hfg a b hb

/-- Two results with the same value, or with faults of the same code. -/
def SameOutcome {α : Type} (x y : Except Fault α) : Prop :=
  x.mapError Fault.code = y.mapError Fault.code

theorem SameOutcome.ok_iff {α : Type} {x y : Except Fault α} (h : SameOutcome x y) (a : α) :
    x = .ok a ↔ y = .ok a := by
  cases x <;> cases y <;> simp_all [SameOutcome, Except.mapError]

theorem sequential_sameOutcome : Sequential SameOutcome where
  ok _ := rfl
  bind := by
    intro α β x y f g hxy hfg
    cases x with
    | error fault =>
      cases y with
      | error other =>
        simp only [SameOutcome, Except.mapError, Except.error.injEq] at hxy
        simp [SameOutcome, Except.mapError, bind, Except.bind, hxy]
      | ok b => simp [SameOutcome, Except.mapError] at hxy
    | ok a =>
      have hy : y = .ok a := (SameOutcome.ok_iff hxy a).mp rfl
      rw [hy]
      exact hfg a

/-- The second result is no fault at a missing entity, and it is the first one unless that is
    such a fault. -/
structure DropsNull {α : Type} (x y : Except Fault α) : Prop where
  eq_or_null : x = y ∨ ∃ path, x = .error (.nullNavigation path)
  ne_null : ∀ path, y ≠ .error (.nullNavigation path)

namespace DropsNull

variable {α : Type} {x y : Except Fault α}

theorem of_eq (h : ∀ path, x ≠ .error (.nullNavigation path)) : DropsNull x x := ⟨.inl rfl, h⟩

theorem ok (a : α) : DropsNull (.ok a) (.ok a) := of_eq fun _ h => nomatch h

theorem eq_of_ne_null (h : DropsNull x y) (hx : ∀ path, x ≠ .error (.nullNavigation path)) :
    x = y :=
  h.eq_or_null.resolve_right fun ⟨path, hnull⟩ => hx path hnull

theorem refines (h : DropsNull x y) : Refines x y := by
  rintro a rfl
  exact (h.eq_of_ne_null fun _ hnull => nomatch hnull).symm

end DropsNull

theorem sequential_dropsNull : Sequential DropsNull where
  ok := DropsNull.ok
  bind := by
    intro α β x y f g hxy hfg
    constructor
    · rcases hxy.eq_or_null with rfl | ⟨path, rfl⟩
      · cases x with
        | error fault => exact .inl rfl
        | ok a => exact (hfg a).eq_or_null
      · exact .inr ⟨path, rfl⟩
    · intro path
      cases y with
      | error fault =>
        intro h
        cases h
        exact hxy.ne_null path rfl
      | ok a => exact (hfg a).ne_null path

end EntityQuery
