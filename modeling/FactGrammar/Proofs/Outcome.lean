import Mathlib.Data.List.Forall2

namespace FactGrammar

variable {ε α β : Type}

theorem exists_of_bind_eq_ok {x : Except ε α} {g : α → Except ε β} (h : x >>= g = .ok b) :
    ∃ a, x = .ok a ∧ g a = .ok b := by
  cases x with
  | error e => cases h
  | ok a => exact ⟨a, rfl, h⟩

theorem exists_of_map_eq_ok {x : Except ε α} {f : α → β} (h : x.map f = .ok b) :
    ∃ a, x = .ok a ∧ f a = b := by
  cases x with
  | error e => cases h
  | ok a => exact ⟨a, rfl, Except.ok.inj h⟩

theorem forall₂_of_mapM_eq_ok {g : α → Except ε β} {xs : List α} (h : xs.mapM g = .ok ys) :
    List.Forall₂ (fun x y => g x = .ok y) xs ys := by
  induction xs generalizing ys with
  | nil =>
    cases h
    exact .nil
  | cons x xs ih =>
    rw [List.mapM_cons] at h
    obtain ⟨y, hy, h⟩ := exists_of_bind_eq_ok h
    obtain ⟨rest, hrest, h⟩ := exists_of_bind_eq_ok h
    cases h
    exact .cons hy (ih hrest)

theorem of_forM_eq_ok {g : α → Except ε Unit} {xs : List α} (h : xs.forM g = .ok ())
    (hmem : x ∈ xs) : g x = .ok () := by
  induction xs with
  | nil => cases hmem
  | cons y xs ih =>
    obtain ⟨_, hy, hrest⟩ := exists_of_bind_eq_ok h
    rcases List.mem_cons.1 hmem with rfl | hmem
    · exact hy
    · exact ih hrest hmem

theorem eq_of_map_eq {f : α → β} (hf : f.Injective) {x y : Except ε α} (h : x.map f = y.map f) :
    x = y := by
  cases x with
  | error e =>
    cases y with
    | error e' =>
      cases h
      rfl
    | ok b => cases h
  | ok a =>
    cases y with
    | error e' => cases h
    | ok b => exact congrArg _ (hf (Except.ok.inj h))

/-- The first defect as an error, or the value if there is no defect. -/
def judge : List ε → α → Except ε α
  | [], a => .ok a
  | e :: _, _ => .error e

theorem judge_of_head? {defects : List ε} (h : defects.head? = some e) (a : α) :
    judge defects a = .error e := by
  cases defects with
  | nil => cases h
  | cons _ _ =>
    cases h
    rfl

/-- The defects of a step stand before those of what follows it. What follows is done only if the
step has none. -/
theorem bind_eq_judge {x : Except ε α} {g : α → Except ε β} {defects defects' : List ε}
    (hx : x = judge defects a) (hg : defects = [] → g a = judge defects' b) :
    x >>= g = judge (defects ++ defects') b := by
  subst hx
  cases defects with
  | nil => exact hg rfl
  | cons _ _ => rfl

theorem mapM_eq_judge {g : α → Except ε β} {defects : α → List ε} {value : α → β}
    (h : ∀ x, g x = judge (defects x) (value x)) (xs : List α) :
    xs.mapM g = judge (xs.flatMap defects) (xs.map value) := by
  induction xs with
  | nil => rfl
  | cons x xs ih =>
    rw [List.mapM_cons, List.flatMap_cons, List.map_cons]
    have hrest : (xs.mapM g >>= fun rest => pure (value x :: rest)) =
        judge (xs.flatMap defects ++ []) (value x :: xs.map value) :=
      bind_eq_judge ih fun _ => rfl
    rw [List.append_nil] at hrest
    exact bind_eq_judge (h x) fun _ => hrest

/-- A step that has no value of its own is told by the one defect that it may have. -/
theorem forM_eq_judge {g : α → Except ε Unit} {defect? : α → Option ε}
    (h : ∀ x, g x = judge (defect? x).toList ()) (xs : List α) :
    xs.forM g = judge (xs.filterMap defect?) () := by
  induction xs with
  | nil => rfl
  | cons x xs ih =>
    have hstep : (x :: xs).forM g = judge ((defect? x).toList ++ xs.filterMap defect?) () :=
      bind_eq_judge (h x) fun _ => ih
    rw [hstep, List.filterMap_cons]
    cases defect? x with
    | none => rfl
    | some e => rfl

theorem foldlM_eq_judge {g : β → α → Except ε β} {defect? : α → Option ε} {next : β → α → β}
    (h : ∀ b x, g b x = judge (defect? x).toList (next b x)) (xs : List α) (b : β) :
    xs.foldlM g b = judge (xs.filterMap defect?) (xs.foldl next b) := by
  induction xs generalizing b with
  | nil => rfl
  | cons x xs ih =>
    have hstep : (x :: xs).foldlM g b =
        judge ((defect? x).toList ++ xs.filterMap defect?) (xs.foldl next (next b x)) := by
      rw [List.foldlM_cons]
      exact bind_eq_judge (h b x) fun _ => ih _
    rw [hstep, List.filterMap_cons, List.foldl_cons]
    cases defect? x with
    | none => rfl
    | some e => rfl

/-- An outcome that follows from a property of values and a list of defects: the only value with the
property if there is no defect, and else the first defect. -/
inductive Answers (property : α → Prop) (defects : List ε) : Except ε α → Prop
  | ok (hnone : defects = []) (hvalue : ∀ b, property b ↔ b = a) : Answers property defects (.ok a)
  | error (hfirst : defects.head? = some e) (hvalue : ∀ b, ¬ property b) :
    Answers property defects (.error e)

namespace Answers

variable {property property' : α → Prop} {defects : List ε} {x : Except ε α}

theorem eq_ok_iff (h : Answers property defects x) : x = .ok a ↔ property a := by
  cases h with
  | ok hnone hvalue =>
    rw [hvalue, Except.ok.injEq]
    exact eq_comm
  | error hfirst hvalue => exact ⟨nofun, fun ha => absurd ha (hvalue a)⟩

theorem eq_error_iff (h : Answers property defects x) : x = .error e ↔ defects.head? = some e := by
  cases h with
  | ok hnone hvalue =>
    rw [hnone]
    exact ⟨nofun, nofun⟩
  | error hfirst hvalue => rw [hfirst, Except.error.injEq, Option.some.injEq]

theorem exists_ok_iff (h : Answers property defects x) : (∃ a, x = .ok a) ↔ defects = [] := by
  cases h with
  | @ok a hnone hvalue => exact ⟨fun _ => hnone, fun _ => ⟨a, rfl⟩⟩
  | error hfirst hvalue =>
    refine ⟨nofun, fun hnil => ?_⟩
    rw [hnil] at hfirst
    cases hfirst

theorem of_iff (h : Answers property defects x) (hiff : ∀ a, property' a ↔ property a) :
    Answers property' defects x := by
  cases h with
  | ok hnone hvalue => exact .ok hnone fun b => (hiff b).trans (hvalue b)
  | error hfirst hvalue => exact .error hfirst fun b hb => hvalue b ((hiff b).1 hb)

/-- Of two outcomes the first error counts, and if there is none, both values do. -/
theorem pair {property' : β → Prop} {defects' : List ε} {y : Except ε β}
    (hx : Answers property defects x) (hy : Answers property' defects' y) :
    Answers (fun b => property b.1 ∧ property' b.2) (defects ++ defects')
      (Prod.mk <$> x <*> y) := by
  cases hx with
  | error hfirst hvalue =>
    refine .error ?_ fun b hb => hvalue b.1 hb.1
    rw [List.head?_append, hfirst]
    rfl
  | ok hnone hvalue =>
    rw [hnone, List.nil_append]
    cases hy with
    | error hfirst' hvalue' => exact .error hfirst' fun b hb => hvalue' b.2 hb.2
    | ok hnone' hvalue' =>
      refine .ok hnone' ?_
      intro b
      rw [hvalue, hvalue', Prod.ext_iff]

theorem of_map {f : β → α} {y : Except ε β} (hf : f.Injective)
    (h : Answers property defects (y.map f)) : Answers (fun b => property (f b)) defects y := by
  cases y with
  | error e =>
    cases h with
    | error hfirst hvalue => exact .error hfirst fun b => hvalue (f b)
  | ok a =>
    cases h with
    | ok hnone hvalue => exact .ok hnone fun b => (hvalue (f b)).trans hf.eq_iff

end Answers

end FactGrammar
