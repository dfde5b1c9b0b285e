import Lanewise.Expr.Basic
import Mathlib.Data.List.Forall2

namespace Lanewise
set_option autoImplicit true

theorem bind_eq_ok_iff {x : Except ε α} {f : α → Except ε β} :
    x >>= f = .ok b ↔ ∃ a, x = .ok a ∧ f a = .ok b := by
  cases x with
  | error e =>
    constructor
    · intro h
      cases h
    · rintro ⟨a, ha, _⟩
      cases ha
  | ok a =>
    refine ⟨fun h => ⟨a, rfl, h⟩, ?_⟩
    rintro ⟨_, ha, h⟩
    cases ha
    exact h

theorem bind_eq_error_iff {x : Except ε α} {f : α → Except ε β} :
    x >>= f = .error e ↔ x = .error e ∨ ∃ a, x = .ok a ∧ f a = .error e := by
  cases x with
  | error e' =>
    refine ⟨fun h => .inl (by cases h; rfl), ?_⟩
    rintro (h | ⟨a, ha, _⟩)
    · cases h; rfl
    · cases ha
  | ok a =>
    refine ⟨fun h => .inr ⟨a, rfl, h⟩, ?_⟩
    rintro (h | ⟨_, ha, h⟩)
    · cases h
    · cases ha; exact h

theorem exists_eq_ok_iff {x : Except ε α} : (∃ a, x = .ok a) ↔ ∀ e, x ≠ .error e := by
  cases x with
  | error e => exact ⟨fun ⟨_, h⟩ => (nomatch h), fun h => absurd rfl (h e)⟩
  | ok a => exact ⟨fun _ _ h => (nomatch h), fun _ => ⟨a, rfl⟩⟩

/-- The first element of a list on which a function fails, fails with this error. -/
def FirstError (f : α → Except ε β) (xs : List α) (e : ε) : Prop :=
  ∃ before a after, xs = before ++ a :: after ∧ (∀ x ∈ before, ∃ y, f x = .ok y) ∧ f a = .error e

theorem firstError_cons {f : α → Except ε β} :
    FirstError f (x :: xs) e ↔ f x = .error e ∨ (∃ y, f x = .ok y) ∧ FirstError f xs e := by
  constructor
  · rintro ⟨before, a, after, he, hb, ha⟩
    cases before with
    | nil =>
      cases he
      exact .inl ha
    | cons y before =>
      cases he
      rw [List.forall_mem_cons] at hb
      exact .inr ⟨hb.1, before, a, after, rfl, hb.2, ha⟩
  · rintro (h | ⟨hx, before, a, after, rfl, hb, ha⟩)
    · exact ⟨[], x, xs, rfl, List.forall_mem_nil _, h⟩
    · exact ⟨x :: before, a, after, rfl, List.forall_mem_cons.2 ⟨hx, hb⟩, ha⟩

theorem mapM_eq_error_iff {f : α → Except ε β} {xs : List α} :
    xs.mapM f = .error e ↔ FirstError f xs e := by
  induction xs with
  | nil =>
    constructor
    · intro h
      cases h
    · rintro ⟨before, a, after, h, _⟩
      cases before <;> cases h
  | cons x xs ih =>
    rw [List.mapM_cons, bind_eq_error_iff, firstError_cons]
    refine or_congr_right ⟨?_, ?_⟩
    · rintro ⟨y, hy, h⟩
      rcases bind_eq_error_iff.1 h with h | ⟨ys, _, h⟩
      · exact ⟨⟨y, hy⟩, ih.1 h⟩
      · cases h
    · rintro ⟨⟨y, hy⟩, h⟩
      exact ⟨y, hy, bind_eq_error_iff.2 (.inl (ih.2 h))⟩

theorem mapM_eq_ok_iff {f : α → Except ε β} {xs : List α} {ys : List β} :
    xs.mapM f = .ok ys ↔ List.Forall₂ (fun x y => f x = .ok y) xs ys := by
  induction xs generalizing ys with
  | nil =>
    rw [List.forall₂_nil_left_iff]
    exact ⟨fun h => by cases h; rfl, fun h => by cases h; rfl⟩
  | cons x xs ih =>
    rw [List.mapM_cons, bind_eq_ok_iff, List.forall₂_cons_left_iff]
    constructor
    · rintro ⟨y, hy, h⟩
      obtain ⟨tail, ht, h⟩ := bind_eq_ok_iff.1 h
      cases h
      exact ⟨y, tail, hy, ih.1 ht, rfl⟩
    · rintro ⟨y, tail, hy, ht, rfl⟩
      exact ⟨y, hy, bind_eq_ok_iff.2 ⟨tail, ih.2 ht, rfl⟩⟩

theorem exists_right_of_forall₂ {R : α → β → Prop} (h : List.Forall₂ R xs ys) (hx : x ∈ xs) :
    ∃ y ∈ ys, R x y := by
  induction h with
  | nil => cases hx
  | cons hr _ ih =>
    rcases List.mem_cons.1 hx with rfl | hx
    · exact ⟨_, List.mem_cons_self, hr⟩
    · obtain ⟨y, hy, hr⟩ := ih hx
      exact ⟨y, List.mem_cons_of_mem _ hy, hr⟩

theorem exists_left_of_forall₂ {R : α → β → Prop} (h : List.Forall₂ R xs ys) (hy : y ∈ ys) :
    ∃ x ∈ xs, R x y :=
  exists_right_of_forall₂ (R := flip R) h.flip hy

theorem exists_mapM_eq_ok_iff {f : α → Except ε β} {xs : List α} :
    (∃ ys, xs.mapM f = .ok ys) ↔ ∀ x ∈ xs, ∃ y, f x = .ok y := by
  constructor
  · rintro ⟨ys, h⟩ x hx
    obtain ⟨y, _, hy⟩ := exists_right_of_forall₂ (mapM_eq_ok_iff.1 h) hx
    exact ⟨y, hy⟩
  · intro h
    cases hm : xs.mapM f with
    | ok ys => exact ⟨ys, rfl⟩
    | error e =>
      obtain ⟨before, a, after, rfl, _, ha⟩ := mapM_eq_error_iff.1 hm
      obtain ⟨y, hy⟩ := h a (List.mem_append_right _ List.mem_cons_self)
      cases hy.symm.trans ha

theorem exists_firstError_iff {f : α → Except ε β} {xs : List α} :
    (∃ e, FirstError f xs e) ↔ ∃ x ∈ xs, ∃ e, f x = .error e := by
  rw [← not_iff_not]
  simp only [← mapM_eq_error_iff, not_exists, not_and]
  rw [← exists_eq_ok_iff, exists_mapM_eq_ok_iff]
  simp only [exists_eq_ok_iff, ne_eq]

/-- A fold fails at the first element that its step refuses. -/
theorem foldlM_eq_error_iff {f : β → α → Except ε β} {xs : List α} :
    xs.foldlM f b = .error e ↔ ∃ before x after c, xs = before ++ x :: after ∧
      before.foldlM f b = .ok c ∧ f c x = .error e := by
  constructor
  · intro h
    induction xs generalizing b with
    | nil => cases h
    | cons x xs ih =>
      rw [List.foldlM_cons, bind_eq_error_iff] at h
      rcases h with h | ⟨c, hc, h⟩
      · exact ⟨[], x, xs, b, rfl, rfl, h⟩
      · obtain ⟨before, y, after, d, rfl, hd, hy⟩ := ih h
        exact ⟨x :: before, y, after, d, rfl, bind_eq_ok_iff.2 ⟨c, hc, hd⟩, hy⟩
  · rintro ⟨before, x, after, c, rfl, hc, hx⟩
    rw [List.foldlM_append, bind_eq_error_iff]
    exact .inr ⟨c, hc, bind_eq_error_iff.2 (.inl hx)⟩

namespace Expr

/-- Mapping an expression succeeds and fails as mapping the list of its leaves does. -/
theorem map_leaves_tryMap (f : α → Except ε β) (e : Expr α) :
    leaves <$> e.tryMap f = e.leaves.mapM f := by
  induction e with
  | leaf a => simp [tryMap, leaves]
  | unary fn x ih => simp [tryMap, leaves, ← ih]
  | binary fn a b iha ihb => simp [tryMap, leaves, ← iha, ← ihb]
  | select c n o ihc ihn iho => simp [tryMap, leaves, ← ihc, ← ihn, ← iho]
  | sample u v l n ihu ihv ihl => simp [tryMap, leaves, ← ihu, ← ihv, ← ihl]

theorem forall₂_leaves_of_tryMap {f : α → Except ε β} {e : Expr α} (h : e.tryMap f = .ok e') :
    List.Forall₂ (fun a x => f a = .ok x) e.leaves e'.leaves := by
  rw [← mapM_eq_ok_iff, ← map_leaves_tryMap, h]
  rfl

theorem exists_tryMap_eq_ok_iff {f : α → Except ε β} {e : Expr α} :
    (∃ e', e.tryMap f = .ok e') ↔ ∀ a ∈ e.leaves, ∃ x, f a = .ok x := by
  rw [← exists_mapM_eq_ok_iff, ← map_leaves_tryMap]
  cases e.tryMap f with
  | ok e' => exact ⟨fun _ => ⟨_, rfl⟩, fun _ => ⟨_, rfl⟩⟩
  | error err => exact ⟨fun ⟨_, h⟩ => (nomatch h), fun ⟨_, h⟩ => (nomatch h)⟩

theorem tryMap_eq_error_iff {f : α → Except ε β} {e : Expr α} :
    e.tryMap f = .error err ↔ FirstError f e.leaves err := by
  rw [← mapM_eq_error_iff, ← map_leaves_tryMap]
  cases e.tryMap f with
  | ok e' => exact ⟨fun h => (nomatch h), fun h => (nomatch h)⟩
  | error err' => exact ⟨fun h => congrArg _ h, fun h => by cases h; rfl⟩

/-- A mapped expression has the value of the original if its leaves do. -/
theorem eval_tryMap {f : α → Except ε β} {e : Expr α} {v : α → Float32} {w : β → Float32}
    (h : e.tryMap f = .ok e') (hv : ∀ a x, f a = .ok x → v a = w x) (sampler : Sampler) :
    e.eval sampler v = e'.eval sampler w := by
  induction e generalizing e' with
  | leaf a =>
    obtain ⟨x, hx, h⟩ := bind_eq_ok_iff.1 h
    cases h
    exact hv a x hx
  | unary fn x ih =>
    obtain ⟨x', hx, h⟩ := bind_eq_ok_iff.1 h
    cases h
    simp only [eval, ih hx]
  | binary fn a b iha ihb =>
    obtain ⟨a', ha, h⟩ := bind_eq_ok_iff.1 h
    obtain ⟨b', hb, h⟩ := bind_eq_ok_iff.1 h
    cases h
    simp only [eval, iha ha, ihb hb]
  | select c n o ihc ihn iho =>
    obtain ⟨c', hc, h⟩ := bind_eq_ok_iff.1 h
    obtain ⟨n', hn, h⟩ := bind_eq_ok_iff.1 h
    obtain ⟨o', ho, h⟩ := bind_eq_ok_iff.1 h
    cases h
    simp only [eval, ihc hc, ihn hn, iho ho]
  | sample u v l n ihu ihv ihl =>
    obtain ⟨u', hu, h⟩ := bind_eq_ok_iff.1 h
    obtain ⟨v', hv, h⟩ := bind_eq_ok_iff.1 h
    obtain ⟨l', hl, h⟩ := bind_eq_ok_iff.1 h
    cases h
    simp only [eval, ihu hu, ihv hv, ihl hl]

end Expr

end Lanewise
