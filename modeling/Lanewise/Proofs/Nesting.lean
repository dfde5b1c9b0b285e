import Lanewise.Line

namespace Lanewise
set_option autoImplicit true

/-- What a piece of code does to the nesting of conditionals. -/
inductive Shape where
  | plain
  | openIf
  | openElse
  | closeIf
  deriving DecidableEq, Repr

/-- Assignments and returns are plain. -/
def Statement.shape : Statement → Shape
  | .assign _ _ => .plain
  | .openIf _ => .openIf
  | .openElse => .openElse
  | .closeIf => .closeIf
  | .leave => .plain

/-- The grammar of code in which every conditional is closed and has at most one `else`. -/
inductive Balanced : List Shape → Prop
  | empty : Balanced []
  | plain : Balanced ys → Balanced (.plain :: ys)
  | when : Balanced xs → Balanced ys → Balanced (.openIf :: (xs ++ .closeIf :: ys))
  | choose : Balanced xs → Balanced zs → Balanced ys →
      Balanced (.openIf :: (xs ++ .openElse :: (zs ++ .closeIf :: ys)))

theorem Balanced.append (hx : Balanced xs) (hy : Balanced ys) : Balanced (xs ++ ys) := by
  induction hx with
  | empty => exact hy
  | plain _ ih => exact .plain ih
  | when hb _ _ ih =>
    simp only [List.cons_append, List.append_assoc]
    exact .when hb ih
  | choose hb hn _ _ _ ih =>
    simp only [List.cons_append, List.append_assoc]
    exact .choose hb hn ih

theorem map_eq_append_cons {f : α → β} {l : List α} (h : l.map f = xs ++ y :: ys) :
    ∃ body c after, l = body ++ c :: after ∧ body.map f = xs ∧ f c = y ∧ after.map f = ys := by
  obtain ⟨body, tail, rfl, hbody, ht⟩ := List.map_eq_append_iff.1 h
  obtain ⟨c, after, rfl, hc, hafter⟩ := List.map_eq_cons_iff.1 ht
  exact ⟨body, c, after, rfl, hbody, hc, hafter⟩

/-- The arms of a conditional. -/
inductive Arm where
  | yes
  | no
  deriving DecidableEq, Repr

/-- The arms around the code behind a shape, the innermost first. -/
def Shape.nest (arms : List Arm) : Shape → Option (List Arm)
  | .plain => some arms
  | .openIf => some (.yes :: arms)
  | .openElse =>
    match arms with
    | .yes :: outer => some (.no :: outer)
    | _ => none
  | .closeIf =>
    match arms with
    | _ :: outer => some outer
    | [] => none

/-- The arms that are open behind a sequence; nothing if an `else` or an end has no conditional. -/
def nesting (arms : List Arm) (xs : List Shape) : Option (List Arm) := xs.foldlM Shape.nest arms

@[simp] theorem nesting_nil (arms : List Arm) : nesting arms [] = some arms := rfl

@[simp] theorem nesting_cons (arms : List Arm) (x : Shape) (xs : List Shape) :
    nesting arms (x :: xs) = (x.nest arms).bind (nesting · xs) := rfl

theorem nesting_append (arms : List Arm) (xs ys : List Shape) :
    nesting arms (xs ++ ys) = (nesting arms xs).bind (nesting · ys) :=
  List.foldlM_append

theorem Balanced.nesting_eq (h : Balanced xs) (arms : List Arm) : nesting arms xs = some arms := by
  induction h generalizing arms with
  | empty => rfl
  | plain _ ih => exact ih arms
  | when _ _ ihb ih => simp [nesting_append, Shape.nest, ihb, ih]
  | choose _ _ _ ihb ihn ih => simp [nesting_append, Shape.nest, ihb, ihn, ih]

/-- Balanced code does not go on behind the arm that it fills. -/
theorem Balanced.not_append_arm_end (h : Balanced xs)
    (hx : x = .openElse ∨ x = .closeIf) : ¬ Balanced (xs ++ x :: ys) := by
  intro hl
  have he := hl.nesting_eq []
  rw [nesting_append, h.nesting_eq] at he
  rcases hx with rfl | rfl <;> cases he

/-- The end of an arm is the first one that leaves balanced code before it. -/
theorem Balanced.arm_unique (hx : x = .openElse ∨ x = .closeIf)
    (hy : y = .openElse ∨ y = .closeIf) (hxs : Balanced xs) (hys : Balanced ys)
    (h : xs ++ x :: before = ys ++ y :: after) : xs = ys := by
  obtain ⟨cs, hc, hr⟩ | ⟨cs, hc, hr⟩ := List.append_eq_append_iff.1 h
  · cases cs with
    | nil => exact (List.append_nil xs ▸ hc).symm
    | cons c cs =>
      cases hr
      rw [hc] at hys
      exact absurd hys (hxs.not_append_arm_end hx)
  · cases cs with
    | nil => exact List.append_nil ys ▸ hc
    | cons c cs =>
      cases hr
      rw [hc] at hxs
      exact absurd hxs (hys.not_append_arm_end hy)

/-- Code inside open arms: balanced code, then for each arm its opening and what it holds so far. -/
inductive Opened : List Arm → List Shape → Prop
  | closed : Balanced xs → Opened [] xs
  | yes : Opened arms before → Balanced xs →
      Opened (.yes :: arms) (before ++ .openIf :: xs)
  | no : Opened arms before → Balanced xs → Balanced zs →
      Opened (.no :: arms) (before ++ .openIf :: (xs ++ .openElse :: zs))

theorem Opened.append (h : Opened arms before) (hx : Balanced xs) :
    Opened arms (before ++ xs) := by
  cases h with
  | closed hb => exact .closed (hb.append hx)
  | yes ho hb =>
    simp only [List.append_assoc, List.cons_append]
    exact .yes ho (hb.append hx)
  | no ho hb hn =>
    simp only [List.append_assoc, List.cons_append]
    exact .no ho hb (hn.append hx)

theorem Opened.nest (h : Opened arms before)
    (hx : x.nest arms = some arms') : Opened arms' (before ++ [x]) := by
  cases x with
  | plain =>
    cases hx
    exact h.append (.plain .empty)
  | openIf =>
    cases hx
    exact .yes h .empty
  | openElse =>
    cases h with
    | closed => cases hx
    | yes ho hb =>
      cases hx
      simp only [List.append_assoc, List.cons_append]
      exact .no ho hb .empty
    | no => cases hx
  | closeIf =>
    cases h with
    | closed => cases hx
    | yes ho hb =>
      cases hx
      simp only [List.append_assoc, List.cons_append]
      exact ho.append (.when hb .empty)
    | no ho hb hn =>
      cases hx
      simp only [List.append_assoc, List.cons_append]
      exact ho.append (.choose hb hn .empty)

theorem Opened.nesting_eq (h : Opened arms xs) : nesting [] xs = some arms := by
  induction h with
  | closed hb => exact hb.nesting_eq []
  | yes _ hb ih => simp [nesting_append, ih, Shape.nest, hb.nesting_eq]
  | no _ hb hn ih => simp [nesting_append, ih, Shape.nest, hb.nesting_eq, hn.nesting_eq]

theorem Opened.nesting (h : Opened arms before)
    (hx : nesting arms xs = some arms') : Opened arms' (before ++ xs) := by
  induction xs generalizing arms before with
  | nil =>
    cases hx
    rwa [List.append_nil]
  | cons x xs ih =>
    obtain ⟨inner, hn, hx⟩ := Option.bind_eq_some_iff.1 hx
    have ho := ih (h.nest hn) hx
    rwa [List.append_assoc] at ho

/-- The stack of open arms recognizes the grammar and the prefixes of its sentences. -/
theorem nesting_eq_some_iff : nesting [] xs = some arms ↔ Opened arms xs :=
  ⟨fun h => (Opened.closed .empty).nesting h, Opened.nesting_eq⟩

theorem balanced_iff_nesting : Balanced xs ↔ nesting [] xs = some [] := by
  refine ⟨fun h => h.nesting_eq [], fun h => ?_⟩
  cases nesting_eq_some_iff.1 h with
  | closed hb => exact hb

/-- Whether code ends inside the first arm of a conditional. -/
def InIf (xs : List Shape) : Prop :=
  ∃ outer body, xs = outer ++ .openIf :: body ∧ Balanced body

/-- Whether code ends inside the second arm of a conditional. -/
def InElse (xs : List Shape) : Prop :=
  ∃ outer yes no, xs = outer ++ .openIf :: (yes ++ .openElse :: no) ∧ Balanced yes ∧ Balanced no

theorem Opened.inIf_iff (h : Opened arms xs) : InIf xs ↔ ∃ outer, arms = .yes :: outer := by
  constructor
  · rintro ⟨outer, body, rfl, hb⟩
    have hn := h.nesting_eq
    rw [nesting_append] at hn
    obtain ⟨around, _, hn⟩ := Option.bind_eq_some_iff.1 hn
    have he : some (.yes :: around) = some arms := (hb.nesting_eq _).symm.trans hn
    exact ⟨around, (Option.some.inj he).symm⟩
  · rintro ⟨outer, rfl⟩
    cases h with
    | yes _ hb => exact ⟨_, _, rfl, hb⟩

theorem Opened.inElse_iff (h : Opened arms xs) : InElse xs ↔ ∃ outer, arms = .no :: outer := by
  constructor
  · rintro ⟨outer, yes, no, rfl, hy, hn⟩
    have he := h.nesting_eq
    rw [nesting_append] at he
    obtain ⟨around, _, he⟩ := Option.bind_eq_some_iff.1 he
    simp only [nesting_cons, nesting_append, Shape.nest, hy.nesting_eq, hn.nesting_eq,
      Option.bind_some, Option.some.injEq] at he
    exact ⟨around, he.symm⟩
  · rintro ⟨outer, rfl⟩
    cases h with
    | no _ hy hn => exact ⟨_, _, _, rfl, hy, hn⟩

end Lanewise
