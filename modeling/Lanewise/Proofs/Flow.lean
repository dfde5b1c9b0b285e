import Lanewise.Proofs.Nesting
import Mathlib.Data.List.Forall2

namespace Lanewise
set_option autoImplicit true

/-- A piece of code by its effect on a state, or the mark of control flow that it is. -/
inductive Action (σ : Type) where
  | step (f : σ → σ)
  | openIf (taken : σ → Bool)
  | openElse
  | closeIf
  | leave

def Action.shape : Action σ → Shape
  | .step _ => .plain
  | .openIf _ => .openIf
  | .openElse => .openElse
  | .closeIf => .closeIf
  | .leave => .plain

/-- Big-step runs of structured code. A conditional runs one of its arms and then what follows it;
a return abandons everything behind it, the rest of the arms around it included. -/
inductive Runs {σ : Type} : List (Action σ) → σ → σ → Prop
  | done : Runs [] s s
  | step : Runs rest (f s) t → Runs (.step f :: rest) s t
  | leave : Runs (.leave :: rest) s s
  | when : Balanced (body.map Action.shape) →
      Runs ((if taken s then body else []) ++ rest) s t →
      Runs (.openIf taken :: (body ++ .closeIf :: rest)) s t
  | choose : Balanced (yes.map Action.shape) → Balanced (no.map Action.shape) →
      Runs ((if taken s then yes else no) ++ rest) s t →
      Runs (.openIf taken :: (yes ++ .openElse :: (no ++ .closeIf :: rest))) s t

theorem Action.shape_eq_openIf {a : Action σ} (h : a.shape = .openIf) : ∃ taken, a = .openIf taken := by
  cases a with
  | openIf taken => exact ⟨taken, rfl⟩
  | step | openElse | closeIf | leave => cases h

theorem Action.shape_eq_openElse {a : Action σ} (h : a.shape = .openElse) : a = .openElse := by
  cases a with
  | openElse => rfl
  | step | openIf | closeIf | leave => cases h

theorem Action.shape_eq_closeIf {a : Action σ} (h : a.shape = .closeIf) : a = .closeIf := by
  cases a with
  | closeIf => rfl
  | step | openIf | openElse | leave => cases h

/-- Code has only one way to split off the arm that it starts with. -/
theorem Action.arm_unique {xs ys : List (Action σ)} {x y : Action σ}
    (hx : x.shape = .openElse ∨ x.shape = .closeIf) (hy : y.shape = .openElse ∨ y.shape = .closeIf)
    (hxs : Balanced (xs.map Action.shape)) (hys : Balanced (ys.map Action.shape))
    (h : xs ++ x :: before = ys ++ y :: after) : xs = ys ∧ x = y ∧ before = after := by
  have hm := congrArg (List.map Action.shape) h
  simp only [List.map_append, List.map_cons] at hm
  have hl := congrArg List.length (Balanced.arm_unique hx hy hxs hys hm)
  simp only [List.length_map] at hl
  obtain ⟨he, ht⟩ := List.append_inj h hl
  obtain ⟨hxy, hr⟩ := List.cons.inj ht
  exact ⟨he, hxy, hr⟩

theorem Runs.openIf_cases {tail : List (Action σ)} (h : Runs (.openIf taken :: tail) s t) :
    (∃ body rest, tail = body ++ .closeIf :: rest ∧ Balanced (body.map Action.shape) ∧
      Runs ((if taken s then body else []) ++ rest) s t) ∨
    ∃ yes no rest, tail = yes ++ .openElse :: (no ++ .closeIf :: rest) ∧
      Balanced (yes.map Action.shape) ∧ Balanced (no.map Action.shape) ∧
      Runs ((if taken s then yes else no) ++ rest) s t := by
  cases h with
  | when hb hr => exact .inl ⟨_, _, rfl, hb, hr⟩
  | choose hy hn hr => exact .inr ⟨_, _, _, rfl, hy, hn, hr⟩

theorem Runs.deterministic {as : List (Action σ)} (h : Runs as s t) (h' : Runs as s u) : t = u := by
  induction h with
  | done =>
    cases h'
    rfl
  | step _ ih =>
    cases h' with
    | step hr => exact ih hr
  | leave =>
    cases h'
    rfl
  | when hb _ ih =>
    obtain ⟨_, _, he, hb', hr⟩ | ⟨_, _, _, he, hy, _, _⟩ := h'.openIf_cases
    · obtain ⟨rfl, _, rfl⟩ := Action.arm_unique (.inr rfl) (.inr rfl) hb hb' he
      exact ih hr
    · obtain ⟨_, hc, _⟩ := Action.arm_unique (.inr rfl) (.inl rfl) hb hy he
      cases hc
  | choose hy hn _ ih =>
    obtain ⟨_, _, he, hb, _⟩ | ⟨_, _, _, he, hy', hn', hr⟩ := h'.openIf_cases
    · obtain ⟨_, hc, _⟩ := Action.arm_unique (.inl rfl) (.inr rfl) hy hb he
      cases hc
    · obtain ⟨rfl, _, he⟩ := Action.arm_unique (.inl rfl) (.inl rfl) hy hy' he
      obtain ⟨rfl, _, rfl⟩ := Action.arm_unique (.inr rfl) (.inr rfl) hn hn' he
      exact ih hr

/-- Balanced code runs from every state if what follows it does. -/
theorem Balanced.runs_append {as rest : List (Action σ)} (h : Balanced xs)
    (he : as.map Action.shape = xs) (hr : ∀ s, ∃ t, Runs rest s t) (s : σ) :
    ∃ t, Runs (as ++ rest) s t := by
  induction h generalizing as rest s with
  | empty =>
    rw [List.map_eq_nil_iff] at he
    subst he
    exact hr s
  | plain _ ih =>
    obtain ⟨a, tail, rfl, ha, ht⟩ := List.map_eq_cons_iff.1 he
    cases a with
    | step f =>
      obtain ⟨t, h⟩ := ih ht hr (f s)
      exact ⟨t, .step h⟩
    | leave => exact ⟨s, .leave⟩
    | openIf | openElse | closeIf => cases ha
  | when hb _ ihb ih =>
    obtain ⟨a, tail, rfl, ha, ht⟩ := List.map_eq_cons_iff.1 he
    obtain ⟨body, c, after, rfl, hbody, hc, hafter⟩ := map_eq_append_cons ht
    obtain ⟨taken, rfl⟩ := Action.shape_eq_openIf ha
    obtain rfl := Action.shape_eq_closeIf hc
    have hnext : ∃ t, Runs ((if taken s then body else []) ++ (after ++ rest)) s t := by
      split
      · exact ihb hbody (ih hafter hr) s
      · exact ih hafter hr s
    obtain ⟨t, h⟩ := hnext
    refine ⟨t, ?_⟩
    simp only [List.cons_append, List.append_assoc]
    exact .when (hbody ▸ hb) h
  | choose hy hn _ ihy ihn ih =>
    obtain ⟨a, tail, rfl, ha, ht⟩ := List.map_eq_cons_iff.1 he
    obtain ⟨yes, c, tail, rfl, hyes, hc, harm⟩ := map_eq_append_cons ht
    obtain ⟨no, d, after, rfl, hno, hd, hafter⟩ := map_eq_append_cons harm
    obtain ⟨taken, rfl⟩ := Action.shape_eq_openIf ha
    obtain rfl := Action.shape_eq_openElse hc
    obtain rfl := Action.shape_eq_closeIf hd
    have hnext : ∃ t, Runs ((if taken s then yes else no) ++ (after ++ rest)) s t := by
      split
      · exact ihy hyes (ih hafter hr) s
      · exact ihn hno (ih hafter hr) s
    obtain ⟨t, h⟩ := hnext
    refine ⟨t, ?_⟩
    simp only [List.cons_append, List.append_assoc]
    exact .choose (hyes ▸ hy) (hno ▸ hn) h

theorem Runs.exists_of_balanced {as : List (Action σ)} (h : Balanced (as.map Action.shape))
    (s : σ) : ∃ t, Runs as s t := by
  have hr : ∀ s : σ, ∃ t, Runs [] s t := fun s => ⟨s, .done⟩
  obtain ⟨t, ht⟩ := h.runs_append rfl hr s
  rw [List.append_nil] at ht
  exact ⟨t, ht⟩

/-- Whether a block of actions on one kind of state does what an action does on another, where `R`
relates the states. -/
inductive Action.Refines {σ τ : Type} (R : σ → τ → Prop) : Action σ → List (Action τ) → Prop
  | step {f : σ → σ} {fs : List (τ → τ)} :
      (∀ s t, R s t → R (f s) (fs.foldl (fun t g => g t) t)) → Refines R (.step f) (fs.map .step)
  | openIf {taken : σ → Bool} {taken' : τ → Bool} : (∀ s t, R s t → taken' t = taken s) →
      Refines R (.openIf taken) [.openIf taken']
  | openElse : Refines R .openElse [.openElse]
  | closeIf : Refines R .closeIf [.closeIf]
  | leave : Refines R .leave [.leave]

theorem nesting_steps (arms : List Arm) (fs : List (τ → τ)) :
    nesting arms ((fs.map Action.step).map Action.shape) = some arms := by
  induction fs with
  | nil => rfl
  | cons f fs ih => exact ih

theorem Action.Refines.nesting_eq {R : σ → τ → Prop} (h : Action.Refines R a block)
    (arms : List Arm) : nesting arms (block.map Action.shape) = a.shape.nest arms := by
  cases h with
  | step => exact nesting_steps arms _
  | openIf => rfl
  | openElse => exact Option.bind_fun_some _
  | closeIf => exact Option.bind_fun_some _
  | leave => rfl

/-- Blocks have the nesting of the actions that they stand for. -/
theorem nesting_flatten {R : σ → τ → Prop} (h : List.Forall₂ (Action.Refines R) as blocks)
    (arms : List Arm) :
    nesting arms (blocks.flatten.map Action.shape) = nesting arms (as.map Action.shape) := by
  induction h generalizing arms with
  | nil => rfl
  | cons hb _ ih =>
    rw [List.flatten_cons, List.map_append, nesting_append, hb.nesting_eq, List.map_cons,
      nesting_cons]
    congr 1
    funext arms
    exact ih arms

theorem balanced_flatten_iff {R : σ → τ → Prop} (h : List.Forall₂ (Action.Refines R) as blocks) :
    Balanced (blocks.flatten.map Action.shape) ↔ Balanced (as.map Action.shape) := by
  rw [balanced_iff_nesting, balanced_iff_nesting, nesting_flatten h]

theorem Runs.steps_append {fs : List (τ → τ)}
    (h : Runs rest (fs.foldl (fun t g => g t) t) u) : Runs (fs.map .step ++ rest) t u := by
  induction fs generalizing t with
  | nil => exact h
  | cons f fs ih => exact .step (ih h)

theorem exists_append_cons_of_forall₂ {R : α → β → Prop} {xs ys : List α} {l : List β}
    (h : List.Forall₂ R (xs ++ x :: ys) l) :
    ∃ l₁ y l₂, l = l₁ ++ y :: l₂ ∧ List.Forall₂ R xs l₁ ∧ R x y ∧ List.Forall₂ R ys l₂ := by
  induction xs generalizing l with
  | nil =>
    obtain ⟨y, l₂, hy, hl, rfl⟩ := List.forall₂_cons_left_iff.1 h
    exact ⟨[], y, l₂, rfl, .nil, hy, hl⟩
  | cons x' xs ih =>
    obtain ⟨y', l, hy', hl, rfl⟩ := List.forall₂_cons_left_iff.1 h
    obtain ⟨l₁, y, l₂, rfl, hl₁, hy, hl₂⟩ := ih hl
    exact ⟨y' :: l₁, y, l₂, rfl, .cons hy' hl₁, hy, hl₂⟩

theorem forall₂_ite {R : α → β → Prop} {c : Bool} (hx : List.Forall₂ R xs xs')
    (hy : List.Forall₂ R ys ys') :
    List.Forall₂ R (if c then xs else ys) (if c then xs' else ys') := by
  cases c with
  | true => exact hx
  | false => exact hy

/-- Blocks that refine actions run alongside them. -/
theorem Runs.refine {R : σ → τ → Prop} (h : Runs as s s')
    (hb : List.Forall₂ (Action.Refines R) as blocks) (hs : R s t) :
    ∃ t', Runs blocks.flatten t t' ∧ R s' t' := by
  induction h generalizing blocks t with
  | done =>
    cases hb
    exact ⟨t, .done, hs⟩
  | step _ ih =>
    cases hb with
    | cons hblock hb =>
      cases hblock with
      | step hf =>
        obtain ⟨t', hr, hs'⟩ := ih hb (hf _ _ hs)
        exact ⟨t', hr.steps_append, hs'⟩
  | leave =>
    cases hb with
    | cons hblock _ =>
      cases hblock
      exact ⟨t, .leave, hs⟩
  | when hbody _ ih =>
    obtain ⟨_, _, hopen, htail, rfl⟩ := List.forall₂_cons_left_iff.1 hb
    obtain ⟨bs, _, _, rfl, hbs, hclose, hrest⟩ := exists_append_cons_of_forall₂ htail
    cases hopen with
    | openIf ht =>
      cases hclose
      obtain ⟨t', hr, hs'⟩ := ih (List.rel_append (forall₂_ite hbs .nil) hrest) hs
      rw [List.flatten_append, apply_ite List.flatten, List.flatten_nil, ← ht _ _ hs] at hr
      refine ⟨t', ?_, hs'⟩
      rw [List.flatten_cons, List.flatten_append, List.flatten_cons]
      exact .when ((balanced_flatten_iff hbs).2 hbody) hr
  | choose hy hn _ ih =>
    obtain ⟨_, _, hopen, htail, rfl⟩ := List.forall₂_cons_left_iff.1 hb
    obtain ⟨ys, _, _, rfl, hys, helse, harm⟩ := exists_append_cons_of_forall₂ htail
    obtain ⟨ns, _, _, rfl, hns, hclose, hrest⟩ := exists_append_cons_of_forall₂ harm
    cases hopen with
    | openIf ht =>
      cases helse
      cases hclose
      obtain ⟨t', hr, hs'⟩ := ih (List.rel_append (forall₂_ite hys hns) hrest) hs
      rw [List.flatten_append, apply_ite List.flatten, ← ht _ _ hs] at hr
      refine ⟨t', ?_, hs'⟩
      rw [List.flatten_cons, List.flatten_append, List.flatten_cons, List.flatten_append,
        List.flatten_cons]
      exact .choose ((balanced_flatten_iff hys).2 hy) ((balanced_flatten_iff hns).2 hn) hr

end Lanewise
