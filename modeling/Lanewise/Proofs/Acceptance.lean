import Lanewise.Proofs.Memory
import Lanewise.Proofs.Nesting

namespace Lanewise
set_option autoImplicit true

/-- Whether an operand has a value in runnable code. -/
def Atom.Valid (sizes : Capacities) : Atom → Prop
  | .element e => e.InBounds sizes
  | .literal text => ∃ value, readFloat (Text.trim text) = .ok value
  | .const _ => True

/-- Why an operand has no value in runnable code. -/
inductive Atom.Fault (sizes : Capacities) : Atom → BuildError → Prop
  | unknown : Region.ofName? e.array = none → Fault sizes (.element e) (.unknownRegion e.array)
  | outside : Region.ofName? e.array = some r → sizes.of r ≤ e.index →
      Fault sizes (.element e) (.outOfBounds r e.index (sizes.of r))
  | noNumber : (∀ value, readFloat (Text.trim text) ≠ .ok value) →
      Fault sizes (.literal text) (.unresolvedLiteral text)

theorem Atom.valid_iff {a : Atom} : a.Valid sizes ↔ ∃ x, a.lower sizes = .ok x := by
  cases a with
  | element e =>
    refine Element.inBounds_iff.trans ⟨?_, ?_⟩
    · rintro ⟨i, hi⟩
      exact ⟨_, bind_eq_ok_iff.2 ⟨i, hi, rfl⟩⟩
    · rintro ⟨x, hx⟩
      obtain ⟨i, hi, _⟩ := bind_eq_ok_iff.1 hx
      exact ⟨i, hi⟩
  | literal text =>
    simp only [Valid, lower]
    constructor
    · rintro ⟨v, hv⟩
      exact ⟨.const v, by rw [hv]⟩
    · rintro ⟨x, hx⟩
      split at hx
      · rename_i v hv
        exact ⟨v, hv⟩
      · cases hx
  | const v => exact ⟨fun _ => ⟨_, rfl⟩, fun _ => trivial⟩

theorem Element.locate_eq_error_iff {e : Element} :
    e.locate sizes = .error err ↔ (Atom.element e).Fault sizes err := by
  unfold locate
  constructor
  · intro h
    split at h
    · rename_i hr
      cases h
      exact .unknown hr
    · rename_i r hr
      split at h
      · cases h
      · rename_i hi
        cases h
        exact .outside hr (Nat.le_of_not_lt hi)
  · intro h
    cases h with
    | unknown hr => rw [hr]
    | outside hr hi => simp only [hr, if_neg (Nat.not_lt.2 hi)]

theorem Atom.fault_iff {a : Atom} : a.Fault sizes e ↔ a.lower sizes = .error e := by
  cases a with
  | element x =>
    rw [← Element.locate_eq_error_iff, lower, bind_eq_error_iff]
    refine ⟨.inl, ?_⟩
    rintro (h | ⟨_, _, h⟩)
    · exact h
    · cases h
  | literal text =>
    simp only [lower]
    constructor
    · intro h
      cases h with
      | noNumber hn =>
        split
        · rename_i v hv
          exact absurd hv (hn v)
        · rfl
    · intro h
      split at h
      · cases h
      · rename_i err he
        cases h
        refine .noNumber fun v hv => ?_
        cases he.symm.trans hv
  | const v =>
    constructor
    · intro h
      cases h
    · intro h
      cases h

/-- The operands of a statement, the target of an assignment first. -/
def Statement.atoms : Statement → List Atom
  | .assign target value => .element target :: value.leaves
  | .openIf cond => [cond]
  | .openElse => []
  | .closeIf => []
  | .leave => []

/-- Why a statement cannot stand behind others: its first operand at fault, or an arm that ends
where none is open. -/
inductive Statement.Fault (sizes : Capacities) (before : List Statement) :
    Statement → BuildError → Prop
  | operand : s.atoms = fine ++ a :: more → (∀ x ∈ fine, x.Valid sizes) → a.Fault sizes e →
      Fault sizes before s e
  | openElse : ¬ InIf (before.map shape) → Fault sizes before .openElse (.unbalanced .elseWithoutIf)
  | closeIf : ¬ InIf (before.map shape) → ¬ InElse (before.map shape) →
      Fault sizes before .closeIf (.unbalanced .endIfWithoutIf)

/-- Whether no statement is at fault where it stands. -/
def Accepted (sizes : Capacities) (statements : List Statement) : Prop :=
  ∀ before s after e, statements = before ++ s :: after → ¬ s.Fault sizes before e

/-- The fault that refuses a sequence of statements: that of its first statement at fault, or else a
conditional that is open at its end. -/
inductive FirstFault (sizes : Capacities) (statements : List Statement) : BuildError → Prop
  | statement : statements = before ++ s :: after → Accepted sizes before →
      s.Fault sizes before e → FirstFault sizes statements e
  | unclosed : Accepted sizes statements →
      InIf (statements.map Statement.shape) ∨ InElse (statements.map Statement.shape) →
      FirstFault sizes statements (.unbalanced .ifWithoutEndIf)

def Frame.arm (frame : Frame) : Arm :=
  match frame.jump with
  | none => .yes
  | some _ => .no

def Draft.arms (draft : Draft) : List Arm := draft.frames.map Frame.arm

theorem Draft.add_eq_ok {draft draft' : Draft} (h : draft.add sizes s = .ok draft') :
    s.shape.nest draft.arms = some draft'.arms ∧ ∀ a ∈ s.atoms, a.Valid sizes := by
  cases s with
  | assign target value =>
    obtain ⟨i, hi, h⟩ := bind_eq_ok_iff.1 h
    obtain ⟨x, hx, h⟩ := bind_eq_ok_iff.1 h
    cases h
    refine ⟨rfl, List.forall_mem_cons.2 ⟨Element.inBounds_iff.2 ⟨i, hi⟩, ?_⟩⟩
    intro a ha
    exact Atom.valid_iff.2 (Expr.exists_tryMap_eq_ok_iff.1 ⟨x, hx⟩ a ha)
  | openIf cond =>
    obtain ⟨x, hx, h⟩ := bind_eq_ok_iff.1 h
    cases h
    exact ⟨rfl, List.forall_mem_singleton.2 (Atom.valid_iff.2 ⟨x, hx⟩)⟩
  | openElse =>
    refine ⟨?_, List.forall_mem_nil _⟩
    obtain ⟨ops, _ | ⟨⟨branch, _ | jump⟩, frames⟩⟩ := draft
    · cases h
    · cases h
      rfl
    · cases h
  | closeIf =>
    refine ⟨?_, List.forall_mem_nil _⟩
    obtain ⟨ops, _ | ⟨frame, frames⟩⟩ := draft
    · cases h
    · cases h
      rfl
  | leave =>
    cases h
    exact ⟨rfl, List.forall_mem_nil _⟩

theorem Draft.exists_add {draft : Draft} {s : Statement}
    (hn : s.shape.nest draft.arms = some nested) (hv : ∀ a ∈ s.atoms, a.Valid sizes) :
    ∃ draft', draft.add sizes s = .ok draft' := by
  cases s with
  | assign target value =>
    obtain ⟨ht, hl⟩ := List.forall_mem_cons.1 hv
    obtain ⟨i, hi⟩ := Element.inBounds_iff.1 ht
    obtain ⟨x, hx⟩ := Expr.exists_tryMap_eq_ok_iff.2 fun a ha => Atom.valid_iff.1 (hl a ha)
    exact ⟨_, bind_eq_ok_iff.2 ⟨i, hi, bind_eq_ok_iff.2 ⟨x, hx, rfl⟩⟩⟩
  | openIf cond =>
    obtain ⟨x, hx⟩ := Atom.valid_iff.1 (List.forall_mem_singleton.1 hv)
    exact ⟨_, bind_eq_ok_iff.2 ⟨x, hx, rfl⟩⟩
  | openElse =>
    obtain ⟨ops, _ | ⟨⟨branch, _ | jump⟩, frames⟩⟩ := draft
    · cases hn
    · exact ⟨_, rfl⟩
    · cases hn
  | closeIf =>
    obtain ⟨ops, _ | ⟨frame, frames⟩⟩ := draft
    · cases hn
    · exact ⟨_, rfl⟩
  | leave => exact ⟨_, rfl⟩

theorem Draft.add_openElse_eq_error_iff {draft : Draft} :
    draft.add sizes .openElse = .error e ↔
      (¬ ∃ outer, draft.arms = .yes :: outer) ∧ e = .unbalanced .elseWithoutIf := by
  obtain ⟨ops, _ | ⟨⟨branch, _ | jump⟩, frames⟩⟩ := draft <;> simp [add, arms, Frame.arm, eq_comm]

theorem Draft.add_closeIf_eq_error_iff {draft : Draft} :
    draft.add sizes .closeIf = .error e ↔ (¬ ∃ outer, draft.arms = .yes :: outer) ∧
      (¬ ∃ outer, draft.arms = .no :: outer) ∧ e = .unbalanced .endIfWithoutIf := by
  obtain ⟨ops, _ | ⟨⟨branch, _ | jump⟩, frames⟩⟩ := draft <;> simp [add, arms, Frame.arm, eq_comm]

namespace Statement

theorem fault_iff_firstError {s : Statement} (he : s ≠ .openElse) (hc : s ≠ .closeIf) :
    s.Fault sizes before e ↔ FirstError (Atom.lower sizes) s.atoms e := by
  simp only [FirstError, ← Atom.valid_iff, ← Atom.fault_iff]
  constructor
  · intro h
    cases h with
    | operand ha hv hf => exact ⟨_, _, _, ha, hv, hf⟩
    | openElse => exact absurd rfl he
    | closeIf => exact absurd rfl hc
  · rintro ⟨_, _, _, ha, hv, hf⟩
    exact .operand ha hv hf

theorem fault_openElse_iff : Fault sizes before .openElse e ↔
    ¬ InIf (before.map shape) ∧ e = .unbalanced .elseWithoutIf := by
  constructor
  · intro h
    cases h with
    | operand ha => exact absurd ha (by simp [atoms])
    | openElse hi => exact ⟨hi, rfl⟩
  · rintro ⟨hi, rfl⟩
    exact .openElse hi

theorem fault_closeIf_iff : Fault sizes before .closeIf e ↔ ¬ InIf (before.map shape) ∧
    ¬ InElse (before.map shape) ∧ e = .unbalanced .endIfWithoutIf := by
  constructor
  · intro h
    cases h with
    | operand ha => exact absurd ha (by simp [atoms])
    | closeIf hi he => exact ⟨hi, he, rfl⟩
  · rintro ⟨hi, he, rfl⟩
    exact .closeIf hi he

end Statement

/-- A draft refuses a statement exactly if the statement is at fault behind those drafted. -/
theorem Draft.add_eq_error_iff {draft : Draft} (ho : Opened draft.arms (before.map Statement.shape)) :
    draft.add sizes s = .error e ↔ s.Fault sizes before e := by
  cases s with
  | assign target value =>
    rw [Statement.fault_iff_firstError (by simp) (by simp), Statement.atoms, firstError_cons,
      ← Atom.fault_iff, ← Atom.valid_iff, ← Element.locate_eq_error_iff,
      ← Expr.tryMap_eq_error_iff, add, bind_eq_error_iff]
    refine or_congr_right ⟨?_, ?_⟩
    · rintro ⟨i, hi, h⟩
      refine ⟨Element.inBounds_iff.2 ⟨i, hi⟩, ?_⟩
      rcases bind_eq_error_iff.1 h with h | ⟨x, _, h⟩
      · exact h
      · cases h
    · rintro ⟨hv, h⟩
      obtain ⟨i, hi⟩ := Element.inBounds_iff.1 hv
      exact ⟨i, hi, bind_eq_error_iff.2 (.inl h)⟩
  | openIf cond =>
    rw [Statement.fault_iff_firstError (by simp) (by simp), Statement.atoms, firstError_cons, add,
      bind_eq_error_iff]
    refine or_congr_right ⟨?_, ?_⟩
    · rintro ⟨x, _, h⟩
      cases h
    · rintro ⟨_, h⟩
      cases mapM_eq_error_iff.2 h
  | openElse =>
    rw [Statement.fault_openElse_iff, add_openElse_eq_error_iff, ho.inIf_iff]
  | closeIf =>
    rw [Statement.fault_closeIf_iff, add_closeIf_eq_error_iff, ho.inIf_iff, ho.inElse_iff]
  | leave =>
    rw [Statement.fault_iff_firstError (by simp) (by simp)]
    constructor
    · intro h
      cases h
    · intro h
      cases mapM_eq_error_iff.2 h

/-- What a draft has open is what its statements have open. -/
theorem Draft.foldlM_add_eq_ok {draft draft' : Draft} {statements : List Statement}
    (h : statements.foldlM (Draft.add sizes) draft = .ok draft') :
    nesting draft.arms (statements.map Statement.shape) = some draft'.arms ∧
      ∀ s ∈ statements, ∀ a ∈ s.atoms, a.Valid sizes := by
  induction statements generalizing draft with
  | nil =>
    cases h
    exact ⟨rfl, List.forall_mem_nil _⟩
  | cons s statements ih =>
    obtain ⟨next, hs, h⟩ := bind_eq_ok_iff.1 h
    obtain ⟨hn, hv⟩ := add_eq_ok hs
    obtain ⟨hr, hvs⟩ := ih h
    refine ⟨?_, List.forall_mem_cons.2 ⟨hv, hvs⟩⟩
    rw [List.map_cons, nesting_cons, hn, Option.bind_some, hr]

theorem Draft.exists_foldlM_add {draft : Draft} {statements : List Statement}
    (hn : nesting draft.arms (statements.map Statement.shape) = some nested)
    (hv : ∀ s ∈ statements, ∀ a ∈ s.atoms, a.Valid sizes) :
    ∃ draft', statements.foldlM (Draft.add sizes) draft = .ok draft' := by
  induction statements generalizing draft with
  | nil => exact ⟨draft, rfl⟩
  | cons s statements ih =>
    obtain ⟨between, hs, hn⟩ := Option.bind_eq_some_iff.1 hn
    rw [List.forall_mem_cons] at hv
    obtain ⟨next, hd⟩ := exists_add hs hv.1
    have he := Option.some.inj ((add_eq_ok hd).1.symm.trans hs)
    rw [← he] at hn
    obtain ⟨draft', h⟩ := ih hn hv.2
    exact ⟨draft', bind_eq_ok_iff.2 ⟨next, hd, h⟩⟩

theorem Draft.opened_of_foldlM {draft : Draft} {statements : List Statement}
    (h : statements.foldlM (Draft.add sizes) {} = .ok draft) :
    Opened draft.arms (statements.map Statement.shape) :=
  nesting_eq_some_iff.1 (foldlM_add_eq_ok h).1

theorem accepted_iff : Accepted sizes statements ↔
    ∃ draft, statements.foldlM (Draft.add sizes) {} = .ok draft := by
  constructor
  · intro h
    cases hf : statements.foldlM (Draft.add sizes) {} with
    | ok draft => exact ⟨draft, rfl⟩
    | error e =>
      obtain ⟨before, s, after, draft, he, hd, hs⟩ := foldlM_eq_error_iff.1 hf
      exact absurd ((Draft.add_eq_error_iff (Draft.opened_of_foldlM hd)).1 hs) (h _ _ _ _ he)
  · rintro ⟨draft, h⟩ before s after e rfl hs
    rw [List.foldlM_append] at h
    obtain ⟨middle, hm, h⟩ := bind_eq_ok_iff.1 h
    obtain ⟨next, hn, _⟩ := bind_eq_ok_iff.1 h
    cases hn.symm.trans ((Draft.add_eq_error_iff (Draft.opened_of_foldlM hm)).2 hs)

theorem Draft.finish_eq_ok_iff {draft : Draft} :
    draft.finish = .ok code ↔ draft.frames = [] ∧ code = ⟨draft.ops⟩ := by
  obtain ⟨ops, _ | ⟨frame, frames⟩⟩ := draft <;> simp [finish, eq_comm]

theorem Draft.finish_eq_error_iff {draft : Draft} :
    draft.finish = .error e ↔ draft.arms ≠ [] ∧ e = .unbalanced .ifWithoutEndIf := by
  obtain ⟨ops, _ | ⟨frame, frames⟩⟩ := draft
  · simp [finish, arms]
  · simpa [finish, arms] using eq_comm

theorem Code.ofLines_eq_ok_iff : Code.ofLines sizes lines = .ok code ↔
    (lines.filterMap Line.statement?).foldlM (Draft.add sizes) {} = .ok ⟨code.ops, []⟩ := by
  simp only [ofLines, bind_eq_ok_iff, Draft.finish_eq_ok_iff]
  refine ⟨?_, fun h => ⟨_, h, rfl, rfl⟩⟩
  intro ⟨draft, hd, hf, hc⟩
  rw [hd, hc, ← hf]

theorem Code.ofLines_eq_error_iff : Code.ofLines sizes lines = .error e ↔
    (lines.filterMap Line.statement?).foldlM (Draft.add sizes) {} = .error e ∨
    ∃ draft, (lines.filterMap Line.statement?).foldlM (Draft.add sizes) {} = .ok draft ∧
      draft.arms ≠ [] ∧ e = .unbalanced .ifWithoutEndIf := by
  simp only [ofLines, bind_eq_error_iff, Draft.finish_eq_error_iff]

theorem Draft.exists_foldlM_iff {statements : List Statement} :
    (∃ ops, statements.foldlM (Draft.add sizes) {} = .ok ⟨ops, []⟩) ↔
      Balanced (statements.map Statement.shape) ∧
      ∀ s ∈ statements, ∀ a ∈ s.atoms, a.Valid sizes := by
  constructor
  · intro ⟨ops, h⟩
    obtain ⟨hn, hv⟩ := foldlM_add_eq_ok h
    exact ⟨balanced_iff_nesting.2 hn, hv⟩
  · intro ⟨hb, hv⟩
    have hn : nesting ({} : Draft).arms (statements.map Statement.shape) = some [] :=
      hb.nesting_eq []
    obtain ⟨⟨ops, frames⟩, hd⟩ := exists_foldlM_add hn hv
    have ha := Option.some.inj ((foldlM_add_eq_ok hd).1.symm.trans hn)
    rw [arms, List.map_eq_nil_iff] at ha
    exact ⟨ops, ha ▸ hd⟩

theorem firstFault_iff : FirstFault sizes statements e ↔
    statements.foldlM (Draft.add sizes) {} = .error e ∨
    ∃ draft, statements.foldlM (Draft.add sizes) {} = .ok draft ∧
      draft.arms ≠ [] ∧ e = .unbalanced .ifWithoutEndIf := by
  constructor
  · intro h
    cases h with
    | statement he ha hs =>
      obtain ⟨draft, hd⟩ := accepted_iff.1 ha
      exact .inl (foldlM_eq_error_iff.2
        ⟨_, _, _, draft, he, hd, (Draft.add_eq_error_iff (Draft.opened_of_foldlM hd)).2 hs⟩)
    | unclosed ha ho =>
      obtain ⟨draft, hd⟩ := accepted_iff.1 ha
      have hd' := Draft.opened_of_foldlM hd
      rw [hd'.inIf_iff, hd'.inElse_iff] at ho
      refine .inr ⟨draft, hd, fun hn => ?_, rfl⟩
      rcases ho with ⟨_, ho⟩ | ⟨_, ho⟩ <;> cases hn.symm.trans ho
  · rintro (h | ⟨draft, hd, ha, rfl⟩)
    · obtain ⟨before, s, after, draft, he, hd, hs⟩ := foldlM_eq_error_iff.1 h
      exact .statement he (accepted_iff.2 ⟨draft, hd⟩)
        ((Draft.add_eq_error_iff (Draft.opened_of_foldlM hd)).1 hs)
    · have hd' := Draft.opened_of_foldlM hd
      refine .unclosed (accepted_iff.2 ⟨draft, hd⟩) ?_
      rw [hd'.inIf_iff, hd'.inElse_iff]
      match draft.arms, ha with
      | .yes :: outer, _ => exact .inl ⟨outer, rfl⟩
      | .no :: outer, _ => exact .inr ⟨outer, rfl⟩

/-- Lowering accepts the listings whose conditionals pair up and whose operands all have values. It
refuses any other one with its first fault. -/
theorem Code.ofLines_ok_iff_error_iff (sizes : Capacities) (lines : List Line) :
    ((∃ code, Code.ofLines sizes lines = .ok code) ↔
      Balanced ((lines.filterMap Line.statement?).map Statement.shape) ∧
        ∀ s ∈ lines.filterMap Line.statement?, ∀ a ∈ s.atoms, a.Valid sizes) ∧
    (∀ e, Code.ofLines sizes lines = .error e ↔
      FirstFault sizes (lines.filterMap Line.statement?) e) ∧
    Imbalance.elseWithoutIf.message = "ELSE without IF" ∧
    Imbalance.endIfWithoutIf.message = "ENDIF without IF" ∧
    Imbalance.ifWithoutEndIf.message = "IF without ENDIF" := by
  refine ⟨?_, fun e => ?_, rfl, rfl, rfl⟩
  · rw [← Draft.exists_foldlM_iff]
    constructor
    · intro ⟨code, h⟩
      exact ⟨code.ops, ofLines_eq_ok_iff.1 h⟩
    · intro ⟨ops, h⟩
      exact ⟨⟨ops⟩, ofLines_eq_ok_iff.2 h⟩
  · rw [ofLines_eq_error_iff, firstFault_iff]

end Lanewise
