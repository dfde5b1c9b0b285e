import Lanewise.Code.Basic
import Mathlib.Data.List.Perm.Subperm

namespace Lanewise
set_option autoImplicit true

def Op.target? : Op → Option Nat
  | .store _ _ => none
  | .branchIfZero _ target => some target
  | .jump target => some target
  | .leave => none

def Input.cell? : Input → Option Nat
  | .cell index => some index
  | .const _ => none

/-- The cells that an op reads or writes. -/
def Op.cells : Op → List Nat
  | .store dest value => dest :: value.leaves.filterMap Input.cell?
  | .branchIfZero cond _ => cond.cell?.toList
  | .jump _ => []
  | .leave => []

namespace Code

/-- The loop over the ops from a position to its end, as long as it takes, with the positions of the
ops that it carries out. -/
inductive Loop {sizes : Capacities} (code : Code) (sampler : Sampler) :
    Nat → Buffer sizes → List Nat → Buffer sizes → Prop
  | behind : code.ops[p]? = none → Loop code sampler p b [] b
  | leave : code.ops[p]? = some .leave → Loop code sampler p b [p] b
  | step : code.step sampler p b = some (q, c) → Loop code sampler q c visited d →
      Loop code sampler p b (p :: visited) d

/-- Whether all targets lie ahead and none lies behind the end. -/
def Forward (code : Code) : Prop :=
  ∀ p op t, code.ops[p]? = some op → op.target? = some t → p < t ∧ t ≤ code.ops.size

theorem lt_size_of_getElem? {code : Code} (h : code.ops[p]? = some op) : p < code.ops.size :=
  (Array.getElem?_eq_some_iff.1 h).1

/-- Every step of forward code goes ahead, at most to the end. -/
theorem Forward.lt_of_step {code : Code} {b : Buffer sizes} (hf : code.Forward)
    (h : code.step sampler p b = some (q, c)) : p < q ∧ q ≤ code.ops.size := by
  unfold step at h
  split at h
  · cases h
  · rename_i ho
    cases h
    exact ⟨Nat.lt_succ_self p, lt_size_of_getElem? ho⟩
  · rename_i cond t ho
    obtain ⟨hq, rfl⟩ := Prod.mk.inj (Option.some.inj h)
    split at hq
    · subst hq
      exact hf p _ t ho rfl
    · subst hq
      exact ⟨Nat.lt_succ_self p, lt_size_of_getElem? ho⟩
  · rename_i t ho
    cases h
    exact hf p _ _ ho rfl
  · cases h

theorem step_eq_none_iff {code : Code} {b : Buffer sizes} : code.step sampler p b = none ↔
    code.ops[p]? = none ∨ code.ops[p]? = some .leave := by
  unfold step
  split <;> simp_all

theorem getElem?_of_step {code : Code} {b : Buffer sizes}
    (h : code.step sampler p b = some (q, c)) : ∃ op, code.ops[p]? = some op := by
  cases ho : code.ops[p]? with
  | none => cases (step_eq_none_iff.2 (.inl ho)).symm.trans h
  | some op => exact ⟨op, rfl⟩

theorem Forward.exists_loop {code : Code} (hf : code.Forward) (sampler : Sampler) (p : Nat)
    (b : Buffer sizes) : ∃ visited c, code.Loop sampler p b visited c := by
  induction hn : code.ops.size - p using Nat.strongRecOn generalizing p b with
  | ind n ih =>
    cases hs : code.step sampler p b with
    | none =>
      rcases step_eq_none_iff.1 hs with ho | ho
      · exact ⟨_, _, .behind ho⟩
      · exact ⟨_, _, .leave ho⟩
    | some next =>
      obtain ⟨q, c⟩ := next
      obtain ⟨hp, hq⟩ := hf.lt_of_step hs
      obtain ⟨visited, d, hl⟩ := ih (code.ops.size - q) (by omega) q c rfl
      exact ⟨_, _, .step hs hl⟩

theorem Loop.mem_visited {code : Code} {b : Buffer sizes}
    (h : code.Loop sampler p b visited c) (hq : q ∈ visited) : ∃ op, code.ops[q]? = some op := by
  induction h with
  | behind => cases hq
  | leave ho =>
    rw [List.mem_singleton] at hq
    exact ⟨_, hq ▸ ho⟩
  | step hs _ ih =>
    rcases List.mem_cons.1 hq with rfl | hq
    · exact getElem?_of_step hs
    · exact ih hq

theorem Loop.le_of_mem_visited {code : Code} {b : Buffer sizes} (hf : code.Forward)
    (h : code.Loop sampler p b visited c) (hq : q ∈ visited) : p ≤ q := by
  induction h with
  | behind => cases hq
  | leave => exact Nat.le_of_eq (List.mem_singleton.1 hq).symm
  | step hs _ ih =>
    rcases List.mem_cons.1 hq with rfl | hq
    · exact Nat.le_refl _
    · exact Nat.le_trans (Nat.le_of_lt (hf.lt_of_step hs).1) (ih hq)

/-- Forward code visits its ops in their order, so none of them twice. -/
theorem Loop.pairwise_lt {code : Code} {b : Buffer sizes} (hf : code.Forward)
    (h : code.Loop sampler p b visited c) : visited.Pairwise (· < ·) := by
  induction h with
  | behind => exact .nil
  | leave => exact List.pairwise_singleton _ _
  | step hs hl ih =>
    refine .cons (fun q hq => ?_) ih
    exact Nat.lt_of_lt_of_le (hf.lt_of_step hs).1 (hl.le_of_mem_visited hf hq)

theorem Loop.length_visited_le {code : Code} {b : Buffer sizes} (hf : code.Forward)
    (h : code.Loop sampler p b visited c) : visited.length ≤ code.ops.size := by
  have hd : visited.Nodup := (h.pairwise_lt hf).imp Nat.ne_of_lt
  have hs : visited ⊆ List.range code.ops.size := by
    intro q hq
    obtain ⟨op, ho⟩ := h.mem_visited hq
    exact List.mem_range.2 (lt_size_of_getElem? ho)
  simpa only [List.length_range] using (List.subperm_of_subset hd hs).length_le

/-- As many steps as ops are visited lead to the end of the loop. -/
theorem Loop.runFrom_eq {code : Code} {b : Buffer sizes} (h : code.Loop sampler p b visited c)
    (hn : visited.length ≤ fuel) : code.runFrom sampler fuel p b = c := by
  induction h generalizing fuel with
  | behind ho =>
    cases fuel with
    | zero => rfl
    | succ fuel => simp only [runFrom, step_eq_none_iff.2 (.inl ho)]
  | leave ho =>
    cases fuel with
    | zero => rfl
    | succ fuel => simp only [runFrom, step_eq_none_iff.2 (.inr ho)]
  | step hs _ ih =>
    cases fuel with
    | zero => exact absurd hn (Nat.not_succ_le_zero _)
    | succ fuel =>
      simp only [runFrom, hs]
      exact ih (Nat.le_of_succ_le_succ hn)

theorem Loop.run_eq {code : Code} {b : Buffer sizes} (hf : code.Forward)
    (h : code.Loop sampler 0 b visited c) : code.run sampler b = c :=
  h.runFrom_eq (h.length_visited_le hf)

end Code

end Lanewise
