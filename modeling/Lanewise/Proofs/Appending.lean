import Lanewise.Proofs.Dependence

namespace Lanewise
set_option autoImplicit true

/-- The op with its target, if it has one, `n` positions further on. -/
def Op.shift (n : Nat) : Op → Op
  | .branchIfZero cond target => .branchIfZero cond (n + target)
  | .jump target => .jump (n + target)
  | op => op

theorem Op.retarget_comp_shift (n t : Nat) :
    Op.retarget (n + t) ∘ Op.shift n = Op.shift n ∘ Op.retarget t := by
  funext op
  cases op <;> rfl

theorem Op.retarget_add (n t : Nat) : Op.retarget (n + t) = Op.shift n ∘ Op.retarget t := by
  funext op
  cases op <;> rfl

def Frame.shift (n : Nat) (frame : Frame) : Frame := ⟨n + frame.branch, frame.jump.map (n + ·)⟩

theorem Frame.hole_shift (n : Nat) (frame : Frame) : (frame.shift n).hole = n + frame.hole := by
  obtain ⟨branch, _ | jump⟩ := frame <;> rfl

/-- Whether a draft is another one behind some ops: these ops stand before it, its frames are moved,
and so are the targets of its ops. Only a target that is not settled yet is the same in both. -/
structure Draft.Behind (front : Array Op) (draft moved : Draft) : Prop where
  size_eq : moved.ops.size = front.size + draft.ops.size
  frames_eq : moved.frames = draft.frames.map (Frame.shift front.size)
  front_eq : ∀ p < front.size, moved.ops[p]? = front[p]?
  shifted : ∀ p, moved.ops[front.size + p]? = draft.ops[p]?.map (Op.shift front.size) ∨
    (∃ frame ∈ draft.frames, frame.hole = p) ∧ moved.ops[front.size + p]? = draft.ops[p]?

theorem Draft.behind_empty (front : Array Op) : Draft.Behind front {} ⟨front, []⟩ where
  size_eq := rfl
  frames_eq := rfl
  front_eq _ _ := rfl
  shifted p := .inl (by simp)

theorem Draft.Behind.push {draft moved : Draft} {frames' : List Frame} (h : draft.Behind front moved)
    (hs : ∀ frame ∈ draft.frames, frame ∈ frames')
    (ho : op' = op.shift front.size ∨
      (∃ frame ∈ frames', frame.hole = draft.ops.size) ∧ op' = op) :
    Draft.Behind front ⟨draft.ops.push op, frames'⟩
      ⟨moved.ops.push op', frames'.map (Frame.shift front.size)⟩ where
  size_eq := by
    rw [Array.size_push, Array.size_push, h.size_eq, Nat.add_assoc]
  frames_eq := rfl
  front_eq := by
    intro p hp
    rw [Array.getElem?_push, if_neg (by rw [h.size_eq]; omega)]
    exact h.front_eq p hp
  shifted := by
    intro p
    simp only [Array.getElem?_push, h.size_eq, Nat.add_left_cancel_iff]
    split
    · rename_i hp
      subst hp
      rcases ho with rfl | ⟨hm, rfl⟩
      · exact .inl rfl
      · exact .inr ⟨hm, rfl⟩
    · rcases h.shifted p with he | ⟨⟨frame, hm, hp⟩, he⟩
      · exact .inl he
      · exact .inr ⟨⟨frame, hs frame hm, hp⟩, he⟩

theorem Draft.Behind.settle {draft moved : Draft} (h : draft.Behind front moved)
    (hd : draft.frames = frame :: outer) :
    Draft.Behind front ⟨draft.ops.modify frame.hole (Op.retarget draft.ops.size), outer⟩
      ⟨moved.ops.modify (frame.shift front.size).hole (Op.retarget moved.ops.size),
        outer.map (Frame.shift front.size)⟩ where
  size_eq := by
    rw [Array.size_modify, Array.size_modify, h.size_eq]
  frames_eq := rfl
  front_eq := by
    intro p hp
    rw [Array.getElem?_modify, Frame.hole_shift, if_neg (by omega)]
    exact h.front_eq p hp
  shifted := by
    intro p
    simp only [Array.getElem?_modify, Frame.hole_shift, h.size_eq, Nat.add_left_cancel_iff]
    split
    · refine .inl ?_
      rcases h.shifted p with he | ⟨_, he⟩
      · rw [he, Option.map_map, Option.map_map, Op.retarget_comp_shift]
      · rw [he, Option.map_map, Op.retarget_add]
    · rename_i hp
      rcases h.shifted p with he | ⟨⟨other, hm, ho⟩, he⟩
      · exact .inl he
      · rw [hd] at hm
        rcases List.mem_cons.1 hm with rfl | hm
        · exact absurd ho hp
        · exact .inr ⟨⟨other, hm, ho⟩, he⟩

theorem Draft.Behind.add {draft moved draft' : Draft} (h : draft.Behind front moved)
    (ha : draft.add sizes s = .ok draft') :
    ∃ moved', moved.add sizes s = .ok moved' ∧ draft'.Behind front moved' := by
  obtain ⟨ops, frames⟩ := moved
  obtain rfl := h.frames_eq
  have hsize : ops.size = front.size + draft.ops.size := h.size_eq
  cases s with
  | assign target value =>
    obtain ⟨i, hi, ha⟩ := bind_eq_ok_iff.1 ha
    obtain ⟨x, hx, ha⟩ := bind_eq_ok_iff.1 ha
    cases ha
    refine ⟨_, bind_eq_ok_iff.2 ⟨i, hi, bind_eq_ok_iff.2 ⟨x, hx, rfl⟩⟩, ?_⟩
    exact h.push (fun _ hm => hm) (.inl rfl)
  | openIf cond =>
    obtain ⟨x, hx, ha⟩ := bind_eq_ok_iff.1 ha
    cases ha
    refine ⟨_, bind_eq_ok_iff.2 ⟨x, hx, rfl⟩, ?_⟩
    rw [hsize]
    apply h.push
    · intro frame hm
      exact List.mem_cons_of_mem _ hm
    · exact .inr ⟨⟨_, List.mem_cons_self, rfl⟩, rfl⟩
  | openElse =>
    obtain ⟨ops', _ | ⟨⟨branch, _ | jump⟩, frames⟩⟩ := draft
    · cases ha
    · cases ha
      refine ⟨_, rfl, ?_⟩
      rw [hsize]
      -- the frame of the second arm comes in before the one of the first arm is settled
      have hj : Draft.Behind front
          ⟨ops'.push (.jump unknownTarget), ⟨branch, none⟩ :: ⟨branch, some ops'.size⟩ :: frames⟩
          ⟨ops.push (.jump unknownTarget),
            List.map (Frame.shift front.size) (⟨branch, none⟩ :: ⟨branch, some ops'.size⟩ :: frames)⟩ := by
        apply h.push
        · intro frame hm
          simp only [List.mem_cons] at hm ⊢
          exact hm.imp_right .inr
        · exact .inr ⟨⟨_, List.mem_cons_of_mem _ List.mem_cons_self, rfl⟩, rfl⟩
      exact hj.settle rfl
    · cases ha
  | closeIf =>
    obtain ⟨ops', _ | ⟨frame, frames⟩⟩ := draft
    · cases ha
    · cases ha
      exact ⟨_, rfl, h.settle rfl⟩
  | leave =>
    cases ha
    exact ⟨_, rfl, h.push (fun _ hm => hm) (.inl rfl)⟩

theorem Draft.Behind.foldlM {draft moved draft' : Draft} {statements : List Statement}
    (h : draft.Behind front moved)
    (ha : statements.foldlM (Draft.add sizes) draft = .ok draft') :
    ∃ moved', statements.foldlM (Draft.add sizes) moved = .ok moved' ∧ draft'.Behind front moved' := by
  induction statements generalizing draft moved with
  | nil =>
    cases ha
    exact ⟨moved, rfl, h⟩
  | cons s statements ih =>
    obtain ⟨next, hs, ha⟩ := bind_eq_ok_iff.1 ha
    obtain ⟨movedNext, hs', hn⟩ := h.add hs
    obtain ⟨moved', ha', hm⟩ := ih hn ha
    exact ⟨moved', bind_eq_ok_iff.2 ⟨movedNext, hs', ha'⟩, hm⟩

theorem Draft.Behind.ops_eq {draft moved : Draft} (h : draft.Behind front moved)
    (hd : draft.frames = []) : moved.ops = front ++ draft.ops.map (Op.shift front.size) := by
  apply Array.ext_getElem?
  intro p
  rw [Array.getElem?_append]
  split
  · rename_i hp
    exact h.front_eq p hp
  · rename_i hp
    obtain ⟨q, rfl⟩ := Nat.exists_eq_add_of_le (Nat.le_of_not_lt hp)
    rw [Nat.add_sub_cancel_left, Array.getElem?_map]
    rcases h.shifted q with he | ⟨⟨frame, hm, _⟩, _⟩
    · exact he
    · rw [hd] at hm
      cases hm

namespace Code

/-- Two pieces of code, one behind the other. -/
def append (code code' : Code) : Code :=
  ⟨code.ops ++ code'.ops.map (Op.shift code.ops.size)⟩

theorem ofLines_append {code code' : Code} (h : ofLines sizes lines = .ok code)
    (h' : ofLines sizes lines' = .ok code') :
    ofLines sizes (lines ++ lines') = .ok (code.append code') := by
  have hfold := ofLines_eq_ok_iff.1 h
  have hfold' := ofLines_eq_ok_iff.1 h'
  obtain ⟨moved, hm, hb⟩ := (Draft.behind_empty code.ops).foldlM hfold'
  apply ofLines_eq_ok_iff.2
  rw [List.filterMap_append, List.foldlM_append, hfold]
  have he : moved = ⟨(code.append code').ops, []⟩ := by
    obtain ⟨ops, frames⟩ := moved
    rw [append, ← hb.ops_eq rfl]
    exact congrArg _ hb.frames_eq
  exact he ▸ hm

section Append

variable {sizes : Capacities} {code : Code} (code' : Code) {sampler : Sampler} {p q : Nat}
  {b c : Buffer sizes}

theorem getElem?_append_left (h : code.ops[p]? = some op) :
    (code.append code').ops[p]? = some op := by
  rw [append, Array.getElem?_append, if_pos (lt_size_of_getElem? h), h]

theorem getElem?_append_right (code code' : Code) (p : Nat) :
    (code.append code').ops[code.ops.size + p]? = code'.ops[p]?.map (Op.shift code.ops.size) := by
  rw [append, Array.getElem?_append, if_neg (by omega), Nat.add_sub_cancel_left, Array.getElem?_map]

theorem step_append_left (h : code.step sampler p b = some (q, c)) :
    (code.append code').step sampler p b = some (q, c) := by
  obtain ⟨op, ho⟩ := getElem?_of_step h
  rw [step, getElem?_append_left code' ho]
  rwa [step, ho] at h

theorem step_append_right (code : Code) (h : code'.step sampler p b = some (q, c)) :
    (code.append code').step sampler (code.ops.size + p) b = some (code.ops.size + q, c) := by
  obtain ⟨op, ho⟩ := getElem?_of_step h
  rw [step, getElem?_append_right, ho]
  rw [step, ho] at h
  cases op with
  | store dest value =>
    cases h
    rfl
  | branchIfZero cond target =>
    obtain ⟨rfl, rfl⟩ := Prod.mk.inj (Option.some.inj h)
    simp only [Option.map_some, Op.shift, Nat.add_assoc, ← apply_ite]
  | jump target =>
    cases h
    rfl
  | leave => cases h

end Append

/-- Whether a run ends at a return: the last op that its loop carries out is one. -/
def Returns (code : Code) (sampler : Sampler) (b : Buffer sizes) : Prop :=
  ∃ visited p c, code.Loop sampler 0 b (visited ++ [p]) c ∧ code.ops[p]? = some .leave

theorem Loop.append_right {code' : Code} {b c : Buffer sizes} (code : Code)
    (h : code'.Loop sampler p b visited c) :
    (code.append code').Loop sampler (code.ops.size + p) b (visited.map (code.ops.size + ·)) c := by
  induction h with
  | behind ho =>
    apply Loop.behind
    rw [getElem?_append_right, ho]
    rfl
  | leave ho =>
    apply Loop.leave
    rw [getElem?_append_right, ho]
    rfl
  | step hs _ ih => exact .step (step_append_right _ code hs) ih

/-- A loop over the first of two pieces of code ends at a return, as it does in both together, or it
comes to the end of the piece and goes on with the second one. -/
theorem Loop.append_left {code : Code} {b c : Buffer sizes} (hf : code.Forward) (code' : Code)
    (h : code.Loop sampler p b visited c) (hp : p ≤ code.ops.size) :
    ((∃ before q, visited = before ++ [q] ∧ code.ops[q]? = some .leave) ∧
      (code.append code').Loop sampler p b visited c) ∨
    (∀ q ∈ visited, code.ops[q]? ≠ some .leave) ∧
      ∀ more d, (code.append code').Loop sampler code.ops.size c more d →
        (code.append code').Loop sampler p b (visited ++ more) d := by
  induction h with
  | behind ho =>
    have hsize := Nat.le_antisymm hp (Array.getElem?_eq_none_iff.1 ho)
    refine .inr ⟨List.forall_mem_nil _, fun more d hl => ?_⟩
    rw [hsize]
    exact hl
  | @leave p b ho => exact .inl ⟨⟨[], p, rfl, ho⟩, .leave (getElem?_append_left code' ho)⟩
  | @step p b q c visited d hs _ ih =>
    have hstep := step_append_left code' hs
    rcases ih (hf.lt_of_step hs).2 with ⟨⟨before, last, rfl, ho⟩, hl⟩ | ⟨hn, hl⟩
    · exact .inl ⟨⟨p :: before, last, rfl, ho⟩, .step hstep hl⟩
    · refine .inr ⟨List.forall_mem_cons.2 ⟨?_, hn⟩, fun more d hm => .step hstep (hl more d hm)⟩
      intro ho
      cases (step_eq_none_iff.2 (.inr ho)).symm.trans hs

/-- Where two listings can be lowered, one behind the other can be lowered to the one code behind the
other. A run of it is a run of the first one and then, unless that returns, of the second one. -/
theorem ofLines_append_runs_in_turn (sizes : Capacities) (lines lines' : List Line)
    (code code' : Code) (h : Code.ofLines sizes lines = .ok code)
    (h' : Code.ofLines sizes lines' = .ok code') :
    let both : Code := ⟨code.ops ++ code'.ops.map (Op.shift code.ops.size)⟩
    Code.ofLines sizes (lines ++ lines') = .ok both ∧
    ∀ (sampler : Sampler) (b : Buffer sizes),
      (code.Returns sampler b → both.run sampler b = code.run sampler b) ∧
      (¬ code.Returns sampler b →
        both.run sampler b = code'.run sampler (code.run sampler b)) := by
  intro both
  have hboth : Code.ofLines sizes (lines ++ lines') = .ok both := ofLines_append h h'
  refine ⟨hboth, fun sampler b => ?_⟩
  have hf := forward_of_ofLines h
  obtain ⟨visited, c, hl⟩ := hf.exists_loop sampler 0 b
  rw [hl.run_eq hf]
  rcases hl.append_left hf code' (Nat.zero_le _) with ⟨⟨before, p, rfl, ho⟩, ha⟩ | ⟨hn, ha⟩
  · have hreturns : code.Returns sampler b := ⟨before, p, c, hl, ho⟩
    exact ⟨fun _ => ha.run_eq (forward_of_ofLines hboth), fun hno => absurd hreturns hno⟩
  · have hno : ¬ code.Returns sampler b := by
      rintro ⟨before, p, c', hl', ho⟩
      cases hl.visited_unique hl'
      exact hn p (List.mem_append_right _ (List.mem_singleton_self p)) ho
    refine ⟨fun hreturns => absurd hreturns hno, fun _ => ?_⟩
    have hf' := forward_of_ofLines h'
    obtain ⟨visited', d, hl'⟩ := hf'.exists_loop sampler 0 c
    rw [hl'.run_eq hf']
    exact (ha _ d (hl'.append_right code)).run_eq (forward_of_ofLines hboth)

theorem ofLines_append_runs_in_turn_at_end :
    let lines : List Line := [.statement (.openIf (.element ⟨"uniform", 0⟩)), .statement .leave,
      .statement .closeIf]
    let lines' : List Line := [.statement (.openIf (.element ⟨"uniform", 1⟩)),
      .statement (.assign ⟨"temp", 0⟩ (.leaf (.const 1.0))), .statement .openElse,
      .statement (.assign ⟨"temp", 1⟩ (.leaf (.const 1.0))), .statement .closeIf]
    let code : Code := ⟨#[.branchIfZero (.cell 0) 2, .leave]⟩
    let code' : Code := ⟨#[.branchIfZero (.cell 1) 3, .store 512 (.leaf (.const 1.0)), .jump 4,
      .store 513 (.leaf (.const 1.0))]⟩
    let both : Code := ⟨#[.branchIfZero (.cell 0) 2, .leave, .branchIfZero (.cell 1) 5,
      .store 512 (.leaf (.const 1.0)), .jump 6, .store 513 (.leaf (.const 1.0))]⟩
    let dark : Buffer {} := .zero
    let lit : Buffer {} := dark.set 0 1.0
    Code.ofLines {} lines = .ok code ∧ Code.ofLines {} lines' = .ok code' ∧
    Code.ofLines {} (lines ++ lines') = .ok both ∧
    ∀ sampler : Sampler,
      code.Returns sampler lit ∧ both.run sampler lit = code.run sampler lit ∧
      ¬ code.Returns sampler dark ∧
        both.run sampler dark = code'.run sampler (code.run sampler dark) := by
  intro lines lines' code code' both dark lit
  have h : Code.ofLines {} lines = .ok code := by decide +kernel
  have h' : Code.ofLines {} lines' = .ok code' := by decide +kernel
  have hops : (⟨code.ops ++ code'.ops.map (Op.shift code.ops.size)⟩ : Code) = both := by
    decide +kernel
  obtain ⟨hboth, hrun⟩ := ofLines_append_runs_in_turn {} lines lines' code code' h h'
  rw [hops] at hboth hrun
  refine ⟨h, h', hboth, fun sampler => ?_⟩
  have hlit : code.Returns sampler lit := by
    have hcond : ((Input.cell 0).value lit == 0.0) = false := by decide +kernel
    have hstep : code.step sampler 0 lit = some (1, lit) := by simp [step, code, hcond]
    exact ⟨[0], 1, lit, .step hstep (.leave rfl), rfl⟩
  have hdark : ¬ code.Returns sampler dark := by
    have hcond : ((Input.cell 0).value dark == 0.0) = true := by decide +kernel
    have hstep : code.step sampler 0 dark = some (2, dark) := by simp [step, code, hcond]
    rintro ⟨visited, p, c, hl, ho⟩
    have hvisited : visited ++ [p] = [] ++ [0] := (Loop.step hstep (.behind rfl)).visited_unique hl
    cases List.append_inj_right' hvisited rfl
    cases ho
  exact ⟨hlit, (hrun sampler lit).1 hlit, hdark, (hrun sampler dark).2 hdark⟩

end Code

end Lanewise
