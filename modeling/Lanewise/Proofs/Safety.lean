import Lanewise.Proofs.Acceptance
import Lanewise.Proofs.Machine
import Lanewise.Proofs.Resolution

namespace Lanewise
set_option autoImplicit true

@[simp] theorem Op.target?_retarget (op : Op) (t : Nat) :
    (op.retarget t).target? = op.target?.map fun _ => t := by
  cases op <;> rfl

@[simp] theorem Op.cells_retarget (op : Op) (t : Nat) : (op.retarget t).cells = op.cells := by
  cases op <;> rfl

/-- What drafting maintains: the targets that are not settled yet are those of the open frames, all
others lie ahead, and all cells are those of elements. -/
structure Draft.Sound (sizes : Capacities) (draft : Draft) : Prop where
  hole_lt : ∀ frame ∈ draft.frames, frame.hole < draft.ops.size
  forward : ∀ p op t, draft.ops[p]? = some op → op.target? = some t →
    (∃ frame ∈ draft.frames, frame.hole = p) ∨ p < t ∧ t ≤ draft.ops.size
  located : ∀ (p : Nat) (op : Op) (i : Nat), draft.ops[p]? = some op → i ∈ op.cells →
    ∃ e : Element, e.locate sizes = .ok i

theorem Draft.sound_empty : Draft.Sound sizes {} where
  hole_lt := List.forall_mem_nil _
  forward := by
    intro p op t ho
    cases ho
  located := by
    intro p op i ho
    cases ho

/-- An op behind the others keeps a draft sound if its target, if any, is the hole of a new frame. -/
theorem Draft.Sound.push {draft : Draft} {op : Op} {frames' : List Frame} (h : draft.Sound sizes)
    (hc : ∀ i ∈ op.cells, ∃ e : Element, e.locate sizes = .ok i)
    (hf : ∀ frame ∈ frames', frame ∈ draft.frames ∨ frame.hole = draft.ops.size)
    (hs : ∀ frame ∈ draft.frames, frame ∈ frames')
    (ht : op.target? = none ∨ ∃ frame ∈ frames', frame.hole = draft.ops.size) :
    Draft.Sound sizes ⟨draft.ops.push op, frames'⟩ where
  hole_lt := by
    intro frame hm
    rw [Array.size_push]
    rcases hf frame hm with hm | hm
    · have hl := h.hole_lt frame hm
      omega
    · omega
  forward := by
    intro p op' t ho ht'
    rw [Array.getElem?_push] at ho
    split at ho
    · rename_i hp
      cases ho
      rcases ht with ht | ht
      · cases ht.symm.trans ht'
      · rw [hp]
        exact .inl ht
    · rw [Array.size_push]
      rcases h.forward p op' t ho ht' with ⟨frame, hm, hp⟩ | hp
      · exact .inl ⟨frame, hs frame hm, hp⟩
      · exact .inr (by omega)
  located := by
    intro p op' i ho hi
    rw [Array.getElem?_push] at ho
    split at ho
    · cases ho
      exact hc i hi
    · exact h.located p op' i ho hi

/-- Settling the hole of the innermost frame keeps a draft sound without that frame. -/
theorem Draft.Sound.settle {draft : Draft} (h : draft.Sound sizes)
    (hd : draft.frames = frame :: outer) :
    Draft.Sound sizes ⟨draft.ops.modify frame.hole (Op.retarget draft.ops.size), outer⟩ where
  hole_lt := by
    intro other hm
    rw [Array.size_modify]
    apply h.hole_lt
    rw [hd]
    exact List.mem_cons_of_mem _ hm
  forward := by
    intro p op t ho ht
    rw [Array.getElem?_modify] at ho
    rw [Array.size_modify]
    split at ho
    · rename_i hp
      obtain ⟨op', _, rfl⟩ := Option.map_eq_some_iff.1 ho
      rw [Op.target?_retarget] at ht
      obtain ⟨_, _, rfl⟩ := Option.map_eq_some_iff.1 ht
      have hl := h.hole_lt frame (hd ▸ List.mem_cons_self)
      exact .inr (by omega)
    · rename_i hp
      rcases h.forward p op t ho ht with ⟨other, hm, he⟩ | hr
      · rw [hd] at hm
        rcases List.mem_cons.1 hm with rfl | hm
        · exact absurd he hp
        · exact .inl ⟨other, hm, he⟩
      · exact .inr hr
  located := by
    intro p op i ho hi
    rw [Array.getElem?_modify] at ho
    split at ho
    · obtain ⟨op', ho', rfl⟩ := Option.map_eq_some_iff.1 ho
      rw [Op.cells_retarget] at hi
      exact h.located p op' i ho' hi
    · exact h.located p op i ho hi

theorem Atom.exists_locate {a : Atom} (h : a.lower sizes = .ok x) (hi : x.cell? = some i) :
    ∃ e : Element, e.locate sizes = .ok i := by
  cases a with
  | element e =>
    obtain ⟨j, hj, h⟩ := bind_eq_ok_iff.1 h
    cases h
    cases hi
    exact ⟨e, hj⟩
  | literal text =>
    simp only [lower] at h
    split at h
    · cases h
      cases hi
    · cases h
  | const v =>
    cases h
    cases hi

theorem Draft.Sound.add {draft draft' : Draft} (hd : draft.Sound sizes)
    (h : draft.add sizes s = .ok draft') : draft'.Sound sizes := by
  have hpush {op : Op} (hc : ∀ i ∈ op.cells, ∃ e : Element, e.locate sizes = .ok i)
      (ht : op.target? = none) : Draft.Sound sizes ⟨draft.ops.push op, draft.frames⟩ :=
    hd.push hc (fun _ hm => .inl hm) (fun _ hm => hm) (.inl ht)
  cases s with
  | assign target value =>
    obtain ⟨i, hi, h⟩ := bind_eq_ok_iff.1 h
    obtain ⟨x, hx, h⟩ := bind_eq_ok_iff.1 h
    cases h
    apply hpush _ rfl
    refine List.forall_mem_cons.2 ⟨⟨target, hi⟩, fun j hj => ?_⟩
    obtain ⟨y, hy, hj⟩ := List.mem_filterMap.1 hj
    obtain ⟨a, _, ha⟩ := exists_left_of_forall₂ (Expr.forall₂_leaves_of_tryMap hx) hy
    exact Atom.exists_locate ha hj
  | openIf cond =>
    obtain ⟨x, hx, h⟩ := bind_eq_ok_iff.1 h
    cases h
    apply hd.push
    · intro i hi
      exact Atom.exists_locate hx (Option.mem_toList.1 hi)
    · intro frame hm
      rcases List.mem_cons.1 hm with rfl | hm
      · exact .inr rfl
      · exact .inl hm
    · intro frame hm
      exact List.mem_cons_of_mem _ hm
    · exact .inr ⟨_, List.mem_cons_self, rfl⟩
  | openElse =>
    obtain ⟨ops, _ | ⟨⟨branch, _ | jump⟩, frames⟩⟩ := draft
    · cases h
    · cases h
      -- the frame of the second arm comes in before the one of the first arm is settled
      have hj : Draft.Sound sizes
          ⟨ops.push (.jump unknownTarget), ⟨branch, none⟩ :: ⟨branch, some ops.size⟩ :: frames⟩ := by
        apply hd.push (List.forall_mem_nil _)
        · intro frame hm
          simp only [List.mem_cons] at hm ⊢
          rcases hm with rfl | rfl | hm
          · exact .inl (.inl rfl)
          · exact .inr rfl
          · exact .inl (.inr hm)
        · intro frame hm
          simp only [List.mem_cons] at hm ⊢
          exact hm.imp_right .inr
        · exact .inr ⟨_, List.mem_cons_of_mem _ List.mem_cons_self, rfl⟩
      exact hj.settle rfl
    · cases h
  | closeIf =>
    obtain ⟨ops, _ | ⟨frame, frames⟩⟩ := draft
    · cases h
    · cases h
      exact hd.settle rfl
  | leave =>
    cases h
    exact hpush (List.forall_mem_nil _) rfl

theorem Draft.Sound.foldlM {draft draft' : Draft} {statements : List Statement}
    (hd : draft.Sound sizes) (h : statements.foldlM (Draft.add sizes) draft = .ok draft') :
    draft'.Sound sizes := by
  induction statements generalizing draft with
  | nil =>
    cases h
    exact hd
  | cons s statements ih =>
    obtain ⟨next, hs, h⟩ := bind_eq_ok_iff.1 h
    exact ih (hd.add hs) h

theorem Code.sound_of_ofLines {code : Code} (h : Code.ofLines sizes lines = .ok code) :
    Draft.Sound sizes ⟨code.ops, []⟩ :=
  Draft.sound_empty.foldlM (ofLines_eq_ok_iff.1 h)

theorem Code.forward_of_ofLines {code : Code} (h : Code.ofLines sizes lines = .ok code) :
    code.Forward := by
  intro p op t ho ht
  rcases (sound_of_ofLines h).forward p op t ho ht with ⟨frame, hm, _⟩ | hp
  · cases hm
  · exact hp

theorem Code.cells_lt_total {code : Code} {p : Nat} {op : Op} (hfits : sizes.Fits)
    (h : Code.ofLines sizes lines = .ok code) (ho : code.ops[p]? = some op) (hi : i ∈ op.cells) :
    i < sizes.total := by
  obtain ⟨e, he⟩ := (sound_of_ofLines h).located p op i ho hi
  exact Element.locate_lt_total hfits he

/-- In a layout that does not fit, one assignment is enough for a store outside the buffer. -/
theorem Code.exists_store_outside {sizes : Capacities} (h : ¬ sizes.Fits) :
    ∃ target i, Code.ofLines sizes [.statement (.assign target (.leaf (.const 0.0)))] =
      .ok ⟨#[.store i (.leaf (.const 0.0))]⟩ ∧ sizes.total ≤ i := by
  simp only [Capacities.fits_iff_cell_lt_total, Classical.not_forall, Nat.not_lt] at h
  obtain ⟨r, i, hi, hle⟩ := h
  refine ⟨⟨r.array, i⟩, sizes.cell r i, ?_, hle⟩
  have hlocate : Element.locate sizes ⟨r.array, i⟩ = .ok (sizes.cell r i) :=
    Element.locate_eq_ok_iff.2 ⟨r, r.ofName?_array, hi, rfl⟩
  apply ofLines_eq_ok_iff.2
  change (Draft.add sizes {} (.assign ⟨r.array, i⟩ (.leaf (.const 0.0))) >>= pure) = _
  rw [Draft.add, hlocate]
  rfl

/-- Lowered code only jumps ahead. So its loop ends after at most as many ops as there are, each
carried out at most once, and a run is that loop. In a layout that fits it only touches cells of the
buffer, and in no other layout is that so for all code. -/
theorem Code.loop_ends_within_buffer (sizes : Capacities) (lines : List Line) (code : Code)
    (h : Code.ofLines sizes lines = .ok code) :
    (∀ p op t, code.ops[p]? = some op → op.target? = some t → p < t ∧ t ≤ code.ops.size) ∧
    (sizes.Fits → ∀ op ∈ code.ops, ∀ i ∈ op.cells, i < sizes.total) ∧
    (∀ (sampler : Sampler) (b : Buffer sizes),
      (∃ visited c, code.Loop sampler 0 b visited c) ∧
      ∀ visited c, code.Loop sampler 0 b visited c →
        code.run sampler b = c ∧ visited.Pairwise (· < ·) ∧ visited.length ≤ code.ops.size ∧
        (∀ p ∈ visited, ∃ op, code.ops[p]? = some op ∧
          (sizes.Fits → ∀ i ∈ op.cells, i < b.cells.toArray.size)) ∧
        c.cells.toArray.size = b.cells.toArray.size) ∧
    (¬ sizes.Fits → ∃ target i,
      Code.ofLines sizes [.statement (.assign target (.leaf (.const 0.0)))] =
        .ok ⟨#[.store i (.leaf (.const 0.0))]⟩ ∧ sizes.total ≤ i) := by
  have hf := forward_of_ofLines h
  refine ⟨hf, ?_, fun sampler b => ⟨hf.exists_loop sampler 0 b, ?_⟩, exists_store_outside⟩
  · intro hfits op ho i hi
    obtain ⟨p, ho⟩ := Array.mem_iff_getElem?.1 ho
    exact cells_lt_total hfits h ho hi
  · intro visited c hl
    refine ⟨hl.run_eq hf, hl.pairwise_lt hf, hl.length_visited_le hf, ?_, ?_⟩
    · intro p hp
      obtain ⟨op, ho⟩ := hl.mem_visited hp
      refine ⟨op, ho, fun hfits i hi => ?_⟩
      rw [Vector.size_toArray]
      exact cells_lt_total hfits h ho hi
    · rw [Vector.size_toArray, Vector.size_toArray]

/-- Both arms of a conditional, the first with another one inside. -/
theorem Code.loop_ends_within_buffer_nested :
    let lines : List Line := [.statement (.openIf (.element ⟨"uniform", 127⟩)),
      .statement (.openIf (.literal "-0")), .statement .leave, .statement .closeIf,
      .statement .openElse, .statement (.assign ⟨"scratch_f32", 3⟩ (.leaf (.element ⟨"temp", 0⟩))),
      .statement .closeIf]
    let code : Code := ⟨#[.branchIfZero (.cell 127) 4, .branchIfZero (.const (-0.0)) 3, .leave, .jump 5,
      .store 643 (.leaf (.cell 512))]⟩
    Code.ofLines {} lines = .ok code ∧
    (∀ p op t, code.ops[p]? = some op → op.target? = some t → p < t ∧ t ≤ code.ops.size) ∧
    (∀ op ∈ code.ops, ∀ i ∈ op.cells, i < Capacities.total {}) ∧
    ∀ (sampler : Sampler) (b : Buffer {}),
      (∃ visited c, code.Loop sampler 0 b visited c) ∧
      ∀ visited c, code.Loop sampler 0 b visited c →
        code.run sampler b = c ∧ visited.Pairwise (· < ·) ∧ visited.length ≤ code.ops.size ∧
        ∀ p ∈ visited, ∃ op, code.ops[p]? = some op ∧
          ∀ i ∈ op.cells, i < b.cells.toArray.size := by
  intro lines code
  have h : Code.ofLines {} lines = .ok code := by decide +kernel
  have hfits : Capacities.Fits {} := by decide
  obtain ⟨hforward, hcells, hloop, _⟩ := Code.loop_ends_within_buffer {} lines code h
  refine ⟨h, hforward, hcells hfits, fun sampler b => ⟨(hloop sampler b).1, ?_⟩⟩
  intro visited c hl
  obtain ⟨hrun, hordered, hlength, hvisited, _⟩ := (hloop sampler b).2 visited c hl
  refine ⟨hrun, hordered, hlength, fun p hp => ?_⟩
  obtain ⟨op, ho, hin⟩ := hvisited p hp
  exact ⟨op, ho, hin hfits⟩

/-- Capacities that sum to `2 ^ 64` leave an empty buffer, and a store to the first uniform outside
of it. -/
theorem Code.store_outside_buffer :
    let sizes : Capacities := ⟨18446744073709551615, 1, 0, 0, 0, 0⟩
    let lines : List Line := [.statement (.assign ⟨"uniform_f32", 0⟩ (.leaf (.const 1.0)))]
    let code : Code := ⟨#[.store 0 (.leaf (.const 1.0))]⟩
    Code.ofLines sizes lines = .ok code ∧ sizes.total = 0 ∧
    ¬ ∀ op ∈ code.ops, ∀ i ∈ op.cells, i < sizes.total := by
  intro sizes lines code
  refine ⟨by decide +kernel, by decide, fun h => ?_⟩
  exact absurd (h (.store 0 (.leaf (.const 1.0))) (by simp [code]) 0 (by simp [Op.cells])) (by decide)

end Lanewise
