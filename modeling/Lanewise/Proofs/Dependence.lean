import Lanewise.Proofs.Safety
import Lanewise.Proofs.Snapshot

namespace Lanewise
set_option autoImplicit true

/-- The cells that an op reads. -/
def Op.reads : Op → List Nat
  | .store _ value => value.leaves.filterMap Input.cell?
  | .branchIfZero cond _ => cond.cell?.toList
  | .jump _ => []
  | .leave => []

theorem Input.value_congr {b b' : Buffer sizes} {x : Input}
    (h : ∀ i, x.cell? = some i → b.get i = b'.get i) : x.value b = x.value b' := by
  cases x with
  | cell i => exact h i rfl
  | const => rfl

/-- What a store puts into its cell does not depend on the other cells. -/
theorem Buffer.get_set_congr (b b' : Buffer sizes) (i : Nat) (v : Float32) :
    (b.set i v).get i = (b'.set i v).get i := by
  by_cases hi : i < sizes.total
  · rw [get_set_self b hi, get_set_self b' hi]
  · simp [get, hi]

namespace Code

/-- Whether one of the ops at some positions stores to a cell. -/
def Stores (code : Code) (visited : List Nat) (i : Nat) : Prop :=
  ∃ p ∈ visited, ∃ value, code.ops[p]? = some (.store i value)

/-- Whether buffers are the same in every cell that an op reads. -/
def AgreeOnReads (code : Code) (b b' : Buffer sizes) : Prop :=
  ∀ op ∈ code.ops, ∀ i ∈ op.reads, b.get i = b'.get i

/-- Whether two runs that went through the same positions have the same in the cells that they
stored to, and what they had before in all others. -/
def Tracks (code : Code) (visited : List Nat) (b b' c c' : Buffer sizes) : Prop :=
  ∀ i, code.Stores visited i ∧ c.get i = c'.get i ∨
    ¬ code.Stores visited i ∧ c.get i = b.get i ∧ c'.get i = b'.get i

theorem stores_cons {code : Code} :
    code.Stores (p :: visited) i ↔ code.Stores [p] i ∨ code.Stores visited i := by
  simp [Stores]

theorem not_stores_of_getElem? {code : Code} (ho : code.ops[p]? = some op)
    (h : ∀ value, op ≠ .store i value) : ¬ code.Stores [p] i := by
  rintro ⟨p', hp, value, ho'⟩
  cases List.mem_singleton.1 hp
  exact h value (Option.some.inj (ho.symm.trans ho'))

theorem tracks_of_no_store {code : Code} {b b' : Buffer sizes}
    (h : ∀ i, ¬ code.Stores visited i) : code.Tracks visited b b' b b' := by
  intro i
  exact .inr ⟨h i, rfl, rfl⟩

theorem Tracks.trans {code : Code} {b b' c c' d d' : Buffer sizes}
    (h : code.Tracks [p] b b' c c') (h' : code.Tracks visited c c' d d') :
    code.Tracks (p :: visited) b b' d d' := by
  intro i
  rw [stores_cons]
  rcases h' i with ⟨hs', hd⟩ | ⟨hn', hd, hd'⟩
  · exact .inl ⟨.inr hs', hd⟩
  · rw [hd, hd']
    rcases h i with ⟨hs, hc⟩ | ⟨hn, hc, hc'⟩
    · exact .inl ⟨.inl hs, hc⟩
    · exact .inr ⟨not_or.2 ⟨hn, hn'⟩, hc, hc'⟩

theorem Tracks.agreeOnReads {code : Code} {b b' c c' : Buffer sizes}
    (h : code.Tracks visited b b' c c') (ha : code.AgreeOnReads b b') : code.AgreeOnReads c c' := by
  intro op ho i hi
  rcases h i with ⟨_, hc⟩ | ⟨_, hc, hc'⟩
  · exact hc
  · rw [hc, hc', ha op ho i hi]

/-- One step goes to the same position in both runs and stores the same value. -/
theorem AgreeOnReads.step {code : Code} {b b' : Buffer sizes} (h : code.AgreeOnReads b b')
    (hs : code.step sampler p b = some (q, c)) :
    ∃ c', code.step sampler p b' = some (q, c') ∧ code.Tracks [p] b b' c c' := by
  obtain ⟨op, ho⟩ := getElem?_of_step hs
  have hreads : ∀ i ∈ op.reads, b.get i = b'.get i := h op (Array.mem_of_getElem? ho)
  rw [Code.step, ho] at hs
  rw [Code.step, ho]
  cases op with
  | store dest value =>
    cases hs
    have hvalue : value.eval sampler (Input.value b) = value.eval sampler (Input.value b') := by
      apply Expr.eval_congr
      intro x hx
      apply Input.value_congr
      intro i hi
      exact hreads i (List.mem_filterMap.2 ⟨x, hx, hi⟩)
    refine ⟨_, rfl, fun i => ?_⟩
    by_cases hd : dest = i
    · subst hd
      refine .inl ⟨⟨p, List.mem_singleton_self p, value, ho⟩, ?_⟩
      rw [hvalue]
      exact b.get_set_congr b' dest _
    · refine .inr ⟨not_stores_of_getElem? ho ?_, b.get_set_of_ne hd _, b'.get_set_of_ne hd _⟩
      intro value' he
      cases he
      exact hd rfl
  | branchIfZero cond target =>
    obtain ⟨rfl, rfl⟩ := Prod.mk.inj (Option.some.inj hs)
    have hcond : cond.value b = cond.value b' := by
      apply Input.value_congr
      intro i hi
      exact hreads i (Option.mem_toList.2 hi)
    rw [hcond]
    exact ⟨b', rfl, tracks_of_no_store fun i => not_stores_of_getElem? ho nofun⟩
  | jump target =>
    obtain ⟨rfl, rfl⟩ := Prod.mk.inj (Option.some.inj hs)
    exact ⟨b', rfl, tracks_of_no_store fun i => not_stores_of_getElem? ho nofun⟩
  | leave => cases hs

/-- Two runs from buffers that agree on what is read go through the same positions. -/
theorem Loop.tracks {code : Code} {b b' c : Buffer sizes} (h : code.Loop sampler p b visited c)
    (ha : code.AgreeOnReads b b') :
    ∃ c', code.Loop sampler p b' visited c' ∧ code.Tracks visited b b' c c' := by
  induction h generalizing b' with
  | behind ho => exact ⟨b', .behind ho, tracks_of_no_store fun i ⟨_, hp, _⟩ => nomatch hp⟩
  | leave ho =>
    exact ⟨b', .leave ho, tracks_of_no_store fun i => not_stores_of_getElem? ho nofun⟩
  | step hs _ ih =>
    obtain ⟨c', hs', ht⟩ := ha.step hs
    obtain ⟨d', hl', ht'⟩ := ih (ht.agreeOnReads ha)
    exact ⟨d', .step hs' hl', ht.trans ht'⟩

theorem Loop.visited_unique {code : Code} {b c c' : Buffer sizes}
    (h : code.Loop sampler p b visited c) (h' : code.Loop sampler p b visited' c') :
    visited' = visited := by
  induction h generalizing visited' with
  | behind ho =>
    cases h' with
    | behind => rfl
    | leave ho' => cases ho.symm.trans ho'
    | step hs => cases (step_eq_none_iff.2 (.inl ho)).symm.trans hs
  | leave ho =>
    cases h' with
    | behind ho' => cases ho.symm.trans ho'
    | leave => rfl
    | step hs => cases (step_eq_none_iff.2 (.inr ho)).symm.trans hs
  | step hs _ ih =>
    cases h' with
    | behind ho' => cases (step_eq_none_iff.2 (.inl ho')).symm.trans hs
    | leave ho' => cases (step_eq_none_iff.2 (.inr ho')).symm.trans hs
    | step hs' hl' =>
      cases hs.symm.trans hs'
      rw [ih hl']

theorem Loop.eq_iff {code : Code} {b c : Buffer sizes} (hf : code.Forward)
    (h : code.Loop sampler 0 b visited c) (visited' : List Nat) (c' : Buffer sizes) :
    code.Loop sampler 0 b visited' c' ↔ visited' = visited ∧ c' = code.run sampler b := by
  constructor
  · intro h'
    exact ⟨h.visited_unique h', (h'.run_eq hf).symm⟩
  · rintro ⟨rfl, rfl⟩
    rwa [h.run_eq hf]

/-- Two runs of lowered code from buffers that agree on the operands of the code carry out the same
ops. They end with the same in every cell that they store to and leave all others alone, so also
every cell to which the code never stores. -/
theorem run_determined_by_reads (sizes : Capacities) (lines : List Line) (code : Code)
    (h : Code.ofLines sizes lines = .ok code) (sampler : Sampler) (b b' : Buffer sizes)
    (ha : ∀ op ∈ code.ops, ∀ i ∈ op.reads, b.get i = b'.get i) :
    (∃ visited,
      (∀ visited' c, code.Loop sampler 0 b visited' c ↔
        visited' = visited ∧ c = code.run sampler b) ∧
      (∀ visited' c, code.Loop sampler 0 b' visited' c ↔
        visited' = visited ∧ c = code.run sampler b') ∧
      ∀ i,
        (∃ p ∈ visited, ∃ value, code.ops[p]? = some (.store i value)) ∧
          (code.run sampler b).get i = (code.run sampler b').get i ∨
        ¬ (∃ p ∈ visited, ∃ value, code.ops[p]? = some (.store i value)) ∧
          (code.run sampler b).get i = b.get i ∧ (code.run sampler b').get i = b'.get i) ∧
    ∀ i, (∀ value, .store i value ∉ code.ops) → (code.run sampler b).get i = b.get i := by
  have hf := forward_of_ofLines h
  obtain ⟨visited, c, hl⟩ := hf.exists_loop sampler 0 b
  obtain ⟨c', hl', ht⟩ := hl.tracks ha
  refine ⟨⟨visited, hl.eq_iff hf, hl'.eq_iff hf, ?_⟩, ?_⟩
  · rw [hl.run_eq hf, hl'.run_eq hf]
    exact ht
  · intro i hi
    rw [hl.run_eq hf]
    rcases ht i with ⟨⟨p, _, value, ho⟩, _⟩ | ⟨_, hb, _⟩
    · exact absurd (Array.mem_of_getElem? ho) (hi value)
    · exact hb

/-- Both arms of a conditional store to a cell that is read later; the buffers differ in a cell that
is only stored to and in one that does not occur. -/
theorem run_determined_by_reads_branching :
    let lines : List Line := [.statement (.openIf (.element ⟨"uniform", 0⟩)),
      .statement (.assign ⟨"temp", 0⟩ (.leaf (.element ⟨"uniform", 1⟩))), .statement .openElse,
      .statement (.assign ⟨"temp", 0⟩ (.unary .abs (.leaf (.element ⟨"temp", 1⟩)))),
      .statement .closeIf, .statement (.assign ⟨"result", 0⟩ (.leaf (.element ⟨"temp", 0⟩)))]
    let code : Code := ⟨#[.branchIfZero (.cell 0) 3, .store 512 (.leaf (.cell 1)), .jump 4,
      .store 512 (.unary .abs (.leaf (.cell 513))), .store 384 (.leaf (.cell 512))]⟩
    let b : Buffer {} := .zero
    let b' : Buffer {} := (b.set 384 1.0).set 600 2.0
    Code.ofLines {} lines = .ok code ∧
    (∀ op ∈ code.ops, ∀ i ∈ op.reads, b.get i = b'.get i) ∧
    ∀ sampler : Sampler,
      (∃ visited, code.Loop sampler 0 b visited (code.run sampler b) ∧
        code.Loop sampler 0 b' visited (code.run sampler b')) ∧
      (code.run sampler b).get 600 = b.get 600 := by
  intro lines code b b'
  have h : Code.ofLines {} lines = .ok code := by decide +kernel
  have hreads : ∀ op ∈ code.ops, ∀ i ∈ op.reads, 384 ≠ i ∧ 600 ≠ i := by decide
  have ha : ∀ op ∈ code.ops, ∀ i ∈ op.reads, b.get i = b'.get i := by
    intro op ho i hi
    obtain ⟨hresult, htemp⟩ := hreads op ho i hi
    rw [Buffer.get_set_of_ne _ htemp, Buffer.get_set_of_ne _ hresult]
  refine ⟨h, ha, fun sampler => ?_⟩
  obtain ⟨⟨visited, hl, hl', _⟩, hkeep⟩ :=
    Code.run_determined_by_reads {} lines code h sampler b b' ha
  refine ⟨⟨visited, (hl _ _).2 ⟨rfl, rfl⟩, (hl' _ _).2 ⟨rfl, rfl⟩⟩, hkeep 600 ?_⟩
  intro value hm
  simp [code] at hm

end Code

end Lanewise
