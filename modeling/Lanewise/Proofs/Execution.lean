import Lanewise.Proofs.Flow
import Lanewise.Proofs.Safety

namespace Lanewise
set_option autoImplicit true

/-- Whether a condition of this value lets its block run. Equality is that of numbers: both zeros
equal zero, and what is not a number does not. -/
def enters (x : Float32) : Bool := x != 0.0

theorem enters_neg_zero : enters (-0.0) = false := by decide +kernel

theorem enters_of_isNaN {x : Float32} (h : x.isNaN) : enters x := by
  have hx : (x == 0.0) = x.toModel.unpack.beq (0.0 : Float32).toModel.unpack := rfl
  rw [enters, bne, hx]
  cases hu : x.toModel.unpack with
  | notANumber => rfl
  | infinity | zero | finite =>
    rw [Float32.isNaN, Float32.Model.isNaN, hu] at h
    cases h

/-- What a statement does to the memory. -/
def Statement.action (sampler : Sampler) : Statement → Action (Buffer sizes)
  | .assign target value => .step fun b => b.assign target (value.eval sampler (Atom.value b))
  | .openIf cond => .openIf fun b => enters (cond.value b)
  | .openElse => .openElse
  | .closeIf => .closeIf
  | .leave => .leave

@[simp] theorem Statement.shape_action (sampler : Sampler) (s : Statement) :
    (s.action sampler : Action (Buffer sizes)).shape = s.shape := by
  cases s <;> rfl

@[simp] theorem Statement.map_shape_action (sampler : Sampler) (statements : List Statement) :
    (statements.map (Statement.action sampler : Statement → Action (Buffer sizes))).map Action.shape =
      statements.map Statement.shape := by
  simp

namespace Code

/-- Whether ops stand in the code from a position on. -/
def Holds (code : Code) (base : Nat) (seg : List Op) : Prop :=
  ∀ i op, seg[i]? = some op → code.ops[base + i]? = some op

theorem Holds.head {code : Code} (h : code.Holds base (op :: seg)) : code.ops[base]? = some op :=
  h 0 op rfl

theorem Holds.tail {code : Code} (h : code.Holds base (op :: seg)) : code.Holds (base + 1) seg := by
  intro i op' hi
  rw [Nat.add_assoc, Nat.add_comm 1 i]
  exact h (i + 1) op' hi

theorem Holds.left {code : Code} (h : code.Holds base (seg ++ seg')) : code.Holds base seg := by
  intro i op hi
  have hl := (List.getElem?_eq_some_iff.1 hi).1
  apply h i op
  rwa [List.getElem?_append_left hl]

theorem Holds.right {code : Code} (h : code.Holds base (seg ++ seg')) :
    code.Holds (base + seg.length) seg' := by
  intro i op hi
  rw [Nat.add_assoc]
  apply h (seg.length + i) op
  rwa [List.getElem?_append_right (Nat.le_add_right _ _), Nat.add_sub_cancel_left]

/-- Whether the code from a position on carries out structured actions. Behind an arm it goes on with
what follows the conditional. -/
inductive Follows {sizes : Capacities} (code : Code) (sampler : Sampler) :
    List (Action (Buffer sizes)) → Nat → Prop
  | behind : code.ops[p]? = none → Follows code sampler [] p
  | store {f : Buffer sizes → Buffer sizes} : code.ops[p]? = some (.store dest value) →
      (∀ b, f b = b.set dest (value.eval sampler (Input.value b))) →
      Follows code sampler rest (p + 1) → Follows code sampler (.step f :: rest) p
  | leave : code.ops[p]? = some .leave → Follows code sampler (.leave :: rest) p
  | jump : code.ops[p]? = some (.jump t) → Follows code sampler actions t →
      Follows code sampler actions p
  | when {taken : Buffer sizes → Bool} : code.ops[p]? = some (.branchIfZero x t) →
      (∀ b, taken b = enters (x.value b)) → Balanced (body.map Action.shape) →
      Follows code sampler (body ++ rest) (p + 1) → Follows code sampler rest t →
      Follows code sampler (.openIf taken :: (body ++ .closeIf :: rest)) p
  | choose {taken : Buffer sizes → Bool} : code.ops[p]? = some (.branchIfZero x t) →
      (∀ b, taken b = enters (x.value b)) → Balanced (yes.map Action.shape) →
      Balanced (no.map Action.shape) →
      Follows code sampler (yes ++ rest) (p + 1) → Follows code sampler (no ++ rest) t →
      Follows code sampler (.openIf taken :: (yes ++ .openElse :: (no ++ .closeIf :: rest))) p

theorem Follows.of_eq {code : Code} {actions : List (Action (Buffer sizes))}
    (h : code.Follows sampler actions p) (hp : p = q) : code.Follows sampler actions q :=
  hp ▸ h

/-- A branch goes on behind itself if the condition holds and to its target if not. -/
theorem step_branchIfZero {code : Code} {b : Buffer sizes}
    {taken : Buffer sizes → Bool} (sampler : Sampler)
    (ho : code.ops[p]? = some (.branchIfZero x t)) (ht : taken b = enters (x.value b)) :
    code.step sampler p b = some (if taken b then p + 1 else t, b) := by
  simp only [step, ho, ht, enters, bne]
  cases x.value b == 0.0 <;> rfl

/-- Code that follows structured actions ends where they end. -/
theorem Follows.simulates {code : Code} {actions : List (Action (Buffer sizes))}
    (h : code.Follows sampler actions p) (b : Buffer sizes) :
    ∃ visited c, Runs actions b c ∧ code.Loop sampler p b visited c := by
  induction h generalizing b with
  | behind ho => exact ⟨_, _, .done, .behind ho⟩
  | store ho hf _ ih =>
    obtain ⟨visited, c, hr, hl⟩ := ih (b.set _ _)
    refine ⟨_, c, .step (hf b ▸ hr), .step ?_ hl⟩
    simp only [step, ho]
  | leave ho => exact ⟨_, _, .leave, .leave ho⟩
  | jump ho _ ih =>
    obtain ⟨visited, c, hr, hl⟩ := ih b
    refine ⟨_, c, hr, .step ?_ hl⟩
    simp only [step, ho]
  | when ho ht hb _ _ ihb ih =>
    have hs := step_branchIfZero sampler ho (ht b)
    split at hs
    · rename_i htaken
      obtain ⟨visited, c, hr, hl⟩ := ihb b
      exact ⟨_, c, .when hb (by rwa [if_pos htaken]), .step hs hl⟩
    · rename_i htaken
      obtain ⟨visited, c, hr, hl⟩ := ih b
      exact ⟨_, c, .when hb (by rwa [if_neg htaken]), .step hs hl⟩
  | choose ho ht hy hn _ _ ihy ihn =>
    have hs := step_branchIfZero sampler ho (ht b)
    split at hs
    · rename_i htaken
      obtain ⟨visited, c, hr, hl⟩ := ihy b
      exact ⟨_, c, .choose hy hn (by rwa [if_pos htaken]), .step hs hl⟩
    · rename_i htaken
      obtain ⟨visited, c, hr, hl⟩ := ihn b
      exact ⟨_, c, .choose hy hn (by rwa [if_neg htaken]), .step hs hl⟩

end Code

theorem Statement.shape_eq_openIf {s : Statement} (h : s.shape = .openIf) :
    ∃ cond, s = .openIf cond := by
  cases s with
  | openIf cond => exact ⟨cond, rfl⟩
  | assign | openElse | closeIf | leave => cases h

theorem Statement.shape_eq_openElse {s : Statement} (h : s.shape = .openElse) : s = .openElse := by
  cases s with
  | openElse => rfl
  | assign | openIf | closeIf | leave => cases h

theorem Statement.shape_eq_closeIf {s : Statement} (h : s.shape = .closeIf) : s = .closeIf := by
  cases s with
  | closeIf => rfl
  | assign | openIf | openElse | leave => cases h

theorem modify_append_cons (l l' : List α) (a : α) (f : α → α) :
    (l ++ a :: l').modify l.length f = l ++ f a :: l' := by
  induction l with
  | nil => rfl
  | cons x l ih => simp [ih]

namespace Draft

theorem add_openIf {l : List Op} {cond : Atom} {outer : List Frame}
    (h : add sizes ⟨l.toArray, outer⟩ (.openIf cond) = .ok draft) :
    ∃ x, cond.lower sizes = .ok x ∧
      draft = ⟨(l ++ [Op.branchIfZero x unknownTarget]).toArray, ⟨l.length, none⟩ :: outer⟩ := by
  obtain ⟨x, hx, h⟩ := bind_eq_ok_iff.1 h
  cases h
  refine ⟨x, hx, ?_⟩
  rw [List.push_toArray, List.size_toArray]

theorem add_openElse (sizes : Capacities) (l seg : List Op) (op : Op) (outer : List Frame) :
    add sizes ⟨(l ++ op :: seg).toArray, ⟨l.length, none⟩ :: outer⟩ .openElse =
      .ok ⟨(l ++ op.retarget (l.length + 1 + seg.length + 1) :: (seg ++ [.jump unknownTarget])).toArray,
        ⟨l.length, some (l.length + 1 + seg.length)⟩ :: outer⟩ := by
  have hl : (l ++ op :: seg).length = l.length + 1 + seg.length := by
    simp only [List.length_append, List.length_cons]
    omega
  have hl' : (l ++ op :: (seg ++ [.jump unknownTarget])).length = l.length + 1 + seg.length + 1 := by
    simp only [List.length_append, List.length_cons, List.length_nil]
    omega
  simp only [add, List.push_toArray, List.modify_toArray, List.append_assoc, List.cons_append,
    List.size_toArray, modify_append_cons, hl, hl']

/-- The end of an arm settles the target of the op that waits for it. -/
theorem add_closeIf (sizes : Capacities) (l seg : List Op) (op : Op) (outer : List Frame)
    (hf : frame.hole = l.length) :
    add sizes ⟨(l ++ op :: seg).toArray, frame :: outer⟩ .closeIf =
      .ok ⟨(l ++ op.retarget (l.length + 1 + seg.length) :: seg).toArray, outer⟩ := by
  have hl : (l ++ op :: seg).length = l.length + 1 + seg.length := by
    simp only [List.length_append, List.length_cons]
    omega
  simp only [add, List.modify_toArray, hf, modify_append_cons, List.size_toArray, hl]

end Draft

/-- Whether ops that stand from a position on carry out statements, whatever the code goes on with
behind them. -/
def Code.Implements (sizes : Capacities) (base : Nat) (seg : List Op) (statements : List Statement) :
    Prop :=
  ∀ (code : Code) (sampler : Sampler) (rest : List (Action (Buffer sizes))),
    code.Holds base seg → code.Follows sampler rest (base + seg.length) →
    code.Follows sampler (statements.map (Statement.action sampler) ++ rest) base

namespace Code.Implements

theorem of_eq (h : Implements sizes base seg statements) (hb : base = base') :
    Implements sizes base' seg statements :=
  hb ▸ h

theorem nil (sizes : Capacities) (base : Nat) : Implements sizes base [] [] := by
  intro code sampler rest _ hr
  exact hr

theorem assign (hi : Element.locate sizes target = .ok i) (hx : value.tryMap (Atom.lower sizes) = .ok x)
    (h : Implements sizes (base + 1) seg statements) :
    Implements sizes base (.store i x :: seg) (.assign target value :: statements) := by
  intro code sampler rest hh hr
  refine .store hh.head (fun b => ?_) (h code sampler rest hh.tail (hr.of_eq ?_))
  · rw [b.assign_eq_set hi, Expr.eval_tryMap hx fun a y hy => Atom.value_lower hy b]
  · simp only [List.length_cons]
    omega

theorem leave (sizes : Capacities) (base : Nat) (seg : List Op) (statements : List Statement) :
    Implements sizes base (.leave :: seg) (.leave :: statements) := by
  intro code sampler rest hh _
  exact .leave hh.head

theorem when {cond : Atom} (hx : cond.lower sizes = .ok x)
    (hb : Balanced (body.map Statement.shape)) (hseg : Implements sizes (base + 1) seg body)
    (hafter : Implements sizes (base + 1 + seg.length) segR after) :
    Implements sizes base (.branchIfZero x (base + 1 + seg.length) :: (seg ++ segR))
      (.openIf cond :: (body ++ .closeIf :: after)) := by
  intro code sampler rest hh hr
  simp only [List.length_cons, List.length_append] at hr
  have hrest := hafter code sampler rest hh.tail.right (hr.of_eq (by omega))
  have hbody := hseg code sampler _ hh.tail.left hrest
  simp only [List.map_cons, List.map_append, List.cons_append, List.append_assoc]
  refine .when hh.head (fun b => ?_) ?_ hbody hrest
  · rw [Atom.value_lower hx]
  · rwa [Statement.map_shape_action]

theorem choose {cond : Atom} (hx : cond.lower sizes = .ok x)
    (hy : Balanced (yes.map Statement.shape)) (hn : Balanced (no.map Statement.shape))
    (hsegY : Implements sizes (base + 1) segY yes)
    (hsegN : Implements sizes (base + 1 + segY.length + 1) segN no)
    (hafter : Implements sizes (base + 1 + segY.length + 1 + segN.length) segR after) :
    Implements sizes base (.branchIfZero x (base + 1 + segY.length + 1) ::
        (segY ++ .jump (base + 1 + segY.length + 1 + segN.length) :: (segN ++ segR)))
      (.openIf cond :: (yes ++ .openElse :: (no ++ .closeIf :: after))) := by
  intro code sampler rest hh hr
  simp only [List.length_cons, List.length_append] at hr
  have hrest := hafter code sampler rest hh.tail.right.tail.right (hr.of_eq (by omega))
  have hno := hsegN code sampler _ hh.tail.right.tail.left hrest
  have hyes := hsegY code sampler _ hh.tail.left (.jump hh.tail.right.head hrest)
  simp only [List.map_cons, List.map_append, List.cons_append, List.append_assoc]
  refine .choose hh.head (fun b => ?_) ?_ ?_ hyes hno
  · rw [Atom.value_lower hx]
  · rwa [Statement.map_shape_action]
  · rwa [Statement.map_shape_action]

end Code.Implements

/-- Balanced statements leave what is drafted before them as it is and add ops that carry them out. -/
theorem Balanced.exists_segment (hb : Balanced xs) {statements : List Statement} {l : List Op}
    (he : statements.map Statement.shape = xs)
    (h : statements.foldlM (Draft.add sizes) ⟨l.toArray, frames⟩ = .ok draft) :
    ∃ seg, draft = ⟨(l ++ seg).toArray, frames⟩ ∧
      Code.Implements sizes l.length seg statements := by
  induction hb generalizing statements l frames draft with
  | empty =>
    rw [List.map_eq_nil_iff] at he
    subst he
    cases h
    exact ⟨[], by rw [List.append_nil], .nil sizes _⟩
  | plain _ ih =>
    obtain ⟨s, tail, rfl, hs, ht⟩ := List.map_eq_cons_iff.1 he
    obtain ⟨next, hn, h⟩ := bind_eq_ok_iff.1 h
    cases s with
    | assign target value =>
      obtain ⟨i, hi, hn⟩ := bind_eq_ok_iff.1 hn
      obtain ⟨x, hx, hn⟩ := bind_eq_ok_iff.1 hn
      cases hn
      rw [List.push_toArray] at h
      obtain ⟨seg, rfl, hseg⟩ := ih ht h
      exact ⟨.store i x :: seg, by simp, .assign hi hx (hseg.of_eq (by simp))⟩
    | leave =>
      cases hn
      rw [List.push_toArray] at h
      obtain ⟨seg, rfl, -⟩ := ih ht h
      exact ⟨.leave :: seg, by simp, .leave sizes _ seg tail⟩
    | openIf | openElse | closeIf => cases hs
  | when hb _ ihb ih =>
    obtain ⟨s, tail, rfl, hs, htail⟩ := List.map_eq_cons_iff.1 he
    obtain ⟨body, s', after, rfl, rfl, hs', rfl⟩ := map_eq_append_cons htail
    obtain ⟨cond, rfl⟩ := Statement.shape_eq_openIf hs
    obtain rfl := Statement.shape_eq_closeIf hs'
    obtain ⟨next, hadd, h⟩ := bind_eq_ok_iff.1 h
    obtain ⟨x, hx, rfl⟩ := Draft.add_openIf hadd
    rw [List.foldlM_append] at h
    obtain ⟨next, hfold, h⟩ := bind_eq_ok_iff.1 h
    obtain ⟨seg, rfl, hseg⟩ := ihb rfl hfold
    rw [List.append_assoc, List.singleton_append, List.foldlM_cons,
      Draft.add_closeIf sizes l seg _ _ rfl] at h
    obtain ⟨segR, rfl, hsegR⟩ := ih rfl h
    refine ⟨.branchIfZero x (l.length + 1 + seg.length) :: (seg ++ segR), by simp [Op.retarget], ?_⟩
    exact .when hx hb (hseg.of_eq (by simp)) (hsegR.of_eq (by simp; omega))
  | choose hy hn _ ihy ihn ih =>
    obtain ⟨s, tail, rfl, hs, htail⟩ := List.map_eq_cons_iff.1 he
    obtain ⟨yes, s', tail, rfl, rfl, hs', harm⟩ := map_eq_append_cons htail
    obtain ⟨no, s'', after, rfl, rfl, hs'', rfl⟩ := map_eq_append_cons harm
    obtain ⟨cond, rfl⟩ := Statement.shape_eq_openIf hs
    obtain rfl := Statement.shape_eq_openElse hs'
    obtain rfl := Statement.shape_eq_closeIf hs''
    obtain ⟨next, hadd, h⟩ := bind_eq_ok_iff.1 h
    obtain ⟨x, hx, rfl⟩ := Draft.add_openIf hadd
    rw [List.foldlM_append] at h
    obtain ⟨next, hfold, h⟩ := bind_eq_ok_iff.1 h
    obtain ⟨segY, rfl, hsegY⟩ := ihy rfl hfold
    rw [List.append_assoc, List.singleton_append, List.foldlM_cons, Draft.add_openElse] at h
    obtain ⟨next, hadd, h⟩ := bind_eq_ok_iff.1 h
    cases hadd
    rw [List.foldlM_append] at h
    obtain ⟨next, hfold, h⟩ := bind_eq_ok_iff.1 h
    obtain ⟨segN, rfl, hsegN⟩ := ihn rfl hfold
    -- The frame now waits for the jump that ends the first arm.
    have hsplit : ∀ t, l ++ (Op.branchIfZero x unknownTarget).retarget t ::
        (segY ++ [.jump unknownTarget]) ++ segN =
        (l ++ .branchIfZero x t :: segY) ++ .jump unknownTarget :: segN := by
      simp [Op.retarget]
    rw [hsplit, List.foldlM_cons, Draft.add_closeIf _ _ _ _ _ (by simp [Frame.hole]; omega)] at h
    obtain ⟨segR, rfl, hsegR⟩ := ih rfl h
    refine ⟨.branchIfZero x (l.length + 1 + segY.length + 1) :: (segY ++
      .jump (l.length + 1 + segY.length + 1 + segN.length) :: (segN ++ segR)), ?_, ?_⟩
    · simp [Op.retarget]
      omega
    · exact .choose hx hy hn (hsegY.of_eq (by simp)) (hsegN.of_eq (by simp; omega))
        (hsegR.of_eq (by simp; omega))

theorem Code.runs_of_ofLines {code : Code} (h : Code.ofLines sizes lines = .ok code)
    (sampler : Sampler) (b : Buffer sizes) :
    Runs ((lines.filterMap Line.statement?).map (Statement.action sampler)) b
      (code.run sampler b) := by
  have hfold := ofLines_eq_ok_iff.1 h
  obtain ⟨hb, _⟩ := Draft.exists_foldlM_iff.1 ⟨_, hfold⟩
  obtain ⟨seg, hd, hseg⟩ := hb.exists_segment (l := []) rfl hfold
  have hops : code.ops = seg.toArray := congrArg Draft.ops hd
  have hholds : code.Holds 0 seg := by
    intro i op hi
    rwa [hops, Nat.zero_add, List.getElem?_toArray]
  have hend : code.ops[0 + seg.length]? = none := by
    rw [hops, Nat.zero_add, List.getElem?_toArray, List.getElem?_length]
  have hfollows := hseg code sampler [] hholds (.behind hend)
  rw [List.append_nil] at hfollows
  obtain ⟨visited, c, hr, hl⟩ := hfollows.simulates b
  rwa [hl.run_eq (forward_of_ofLines h)]

/-- A run of lowered code is the run of the statements that it was lowered from. -/
theorem Code.runs_iff_run_eq (sizes : Capacities) (lines : List Line) (code : Code)
    (h : Code.ofLines sizes lines = .ok code) (sampler : Sampler) (b b' : Buffer sizes) :
    (Runs ((lines.filterMap Line.statement?).map (Statement.action sampler)) b b' ↔
      code.run sampler b = b') ∧
    enters (-0.0) = false ∧ ∀ x : Float32, x.isNaN → enters x := by
  have hr := runs_of_ofLines h sampler b
  refine ⟨⟨fun hr' => hr.deterministic hr', ?_⟩, enters_neg_zero, fun x hx => enters_of_isNaN hx⟩
  intro he
  rwa [← he]

/-- A return in the first arm of a conditional inside another one. -/
theorem Code.runs_iff_run_eq_nested :
    let lines : List Line := [.trace "nested", .statement (.openIf (.element ⟨"uniform", 0⟩)),
      .statement (.openIf (.literal " 1 ")), .statement .leave, .statement .openElse,
      .statement .closeIf, .blank, .statement .closeIf,
      .statement (.assign ⟨"temp_f32", 1⟩ (.leaf (.element ⟨"temp", 0⟩)))]
    let code : Code := ⟨#[.branchIfZero (.cell 0) 4, .branchIfZero (.const 1.0) 4, .leave, .jump 4,
      .store 513 (.leaf (.cell 512))]⟩
    Code.ofLines {} lines = .ok code ∧
    ∀ (sampler : Sampler) (b b' : Buffer {}),
      (Runs ((lines.filterMap Line.statement?).map (Statement.action sampler)) b b' ↔
        code.run sampler b = b') ∧
      enters (-0.0) = false ∧ ∀ x : Float32, x.isNaN → enters x := by
  intro lines code
  have h : Code.ofLines {} lines = .ok code := by decide +kernel
  exact ⟨h, Code.runs_iff_run_eq {} lines code h⟩

end Lanewise
