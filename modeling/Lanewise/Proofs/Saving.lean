import Lanewise.Proofs.Collision
import Lanewise.Proofs.Operands
import Mathlib.Data.Set.Card

namespace Lanewise
set_option autoImplicit true

/-- The elements that one of the writes sets and a later one reads. -/
def overwritten (writes : List Write) : Set Element :=
  {e | ∃ (p q : Nat) (w v : Write), p < q ∧ writes[p]? = some w ∧ writes[q]? = some v ∧
    w.target = e ∧ e ∈ v.value.elements}

theorem mem_overwritten_cons : e ∈ overwritten (w :: later) ↔
    (w.target = e ∧ ∃ v ∈ later, e ∈ v.value.elements) ∨ e ∈ overwritten later := by
  constructor
  · rintro ⟨p, q, u, v, hlt, hu, hv, ht, he⟩
    cases q with
    | zero => cases hlt
    | succ q =>
      cases p with
      | zero =>
        cases hu
        exact .inl ⟨ht, v, List.mem_of_getElem? hv, he⟩
      | succ p => exact .inr ⟨p, q, u, v, Nat.lt_of_succ_lt_succ hlt, hu, hv, ht, he⟩
  · rintro (⟨ht, v, hm, he⟩ | ⟨p, q, u, v, hlt, hu, hv, ht, he⟩)
    · obtain ⟨q, hv⟩ := List.mem_iff_getElem?.1 hm
      exact ⟨0, q + 1, w, v, Nat.zero_lt_succ q, rfl, hv, ht, he⟩
    · exact ⟨p + 1, q + 1, u, v, Nat.succ_lt_succ hlt, hu, hv, ht, he⟩

theorem mem_overlaps_iff : e ∈ overlaps writes ↔ e ∈ overwritten writes := by
  induction writes with
  | nil =>
    constructor
    · intro h
      cases h
    · rintro ⟨p, q, w, v, _, hw, _⟩
      cases hw
  | cons w later ih =>
    rw [mem_overwritten_cons, ← ih, overlaps]
    split
    · rename_i ha
      obtain ⟨v, hm, hv⟩ := List.any_eq_true.1 ha
      rw [List.mem_cons]
      constructor
      · rintro (rfl | h)
        · exact .inl ⟨rfl, v, hm, List.contains_iff_mem.1 hv⟩
        · exact .inr h
      · rintro (⟨rfl, _⟩ | h)
        · exact .inl rfl
        · exact .inr h
    · rename_i ha
      constructor
      · exact .inr
      · rintro (⟨rfl, v, hm, hv⟩ | h)
        · have hread : later.any (fun v => v.value.elements.contains w.target) = true :=
            List.any_eq_true.2 ⟨v, hm, List.contains_iff_mem.2 hv⟩
          exact absurd hread ha
        · exact h

theorem mem_hazards_iff : e ∈ hazards writes ↔ e ∈ overwritten writes :=
  mem_hazards.trans mem_overlaps_iff

theorem nodup_hazards (writes : List Write) : (hazards writes).Nodup := nodup_eraseDups _

theorem length_hazards_eq (writes : List Write) :
    (hazards writes).length = (overwritten writes).ncard := by
  have hset : overwritten writes = (hazards writes).toFinset := by
    ext e
    rw [← mem_hazards_iff, List.coe_toFinset]
    rfl
  rw [hset, Set.ncard_coe_finset, List.toFinset_card_of_nodup (nodup_hazards writes)]

/-- Nothing is read behind the last write. -/
theorem length_overlaps_le (writes : List Write) : (overlaps writes).length ≤ writes.length - 1 := by
  induction writes with
  | nil => exact Nat.le_refl 0
  | cons w later ih =>
    rw [overlaps]
    cases later with
    | nil => exact Nat.le_refl 0
    | cons v later =>
      simp only [List.length_cons, Nat.add_sub_cancel] at ih ⊢
      split
      · exact Nat.succ_le_succ ih
      · exact Nat.le_succ_of_le ih

theorem length_hazards_le_pred (writes : List Write) :
    (hazards writes).length ≤ writes.length - 1 := by
  have hsub : hazards writes ⊆ overlaps writes := fun e he => mem_hazards.1 he
  have hle := ((nodup_hazards writes).subperm hsub).length_le
  exact Nat.le_trans hle (length_overlaps_le writes)

theorem scratchElement_eq (n : Nat) : scratchElement n = ⟨"scratch_f32", n⟩ := by
  have harray : Region.scratch.array = "scratch_f32" := by decide +kernel
  rw [scratchElement, harray]

theorem length_copies (saved : List Element) : (copies saved 0).length = saved.length := by
  rw [copies, List.length_map, List.length_zipIdx]

theorem getElem?_copies (saved : List Element) (n : Nat) : (copies saved 0)[n]? =
    saved[n]?.map fun x => .assign (scratchElement n) (.leaf (.element x)) := by
  rw [copies, List.getElem?_map, List.getElem?_zipIdx, Option.map_map, Nat.zero_add]
  rfl

theorem length_sequentialize (writes : List Write) :
    (sequentialize writes).length = writes.length + (hazards writes).length := by
  rw [sequentialize_eq, List.length_append, length_copies, List.length_map, Nat.add_comm]

theorem getElem?_sequentialize_left {n : Nat} (h : (hazards writes)[n]? = some e) :
    (sequentialize writes)[n]? = some (.assign ⟨"scratch_f32", n⟩ (.leaf (.element e))) := by
  have hlt := (List.getElem?_eq_some_iff.1 h).1
  rw [sequentialize_eq, List.getElem?_append_left (by rwa [length_copies]), getElem?_copies, h,
    scratchElement_eq]
  rfl

theorem exists_saved_of_lt {n : Nat} (h : n < (overwritten writes).ncard) :
    ∃ e ∈ overwritten writes,
      (sequentialize writes)[n]? = some (.assign ⟨"scratch_f32", n⟩ (.leaf (.element e))) := by
  rw [← length_hazards_eq] at h
  have he := List.getElem?_eq_getElem h
  exact ⟨_, mem_hazards_iff.1 (List.mem_of_getElem? he), getElem?_sequentialize_left he⟩

theorem exists_copy_of_mem (h : e ∈ overwritten writes) :
    ∃ n < (overwritten writes).ncard,
      (sequentialize writes)[n]? = some (.assign ⟨"scratch_f32", n⟩ (.leaf (.element e))) := by
  obtain ⟨n, hn⟩ := List.mem_iff_getElem?.1 (mem_hazards_iff.2 h)
  have hlt := (List.getElem?_eq_some_iff.1 hn).1
  rw [length_hazards_eq] at hlt
  exact ⟨n, hlt, getElem?_sequentialize_left hn⟩

theorem getElem?_sequentialize_right (writes : List Write) (p : Nat) :
    (sequentialize writes)[(hazards writes).length + p]? =
      writes[p]?.map fun w => .assign w.target (w.value.map (redirect (hazards writes))) := by
  have hlength := length_copies (hazards writes)
  rw [sequentialize_eq, List.getElem?_append_right (by omega), hlength, Nat.add_sub_cancel_left,
    List.getElem?_map]

theorem redirect_cases (saved : List Element) (a : Atom) : redirect saved a = a ∨
    ∃ n x, a = .element x ∧ saved[n]? = some x ∧ redirect saved a = .element (scratchElement n) := by
  cases a with
  | element x =>
    rw [redirect]
    split
    · rename_i n hn
      obtain ⟨hl, hx, _⟩ := List.findIdx?_eq_some_iff_getElem.1 hn
      refine .inr ⟨n, x, rfl, ?_, rfl⟩
      rw [List.getElem?_eq_getElem hl, eq_of_beq hx]
    · exact .inl rfl
  | literal | const => exact .inl rfl

theorem Element.inBounds_scratchElement (h : n < sizes.of .scratch) :
    (scratchElement n).InBounds sizes :=
  ⟨.scratch, Region.ofName?_array .scratch, h⟩

/-- The writes as assignments, with nothing saved before. -/
def plainAssignments (writes : List Write) : List Statement :=
  writes.map fun w => .assign w.target w.value

/-- Saving elements needs nothing of a buffer but room for the copies. -/
theorem valid_sequentialize_iff (hroom : (hazards writes).length ≤ sizes.of .scratch) :
    (∀ s ∈ sequentialize writes, ∀ a ∈ s.atoms, a.Valid sizes) ↔
      ∀ s ∈ plainAssignments writes, ∀ a ∈ s.atoms, a.Valid sizes := by
  have hcopy : ∀ n x, (hazards writes)[n]? = some x →
      (Atom.element (scratchElement n)).Valid sizes := by
    intro n x hn
    have hlt := (List.getElem?_eq_some_iff.1 hn).1
    exact Element.inBounds_scratchElement (Nat.lt_of_lt_of_le hlt hroom)
  simp only [sequentialize_eq, plainAssignments, List.forall_mem_append, List.forall_mem_map,
    Statement.atoms, List.forall_mem_cons, Expr.leaves_map]
  constructor
  · rintro ⟨_, hwrites⟩ w hw
    refine ⟨(hwrites w hw).1, ?_⟩
    intro a ha
    have hread := (hwrites w hw).2 a ha
    obtain he | ⟨n, x, rfl, hn, _⟩ := redirect_cases (hazards writes) a
    · rwa [he] at hread
    · -- What is saved is written, too.
      obtain ⟨⟨v, hv, rfl⟩, _⟩ := overlaps_subset (mem_hazards.1 (List.mem_of_getElem? hn))
      exact (hwrites v hv).1
  · intro hplain
    constructor
    · intro s hs
      obtain ⟨n, hn⟩ := List.mem_iff_getElem?.1 hs
      rw [getElem?_copies] at hn
      obtain ⟨x, hx, rfl⟩ := Option.map_eq_some_iff.1 hn
      obtain ⟨⟨v, hv, rfl⟩, _⟩ := overlaps_subset (mem_hazards.1 (List.mem_of_getElem? hx))
      simp only [Expr.leaves, List.forall_mem_cons]
      exact ⟨hcopy n _ hx, (hplain v hv).1, List.forall_mem_nil _⟩
    · intro w hw
      refine ⟨(hplain w hw).1, ?_⟩
      intro a ha
      obtain he | ⟨n, x, _, hn, he⟩ := redirect_cases (hazards writes) a
      · rw [he]
        exact (hplain w hw).2 a ha
      · rw [he]
        exact hcopy n x hn

theorem balanced_of_assigns {block : List Statement}
    (h : ∀ s ∈ block, ∃ target value, s = .assign target value) :
    Balanced (block.map Statement.shape) := by
  induction block with
  | nil => exact .empty
  | cons s block ih =>
    obtain ⟨⟨target, value, rfl⟩, hrest⟩ := List.forall_mem_cons.1 h
    exact .plain (ih hrest)

/-- Assignments can be lowered if all of their operands have values. -/
theorem Code.exists_ofLines_iff
    (h : ∀ s ∈ lines.filterMap Line.statement?, ∃ target value, s = .assign target value) :
    (∃ code, Code.ofLines sizes lines = .ok code) ↔
      ∀ s ∈ lines.filterMap Line.statement?, ∀ a ∈ s.atoms, a.Valid sizes := by
  have hcode : (∃ code, Code.ofLines sizes lines = .ok code) ↔
      ∃ ops, (lines.filterMap Line.statement?).foldlM (Draft.add sizes) {} = .ok ⟨ops, []⟩ := by
    simp only [ofLines_eq_ok_iff]
    exact ⟨fun ⟨code, h⟩ => ⟨code.ops, h⟩, fun ⟨ops, h⟩ => ⟨⟨ops⟩, h⟩⟩
  rw [hcode, Draft.exists_foldlM_iff]
  exact and_iff_right (balanced_of_assigns h)

theorem Code.exists_ofLines_sequentialize_iff
    (hs : lines.filterMap Line.statement? = sequentialize writes)
    (hroom : (hazards writes).length ≤ sizes.of .scratch) :
    (∃ code, Code.ofLines sizes lines = .ok code) ↔
      ∃ code, Code.ofLines sizes ((plainAssignments writes).map .statement) = .ok code := by
  have hplain : ((plainAssignments writes).map Line.statement).filterMap Line.statement? =
      plainAssignments writes := by
    rw [List.filterMap_map]
    exact List.filterMap_some
  rw [exists_ofLines_iff, exists_ofLines_iff, hs, hplain]
  · exact valid_sequentialize_iff hroom
  · rw [hplain]
    intro s hm
    obtain ⟨w, _, rfl⟩ := List.mem_map.1 hm
    exact ⟨_, _, rfl⟩
  · rw [hs]
    exact fun s hm => sequentialize_assigns hm

theorem targets_laneWrites {name : String} {address : Nat} {swizzle : Option String}
    (h : (Operand.register name address swizzle).resolve .destination =
      .ok (.elements array start channels)) (body : Expr Hole) (sources : List (Option Access)) :
    (laneWrites body array start channels sources).map Write.target =
      (selectedChannels swizzle).map fun c => ⟨arrayName name, 4 * address + c⟩ := by
  have hchannels : channels = selectedChannels swizzle := by
    obtain ⟨_, _, he⟩ := resolve_register_eq_ok_iff.1 h
    cases he
    rfl
  rw [← hchannels, laneWrites, List.map_map]
  conv_rhs => rw [← List.zipIdx_map_fst 0 channels, List.map_map]
  apply List.map_congr_left
  rintro ⟨c, p⟩ hm
  have hp : channels[p]? = some c := List.mem_zipIdx_iff_getElem?.1 hm
  have hlt := (List.getElem?_eq_some_iff.1 hp).1
  obtain ⟨channel, _, hc, hat, _⟩ := atomAt_of_resolve h p
  rw [← hchannels, Nat.min_eq_left (by omega), hp] at hc
  cases hc
  exact Atom.element.inj hat

theorem Expr.map_eq_self {f : α → α} (hf : ∀ a, f a = a) (e : Expr α) : e.map f = e := by
  induction e with
  | leaf a => rw [map, hf]
  | unary fn x ih => rw [map, ih]
  | binary fn a b iha ihb => rw [map, iha, ihb]
  | select c x y ihc ihx ihy => rw [map, ihc, ihx, ihy]
  | sample u v lod n ihu ihv ihl => rw [map, ihu, ihv, ihl]

theorem sequentialize_eq_plain (h : hazards writes = []) :
    sequentialize writes = plainAssignments writes := by
  have hsame : ∀ a, redirect [] a = a := by
    intro a
    obtain he | ⟨n, x, _, hn, _⟩ := redirect_cases [] a
    · exact he
    · cases hn
  rw [sequentialize_eq, h, plainAssignments]
  simp only [Expr.map_eq_self hsame]
  rfl

theorem mem_elements_redirect {v : Expr Atom} (h : e ∈ (v.map (redirect saved)).elements) :
    e ∈ v.elements ∨ ∃ n < saved.length, e = scratchElement n := by
  rw [Expr.mem_elements, Expr.leaves_map] at h
  obtain ⟨a, ha, he⟩ := List.mem_map.1 h
  obtain hsame | ⟨n, x, _, hn, hcopy⟩ := redirect_cases saved a
  · have hread : a = .element e := hsame.symm.trans he
    exact .inl (Expr.mem_elements.2 (hread ▸ ha))
  · have hlt := (List.getElem?_eq_some_iff.1 hn).1
    exact .inr ⟨n, hlt, Atom.element.inj (he.symm.trans hcopy)⟩

/-- The assignments follow the copies; they read what they have read before, or copies. -/
theorem exists_value_of_getElem? {p : Nat} (h : writes[p]? = some w) :
    ∃ value, (sequentialize writes)[(overwritten writes).ncard + p]? =
        some (.assign w.target value) ∧
      ∀ e ∈ value.elements, e ∈ w.value.elements ∨
        ∃ n < (overwritten writes).ncard, e = ⟨"scratch_f32", n⟩ := by
  rw [← length_hazards_eq]
  refine ⟨w.value.map (redirect (hazards writes)), ?_, ?_⟩
  · rw [getElem?_sequentialize_right, h]
    rfl
  · intro e he
    simp only [← scratchElement_eq]
    exact mem_elements_redirect he

namespace Instruction.Lanes

variable {i : Instruction} {opcode : Opcode} (l : i.Lanes opcode)
include l

theorem targets_eq : i.writes.map Write.target =
    (selectedChannels l.swizzle).map fun c => ⟨arrayName l.name, 4 * l.address + c⟩ := by
  rw [l.writes_eq]
  exact targets_laneWrites l.access_eq l.body l.resolved.sources

theorem length_writes : 1 ≤ i.writes.length ∧ i.writes.length ≤ 4 := by
  obtain ⟨_, hm, _⟩ := resolve_register_eq_ok_iff.1 l.access_eq
  have hlength : i.writes.length = (selectedChannels l.swizzle).length := by
    have htargets := congrArg List.length l.targets_eq
    rwa [List.length_map, List.length_map] at htargets
  rw [hlength]
  exact length_selectedChannels hm

end Instruction.Lanes

/-- A vector instruction with `k` channels to write saves `h` elements, fewer than `k`: just those
that one position overwrites and a later one reads. The copies come first, in the first elements of
scratch, and with room for three of them the block can be lowered if its assignments can. -/
theorem Instruction.vector_block_saves_few (traced : Bool) (i : Instruction) (opcode : Opcode)
    (lines : List Line) (ho : Opcode.ofName? i.op = some opcode)
    (hv : opcode.isControlFlow = false) (he : i.expand traced = ⟨lines, none⟩) :
    let block := lines.filterMap Line.statement?
    let k := i.writes.length
    let h := (overwritten i.writes).ncard
    (∃ name address swizzle, i.dest = some (.register name address swizzle) ∧
      i.writes.map Write.target =
        (selectedChannels swizzle).map fun c => ⟨arrayName name, 4 * address + c⟩) ∧
    (1 ≤ k ∧ k ≤ 4) ∧ block.length = k + h ∧ h ≤ k - 1 ∧
    (∀ n < h, ∃ e ∈ overwritten i.writes,
      block[n]? = some (.assign ⟨"scratch_f32", n⟩ (.leaf (.element e)))) ∧
    (∀ e ∈ overwritten i.writes, ∃ n < h,
      block[n]? = some (.assign ⟨"scratch_f32", n⟩ (.leaf (.element e)))) ∧
    (∀ p w, i.writes[p]? = some w → ∃ value, block[h + p]? = some (.assign w.target value) ∧
      ∀ e ∈ value.elements, e ∈ w.value.elements ∨ ∃ n < h, e = ⟨"scratch_f32", n⟩) ∧
    (∀ sizes : Capacities, 3 ≤ sizes.scratch →
      ((∃ code, Code.ofLines sizes lines = .ok code) ↔
        ∃ code, Code.ofLines sizes ((plainAssignments i.writes).map .statement) = .ok code)) ∧
    (h = 0 → block = plainAssignments i.writes) := by
  intro block k h
  have hblock : i.statements = .ok block := by
    apply Entry.statements_of_expand
    rw [Entry.expand, he]
  obtain ⟨l, hs⟩ := exists_lanes hblock ho hv
  have hk := l.length_writes
  have hh : (hazards i.writes).length = h := length_hazards_eq i.writes
  have hfew : h ≤ k - 1 := hh ▸ length_hazards_le_pred i.writes
  rw [hs]
  refine ⟨⟨l.name, l.address, l.swizzle, l.dest_eq, l.targets_eq⟩, hk, ?_, hfew,
    fun n => exists_saved_of_lt, fun e => exists_copy_of_mem, fun p w => exists_value_of_getElem?,
    ?_, ?_⟩
  · rw [length_sequentialize, hh]
  · intro sizes hroom
    apply Code.exists_ofLines_sequentialize_iff hs
    have hthree : (hazards i.writes).length ≤ 3 := by omega
    exact Nat.le_trans hthree hroom
  · intro hnone
    apply sequentialize_eq_plain
    rw [← List.length_eq_zero_iff, hh, hnone]

/-- A rotation of a whole register saves all but one of its elements, and needs no more scratch. -/
theorem Instruction.vector_block_saves_few_rotation :
    let rotation : Instruction := ⟨"MOV", some (.register "temp" 0 none),
      some (.register "temp_f32" 0 (some "wxyz")), none, none⟩
    let element (n : Nat) : Element := ⟨"temp_f32", n⟩
    let copy (n : Nat) : Element := ⟨"scratch_f32", n⟩
    let block : List Statement := [.assign (copy 0) (.leaf (.element (element 0))),
      .assign (copy 1) (.leaf (.element (element 1))),
      .assign (copy 2) (.leaf (.element (element 2))),
      .assign (element 0) (.leaf (.element (element 3))),
      .assign (element 1) (.leaf (.element (copy 0))),
      .assign (element 2) (.leaf (.element (copy 1))),
      .assign (element 3) (.leaf (.element (copy 2)))]
    let lines : List Line := block.map .statement ++ [.blank]
    let sizes : Capacities := { temps := 4, scratch := 3 }
    rotation.expand false = ⟨lines, none⟩ ∧ (overwritten rotation.writes).ncard = 3 ∧
      ∃ code, Code.ofLines sizes lines = .ok code := by
  intro rotation element copy block lines sizes
  have he : rotation.expand false = ⟨lines, none⟩ := by decide +kernel
  obtain ⟨_, _, hlength, _, _, _, _, hlower, _⟩ := Instruction.vector_block_saves_few false rotation
    .mov lines (by decide +kernel) rfl he
  have hk : rotation.writes.length = 4 := by decide +kernel
  have hblock : (lines.filterMap Line.statement?).length = 7 := by decide +kernel
  refine ⟨he, by omega, (hlower sizes (Nat.le_refl 3)).2 ⟨⟨#[.store 512 (.leaf (.cell 515)),
    .store 513 (.leaf (.cell 512)), .store 514 (.leaf (.cell 513)),
    .store 515 (.leaf (.cell 514))]⟩, ?_⟩⟩
  decide +kernel

end Lanewise
