import Lanewise.Proofs.Vector

namespace Lanewise
set_option autoImplicit true

/-- The writes of a vector instruction; there are none if it is refused or guides the flow. -/
def Instruction.writes (i : Instruction) : List Write :=
  match i.resolve with
  | .ok r =>
    match r.opcode.template, r.dest with
    | .vector body, some (.elements array start channels) =>
      laneWrites body array start channels r.sources
    | _, _ => []
  | .error _ => []

theorem Opcode.exists_vector {opcode : Opcode} (h : opcode.isControlFlow = false) :
    ∃ body, opcode.template = .vector body := by
  cases opcode with
  | ifOp | elseOp | endif | ret => cases h
  | _ => exact ⟨_, rfl⟩

/-- A vector instruction with what its expansion finds out about it. -/
structure Instruction.Lanes (i : Instruction) (opcode : Opcode) where
  resolved : Resolved
  body : Expr Hole
  name : String
  address : Nat
  swizzle : Option String
  array : String
  start : Nat
  channels : List Nat
  resolve_eq : i.resolve = .ok resolved
  opcode_eq : resolved.opcode = opcode
  template_eq : resolved.opcode.template = .vector body
  dest_eq : i.dest = some (.register name address swizzle)
  access_eq : (Operand.register name address swizzle).resolve .destination =
    .ok (.elements array start channels)
  writes_eq : i.writes = laneWrites body array start channels resolved.sources

theorem Instruction.exists_lanes {i : Instruction} (h : i.statements = .ok block)
    (ho : Opcode.ofName? i.op = some opcode) (hv : opcode.isControlFlow = false) :
    ∃ _ : i.Lanes opcode, block = sequentialize i.writes := by
  obtain ⟨r, hr, h⟩ := bind_eq_ok_iff.1 h
  obtain ⟨hop, hd, _⟩ := resolve_eq_ok hr
  have hcode : r.opcode = opcode := Option.some.inj (hop.symm.trans ho)
  obtain ⟨body, ht⟩ := Opcode.exists_vector (hcode ▸ hv)
  simp only [Resolved.statements, ht] at h
  split at h
  · rename_i array start channels hdest
    rw [hdest] at hd
    obtain ⟨name, address, swizzle, hi, ha⟩ := register_of_resolve? hd
    have hw : i.writes = laneWrites body array start channels r.sources := by
      simp only [writes, hr, ht, hdest]
    rw [← hw] at h
    cases h
    exact ⟨⟨r, body, name, address, swizzle, array, start, channels, hr, hcode, ht, hi, ha, hw⟩, rfl⟩
  · cases h

theorem nodup_eraseDups [BEq α] [LawfulBEq α] (l : List α) : l.eraseDups.Nodup := by
  induction h : l.length using Nat.strongRecOn generalizing l with
  | ind n ih =>
    cases l with
    | nil => exact List.nodup_nil
    | cons a l =>
      rw [List.eraseDups_cons, List.nodup_cons, List.mem_eraseDups]
      have hlt : (l.filter fun x => !x == a).length < n := by
        rw [← h]
        exact Nat.lt_succ_of_le (List.length_filter_le _ l)
      exact ⟨fun hm => by simp at hm, ih _ hlt _ rfl⟩

theorem length_hazards_le {writes : List Write}
    (hw : ∀ w ∈ writes, ∃ c ≤ 3, w.target = ⟨array, start + c⟩) : (hazards writes).length ≤ 4 := by
  have hnodup : (hazards writes).Nodup := nodup_eraseDups _
  have hsub : hazards writes ⊆ (List.range 4).map fun c => ⟨array, start + c⟩ := by
    intro e he
    obtain ⟨⟨w, hm, rfl⟩, _⟩ := overlaps_subset (mem_hazards.1 he)
    obtain ⟨c, hc, ht⟩ := hw w hm
    rw [ht]
    exact List.mem_map.2 ⟨c, List.mem_range.2 (Nat.lt_succ_of_le hc), rfl⟩
  have hle := (hnodup.subperm hsub).length_le
  rwa [List.length_map, List.length_range] at hle

theorem Operand.exists_of_atomAt_scratch {o : Operand} (h : o.resolve role = .ok access)
    (he : access.atomAt position = .element (scratchElement n)) :
    ∃ name address swizzle, o = .register name address swizzle ∧
      Region.ofName? name = some .scratch ∧ 4 * address ≤ n := by
  cases o with
  | literal text =>
    cases h
    cases he
  | register name address swizzle =>
    cases access with
    | literal text => cases he
    | elements array start channels =>
      rw [Access.atomAt, elementAt_of_resolve h, Atom.element.injEq] at he
      have hr := congrArg (fun e => Region.ofName? e.array) he
      have hn : 4 * address + swizzleChannel swizzle position = n := congrArg Element.index he
      simp only [Region.ofName?_arrayName, scratchElement, Region.ofName?_array] at hr
      exact ⟨name, address, swizzle, rfl, hr, by omega⟩

namespace Instruction.Lanes

variable {i : Instruction} {opcode : Opcode} (l : i.Lanes opcode)
include l

theorem inArrays : ∀ w ∈ i.writes, w.InArrays := by
  rw [l.writes_eq]
  exact inArrays_laneWrites l.resolve_eq l.access_eq l.body

theorem write_eq (sampler : Sampler) (b : Buffer sizes) :
    i.write sampler opcode b =
      (writeValues sampler literalValue b.memory i.writes).foldl (fun b p => b.assign p.1 p.2) b := by
  have h := Instruction.write_eq l.resolve_eq l.template_eq l.dest_eq l.access_eq sampler b
  rwa [l.opcode_eq, ← l.writes_eq] at h

theorem exists_of_mem_values {b : Buffer sizes} (h : v ∈ i.values sampler opcode b) :
    ∃ w ∈ i.writes, w.target = ⟨arrayName v.1.array, v.1.index⟩ := by
  simp only [values, l.dest_eq] at h
  obtain ⟨p, hp, rfl⟩ := List.mem_map.1 h
  rw [l.writes_eq, laneWrites_eq l.access_eq]
  exact ⟨_, List.mem_map_of_mem hp, rfl⟩

theorem length_hazards : (hazards i.writes).length ≤ 4 := by
  apply length_hazards_le
  intro w hm
  rw [l.writes_eq] at hm
  obtain ⟨⟨position, ht⟩, _⟩ := elements_of_mem_laneWrites hm
  exact ⟨_, swizzleChannel_le l.swizzle position, ht.trans (elementAt_of_resolve l.access_eq position)⟩

theorem clearOfCopies (hs : ∀ name address swizzle, .register name address swizzle ∈ i.operands →
    Region.ofName? name = some .scratch → 0 < address) : ClearOfCopies i.writes := by
  obtain ⟨_, _, hsources⟩ := resolve_eq_ok l.resolve_eq
  have hfew := l.length_hazards
  -- An operand in scratch starts behind the four elements that copies can take.
  have hbehind : ∀ o ∈ i.operands, ∀ role access position n, o.resolve role = .ok access →
      access.atomAt position = .element (scratchElement n) → 4 ≤ n := by
    intro o hm role access position n ho he
    obtain ⟨name, address, swizzle, rfl, hn, hle⟩ := Operand.exists_of_atomAt_scratch ho he
    have hpos := hs name address swizzle hm hn
    omega
  apply ClearOfCopies.of_ne
  intro w hm n hn
  rw [l.writes_eq] at hm
  obtain ⟨⟨position, ht⟩, hread⟩ := elements_of_mem_laneWrites hm
  constructor
  · intro hn'
    have hle := hbehind _ (mem_operands_of_dest l.dest_eq) _ _ position n l.access_eq
      (congrArg Atom.element (ht.symm.trans hn'))
    omega
  · intro he
    obtain ⟨k, position, he⟩ := hread _ he
    obtain ⟨o, access, hmem, hres, hat⟩ := exists_of_sourceAt hsources he
    have hle := hbehind o (mem_operands_of_source hmem) _ access position n hres hat
    omega

end Instruction.Lanes

theorem Code.run_eq_foldl {code : Code} (hc : Code.ofLines sizes lines = .ok code)
    (ht : ∀ s ∈ lines.filterMap Line.statement?, s.Tidy sizes) (sampler : Sampler)
    (b : Buffer sizes) :
    code.run sampler b = (lines.filterMap Line.statement?).foldl (Statement.apply sampler) b := by
  have hrun := runs_of_ofLines hc sampler b
  rw [Statement.map_action_eq sampler ht, ← List.append_nil (List.map _ _)] at hrun
  have hsteps := hrun.deterministic (Runs.steps_append .done)
  rwa [List.foldl_map] at hsteps

theorem ClearOfCopies.element_eq {writes : List Write} (hfits : sizes.Fits)
    (h : ClearOfCopies writes) (sampler : Sampler) (hw : ∀ w ∈ writes, w.InArrays)
    (hv : ∀ s ∈ sequentialize writes, ∀ a ∈ s.atoms, a.Valid sizes) (b : Buffer sizes)
    (hp : e.Proper sizes)
    (he : (∃ w ∈ writes, w.target = e) ∨ ∀ n < (hazards writes).length, e ≠ scratchElement n) :
    ((sequentialize writes).foldl (Statement.apply sampler) b).element e =
      ((writeValues sampler literalValue b.memory writes).foldl
        (fun b p => b.assign p.1 p.2) b).element e := by
  have hproper : ∀ p ∈ writeValues sampler literalValue b.memory writes, p.1.Proper sizes := by
    intro p hm
    obtain ⟨w, hmem, rfl⟩ := List.mem_map.1 hm
    exact target_proper hw hv hmem
  rw [b.mirrors_memory.foldl sampler hfits (sequentialize_tidy hw hv) e hp,
    b.mirrors_memory.storeAll hfits hproper e hp]
  apply h.update_eq
  · intro w _ x _
    rfl
  · exact he.imp_right fun hne => ⟨rfl, hne⟩

theorem Buffer.element_of_le (b : Buffer sizes) (hr : Region.ofName? e.array = some r)
    (hi : sizes.of r ≤ e.index) : b.element e = 0.0 := by
  simp only [element, hr, getElem?_region, if_neg (Nat.not_lt.2 hi), Option.getD_none]

namespace Instruction

theorem element_run_eq_element_write {i : Instruction} {lines : List Line} {code : Code}
    (hfits : sizes.Fits) (h : i.statements = .ok (lines.filterMap Line.statement?))
    (ho : Opcode.ofName? i.op = some opcode) (hv : opcode.isControlFlow = false)
    (hc : Code.ofLines sizes lines = .ok code) (hclear : ClearOfCopies i.writes)
    (sampler : Sampler) (b : Buffer sizes) :
    (∀ w ∈ i.writes, (code.run sampler b).element w.target =
      (i.write sampler opcode b).element w.target) ∧
    ∀ e : Element, e.Proper sizes → (∀ n < (hazards i.writes).length, e ≠ scratchElement n) →
      (code.run sampler b).element e = (i.write sampler opcode b).element e := by
  obtain ⟨l, hs⟩ := exists_lanes h ho hv
  obtain ⟨_, hvalid⟩ := Draft.exists_foldlM_iff.1 ⟨_, Code.ofLines_eq_ok_iff.1 hc⟩
  have harrays := l.inArrays
  have hrun : code.run sampler b = (sequentialize i.writes).foldl (Statement.apply sampler) b := by
    rw [← hs]
    apply Code.run_eq_foldl hc
    rw [hs] at hvalid ⊢
    exact sequentialize_tidy harrays hvalid
  rw [hs] at hvalid
  rw [hrun, l.write_eq]
  constructor
  · intro w hm
    exact hclear.element_eq hfits sampler harrays hvalid b (target_proper harrays hvalid hm)
      (.inl ⟨w, hm, rfl⟩)
  · intro e hp hne
    exact hclear.element_eq hfits sampler harrays hvalid b hp (.inr hne)

end Instruction

/-- In a layout that fits, a vector instruction out of the way of the copies leaves every element that
it writes with what it computes from the memory before, and changes nothing else but the copies. It is
out of the way if it leaves the first register of scratch alone. -/
theorem Instruction.run_eq_write_of_clear (sizes : Capacities) (traced : Bool) (i : Instruction)
    (opcode : Opcode) (lines : List Line) (code : Code) (ho : Opcode.ofName? i.op = some opcode)
    (hv : opcode.isControlFlow = false) (he : i.expand traced = ⟨lines, none⟩)
    (hc : Code.ofLines sizes lines = .ok code) :
    ((∀ name address swizzle, .register name address swizzle ∈ i.operands →
        Region.ofName? name = some .scratch → 0 < address) → ClearOfCopies i.writes) ∧
    (sizes.Fits → ClearOfCopies i.writes → ∀ (sampler : Sampler) (b : Buffer sizes),
      (∀ v ∈ i.values sampler opcode b,
        (code.run sampler b).element v.1 = (i.write sampler opcode b).element v.1) ∧
      (∀ r : Region, r ≠ .scratch →
        (code.run sampler b).region r = (i.write sampler opcode b).region r) ∧
      ∀ n, (hazards i.writes).length ≤ n →
        (code.run sampler b).element (scratchElement n) =
          (i.write sampler opcode b).element (scratchElement n)) := by
  have hblock : i.statements = .ok (lines.filterMap Line.statement?) := by
    apply Entry.statements_of_expand
    rw [Entry.expand, he]
  obtain ⟨l, _⟩ := exists_lanes hblock ho hv
  refine ⟨l.clearOfCopies, ?_⟩
  intro hfits hclear sampler b
  obtain ⟨hwritten, hother⟩ := element_run_eq_element_write hfits hblock ho hv hc hclear sampler b
  refine ⟨?_, ?_, ?_⟩
  · intro v hm
    obtain ⟨w, hw, ht⟩ := l.exists_of_mem_values hm
    have hequal := hwritten w hw
    rwa [ht, Buffer.element_arrayName, Buffer.element_arrayName] at hequal
  · apply AgreeOffScratch.of_element
    intro e hp hoff
    exact hother e hp fun n _ => hoff.ne n
  · intro n hn
    have hscratch : Region.ofName? (scratchElement n).array = some .scratch := Region.ofName?_array _
    by_cases hsize : n < sizes.of .scratch
    · have hp : (scratchElement n).Proper sizes :=
        ⟨⟨.scratch, hscratch, hsize⟩, hasArraySuffix_scratchElement n⟩
      exact hother _ hp fun k hk => scratchElement_ne (Nat.ne_of_gt (Nat.lt_of_lt_of_le hk hn))
    · rw [Buffer.element_of_le _ hscratch (Nat.not_lt.1 hsize),
        Buffer.element_of_le _ hscratch (Nat.not_lt.1 hsize)]

theorem Instruction.run_eq_write_of_clear_in_scratch :
    let rotation : Instruction := ⟨"MOV", some (.register "scratch" 0 (some "yzx")),
      some (.register "scratch_f32" 0 (some "zyy")), none, none⟩
    let rotated : List Line :=
      [.statement (.assign ⟨"scratch_f32", 0⟩ (.leaf (.element ⟨"scratch_f32", 1⟩))),
        .statement (.assign ⟨"scratch_f32", 1⟩ (.leaf (.element ⟨"scratch_f32", 2⟩))),
        .statement (.assign ⟨"scratch_f32", 2⟩ (.leaf (.element ⟨"scratch_f32", 0⟩))),
        .statement (.assign ⟨"scratch_f32", 0⟩ (.leaf (.element ⟨"scratch_f32", 0⟩))), .blank]
    let code : Code := ⟨#[.store 640 (.leaf (.cell 641)), .store 641 (.leaf (.cell 642)),
      .store 642 (.leaf (.cell 640)), .store 640 (.leaf (.cell 640))]⟩
    rotation.expand false = ⟨rotated, none⟩ ∧ Code.ofLines {} rotated = .ok code ∧
    ClearOfCopies rotation.writes ∧
    ∀ (sampler : Sampler) (b : Buffer {}), ∀ v ∈ rotation.values sampler .mov b,
      (code.run sampler b).element v.1 = (rotation.write sampler .mov b).element v.1 := by
  intro rotation rotated code
  have he : rotation.expand false = ⟨rotated, none⟩ := by decide +kernel
  have hc : Code.ofLines {} rotated = .ok code := by decide +kernel
  have hclear : ClearOfCopies rotation.writes := by decide +kernel
  obtain ⟨_, h⟩ := Instruction.run_eq_write_of_clear {} false rotation .mov rotated code
    (by decide +kernel) rfl he hc
  exact ⟨he, hc, hclear, fun sampler b => (h (by decide) hclear sampler b).1⟩

/-- Instructions that collide with the copies: a swap overwrites the copy before it is read, a sum
reads a source that a copy has replaced, and in a rotation one copy replaces what another one saves. -/
theorem Instruction.run_ne_write_of_collision :
    let sizes : Capacities := ⟨0, 0, 0, 0, 4, 4⟩
    let b : Buffer sizes := ⟨#v[1.0, 2.0, 3.0, 4.0, 5.0, 6.0, 7.0, 8.0]⟩
    let sampler : Sampler := fun u v lod => ⟨u, v, lod, 1.0⟩
    let swap : Instruction := ⟨"MOV", some (.register "scratch" 0 (some "xy")),
      some (.register "scratch" 0 (some "yx")), none, none⟩
    let sum : Instruction := ⟨"ADD", some (.register "temp" 0 (some "xy")),
      some (.register "temp" 0 (some "yx")), some (.register "scratch" 0 none), none⟩
    let rotation : Instruction := ⟨"MOV", some (.register "scratch" 0 (some "zxw")),
      some (.register "scratch" 0 (some "wzx")), none, none⟩
    let lines (i : Instruction) : List Line := (sequentialize i.writes).map .statement ++ [.blank]
    let after (i : Instruction) (e : Element) : Except BuildError Float32 :=
      (Code.ofLines sizes (lines i)).map fun code => (code.run sampler b).element e
    (swap.expand false = ⟨lines swap, none⟩ ∧ after swap ⟨"scratch", 1⟩ = .ok 6.0 ∧
      (swap.write sampler .mov b).element ⟨"scratch", 1⟩ = 5.0) ∧
    (sum.expand false = ⟨lines sum, none⟩ ∧ after sum ⟨"temp", 0⟩ = .ok 3.0 ∧
      (sum.write sampler .add b).element ⟨"temp", 0⟩ = 7.0) ∧
    rotation.expand false = ⟨lines rotation, none⟩ ∧ after rotation ⟨"scratch", 3⟩ = .ok 7.0 ∧
      (rotation.write sampler .mov b).element ⟨"scratch", 3⟩ = 5.0 := by
  decide +kernel

end Lanewise
