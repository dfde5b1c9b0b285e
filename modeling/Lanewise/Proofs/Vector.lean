import Lanewise.Expansion
import Lanewise.Proofs.Agreement

namespace Lanewise
set_option autoImplicit true

/-- What an opcode computes for one position of its destination, from its sources `a`, `b` and `c` by
position. The channel that is written matters to a texture lookup only. -/
def Opcode.formula (sampler : Sampler) (a b c : Nat → Float32) (position channel : Nat) :
    Opcode → Float32
  | .mov => a position
  | .abs => (a position).abs
  | .rsq => 1.0 / (a position).sqrt
  | .rcp => 1.0 / a position
  | .flr => (a position).floor
  | .frc => a position - (a position).floor
  | .sin => (a position).sin
  | .cos => (a position).cos
  | .add => a position + b position
  | .sub => a position - b position
  | .mul => a position * b position
  | .min => lesser (a position) (b position)
  | .max => greater (a position) (b position)
  | .slt => truth (a position < b position)
  | .sge => truth (b position ≤ a position)
  | .seq => truth (a position == b position)
  | .sne => truth (a position != b position)
  | .mad => a position * b position + c position
  | .lrp => a position * b position + (1.0 - a position) * c position
  | .cmp => if a position < 0.0 then b position else c position
  | .dp3 => a 0 * b 0 + a 1 * b 1 + a 2 * b 2
  | .dp4 => a 0 * b 0 + a 1 * b 1 + a 2 * b 2 + a 3 * b 3
  | .dph => a 0 * b 0 + a 1 * b 1 + a 2 * b 2 + b 3
  | .pow => (a 0).pow (b 0)
  | .tex => (sampler (a 0) (a 1) 0.0).channel channel
  | .ifOp | .elseOp | .endif | .ret => 0.0

namespace Instruction

/-- The value of a source at a position; zero if the source is missing. -/
def sourceValue (i : Instruction) (b : Buffer sizes) (source position : Nat) : Float32 :=
  match i.sources[source]? with
  | some (some operand) => operand.valueAt b position
  | _ => 0.0

/-- The elements that a vector instruction writes and their new values, all of them computed from the
same memory. -/
def values (sampler : Sampler) (opcode : Opcode) (i : Instruction) (b : Buffer sizes) :
    List (Element × Float32) :=
  match i.dest with
  | some (.register name address swizzle) =>
    (List.range (swizzleLetters swizzle).toList.length).map fun position =>
      let channel := swizzleChannel swizzle position
      (⟨name, 4 * address + channel⟩, opcode.formula sampler (i.sourceValue b 0) (i.sourceValue b 1)
        (i.sourceValue b 2) position channel)
  | _ => []

/-- Writes the values of a vector instruction in the order of the positions. -/
def write (sampler : Sampler) (opcode : Opcode) (i : Instruction) (b : Buffer sizes) :
    Buffer sizes :=
  (i.values sampler opcode b).foldl (fun b v => b.assign v.1 v.2) b

/-- The condition of an `IF`: its first source, or else its destination, at the first position. -/
def conditionValue (i : Instruction) (b : Buffer sizes) : Float32 :=
  match i.source1 <|> i.dest with
  | some operand => operand.valueAt b 0
  | none => 0.0

/-- What an instruction does to the memory. -/
def action (sampler : Sampler) (i : Instruction) : Action (Buffer sizes) :=
  match Opcode.ofName? i.op with
  | some .ifOp => .openIf fun b => enters (i.conditionValue b)
  | some .elseOp => .openElse
  | some .endif => .closeIf
  | some .ret => .leave
  | some opcode => .step (i.write sampler opcode)
  | none => .step id

end Instruction

/-- The section that an operand lies in. -/
def Operand.region? : Operand → Option Region
  | .literal _ => none
  | .register name _ _ => Region.ofName? name

def Entry.instruction? : Entry → Option Instruction
  | .instruction i => some i
  | .comment _ => none

/-- What a hole of a template stands for. -/
def Hole.value (source : Nat → Nat → Float32) (position : Nat) : Hole → Float32
  | .lane k => source k position
  | .fixed k place => source k place
  | .const v => v

namespace Expr

theorem withChannel_map (f : α → β) (n : Nat) (e : Expr α) :
    (e.map f).withChannel n = (e.withChannel n).map f := by
  induction e with
  | leaf a => rfl
  | unary fn x ih => rw [map, withChannel, ih, withChannel, map]
  | binary fn a b iha ihb => rw [map, withChannel, iha, ihb, withChannel, map]
  | select c x y ihc ihx ihy => rw [map, withChannel, ihc, ihx, ihy, withChannel, map]
  | sample u v lod => rfl

theorem leaves_withChannel (n : Nat) (e : Expr α) : (e.withChannel n).leaves = e.leaves := by
  induction e with
  | leaf a => rfl
  | unary fn x ih => exact ih
  | binary fn a b iha ihb => rw [withChannel, leaves, iha, ihb, leaves]
  | select c x y ihc ihx ihy => rw [withChannel, leaves, ihc, ihx, ihy, leaves]
  | sample u v lod => rfl

end Expr

/-- The template of an opcode is its formula. -/
theorem Opcode.eval_template {opcode : Opcode} (h : opcode.template = .vector body)
    (sampler : Sampler) (source : Nat → Nat → Float32) (position channel : Nat) :
    (body.withChannel channel).eval sampler (Hole.value source position) =
      opcode.formula sampler (source 0) (source 1) (source 2) position channel := by
  cases opcode <;> cases h <;> rfl

theorem exists_of_resolve? (h : resolve? role (some o) = .ok x) :
    ∃ access, Operand.resolve role o = .ok access ∧ x = some access := by
  obtain ⟨access, ha, h⟩ := bind_eq_ok_iff.1 h
  cases h
  exact ⟨access, ha, rfl⟩

theorem register_of_resolve? (h : resolve? role operand = .ok (some (.elements array start channels))) :
    ∃ name address swizzle, operand = some (.register name address swizzle) ∧
      (Operand.register name address swizzle).resolve role = .ok (.elements array start channels) := by
  cases operand with
  | none => cases h
  | some o =>
    obtain ⟨access, ha, he⟩ := exists_of_resolve? h
    cases he
    cases o with
    | literal text => cases ha
    | register name address swizzle => exact ⟨name, address, swizzle, rfl, ha⟩

/-- An operand keeps to the array of its section. -/
theorem Operand.suffix_atomAt {o : Operand} (h : o.resolve role = .ok access)
    (he : access.atomAt position = .element e) : hasArraySuffix e.array := by
  cases o with
  | literal text =>
    cases h
    cases he
  | register name address swizzle =>
    cases access with
    | literal text => cases he
    | elements array start channels =>
      rw [Access.atomAt, elementAt_of_resolve h] at he
      cases he
      exact hasArraySuffix_arrayName name

theorem Operand.clean_atomAt {o : Operand} (h : o.resolve role = .ok access)
    (ho : o.region? ≠ some .scratch) (he : access.atomAt position = .element e) : e.Clean := by
  refine ⟨suffix_atomAt h he, ?_⟩
  cases o with
  | literal text =>
    cases h
    cases he
  | register name address swizzle =>
    cases access with
    | literal text => cases he
    | elements array start channels =>
      rw [Access.atomAt, elementAt_of_resolve h] at he
      cases he
      intro ha
      apply ho
      have hr := congrArg Region.ofName? ha
      rwa [Region.ofName?_arrayName, Region.ofName?_array] at hr

section Sources

variable {operands : List (Option Operand)} {accesses : List (Option Access)}

theorem value_sourceAt
    (h : List.Forall₂ (fun o x => resolve? .source o = .ok x) operands accesses)
    (b : Buffer sizes) (k position : Nat) : (sourceAt accesses k position).value b =
      match operands[k]? with
      | some (some operand) => operand.valueAt b position
      | _ => 0.0 := by
  induction h generalizing k with
  | nil => rfl
  | @cons o x _ _ hx _ ih =>
    cases k with
    | succ k => exact ih k
    | zero =>
      cases o with
      | none =>
        cases hx
        rfl
      | some o =>
        obtain ⟨access, ha, rfl⟩ := exists_of_resolve? hx
        exact Operand.value_atomAt ha b position

theorem sourceAt_cases
    (h : List.Forall₂ (fun o x => resolve? .source o = .ok x) operands accesses)
    (k position : Nat) : sourceAt accesses k position = .const 0.0 ∨
      ∃ o access, some o ∈ operands ∧ o.resolve .source = .ok access ∧
        sourceAt accesses k position = access.atomAt position := by
  induction h generalizing k with
  | nil => exact .inl rfl
  | @cons o x _ _ hx _ ih =>
    cases k with
    | succ k =>
      rcases ih k with he | ⟨o', access, hm, ha, he⟩
      · exact .inl he
      · exact .inr ⟨o', access, List.mem_cons_of_mem _ hm, ha, he⟩
    | zero =>
      cases o with
      | none =>
        cases hx
        exact .inl rfl
      | some o =>
        obtain ⟨access, ha, rfl⟩ := exists_of_resolve? hx
        exact .inr ⟨o, access, List.mem_cons_self, ha, rfl⟩

theorem exists_of_sourceAt
    (h : List.Forall₂ (fun o x => resolve? .source o = .ok x) operands accesses)
    (he : sourceAt accesses k position = .element e) :
    ∃ o access, some o ∈ operands ∧ o.resolve .source = .ok access ∧
      access.atomAt position = .element e := by
  rcases sourceAt_cases h k position with hc | ⟨o, access, hm, ha, hs⟩
  · cases hc.symm.trans he
  · exact ⟨o, access, hm, ha, hs.symm.trans he⟩

theorem suffix_sourceAt
    (h : List.Forall₂ (fun o x => resolve? .source o = .ok x) operands accesses)
    (he : sourceAt accesses k position = .element e) : hasArraySuffix e.array := by
  obtain ⟨o, access, _, ha, he⟩ := exists_of_sourceAt h he
  exact Operand.suffix_atomAt ha he

theorem clean_sourceAt
    (h : List.Forall₂ (fun o x => resolve? .source o = .ok x) operands accesses)
    (ho : ∀ o, some o ∈ operands → o.region? ≠ some .scratch)
    (he : sourceAt accesses k position = .element e) : e.Clean := by
  obtain ⟨o, access, hm, ha, he⟩ := exists_of_sourceAt h he
  exact Operand.clean_atomAt ha (ho o hm) he

end Sources

theorem Instruction.resolve_eq_ok {i : Instruction} (h : i.resolve = .ok r) :
    Opcode.ofName? i.op = some r.opcode ∧ resolve? .destination i.dest = .ok r.dest ∧
      List.Forall₂ (fun o x => resolve? .source o = .ok x) i.sources r.sources := by
  rw [resolve] at h
  split at h
  · cases h
  · rename_i opcode ho
    obtain ⟨dest, hd, h⟩ := bind_eq_ok_iff.1 h
    obtain ⟨sources, hs, h⟩ := bind_eq_ok_iff.1 h
    cases h
    exact ⟨ho, hd, mapM_eq_ok_iff.1 hs⟩

theorem Instruction.mem_operands_of_source {i : Instruction} (h : some o ∈ i.sources) :
    o ∈ i.operands :=
  List.mem_filterMap.2 ⟨some o, List.mem_cons_of_mem _ h, rfl⟩

theorem Instruction.mem_operands_of_dest {i : Instruction} (h : i.dest = some o) : o ∈ i.operands :=
  List.mem_filterMap.2 ⟨some o, h ▸ List.mem_cons_self, rfl⟩

theorem zipIdx_eq_map_range (channels : List Nat) : channels.zipIdx =
    (List.range channels.length).map fun p => (Access.channelAt channels p, p) := by
  apply List.ext_getElem?
  intro k
  rw [List.getElem?_zipIdx, List.getElem?_map, Nat.zero_add]
  rcases Nat.lt_or_ge k channels.length with hk | hk
  · rw [List.getElem?_range hk, List.getElem?_eq_getElem hk, Option.map_some, Option.map_some,
      Access.channelAt, List.getElem?_eq_getElem hk]
  · rw [List.getElem?_eq_none hk, List.getElem?_eq_none (by simpa using hk)]
    rfl

/-- The writes of a vector instruction by position. -/
theorem laneWrites_eq {name : String} {address : Nat} {swizzle : Option String}
    (h : (Operand.register name address swizzle).resolve .destination =
      .ok (.elements array start channels))
    (body : Expr Hole) (sources : List (Option Access)) :
    laneWrites body array start channels sources =
      (List.range (swizzleLetters swizzle).toList.length).map fun p =>
        ⟨⟨arrayName name, 4 * address + swizzleChannel swizzle p⟩,
          (body.map (Hole.fill sources p)).withChannel (swizzleChannel swizzle p)⟩ := by
  have he := elementAt_of_resolve h
  obtain ⟨_, _, h⟩ := bind_eq_ok_iff.1 h
  obtain ⟨filled, hc, h⟩ := bind_eq_ok_iff.1 h
  cases h
  obtain ⟨selected, hs, hl, hp⟩ := exists_of_swizzleChannels hc
  -- The channels of a destination are not filled up.
  have hfill : channels = selected := hs
  rw [hfill] at he ⊢
  rw [laneWrites, zipIdx_eq_map_range, List.map_map, hl]
  apply List.map_congr_left
  intro p _
  rw [Function.comp_apply, hp p, ← he p]

/-- What a position computes in generated code is the formula of the opcode. -/
theorem Instruction.eval_lane {i : Instruction} {r : Resolved} (hr : i.resolve = .ok r)
    (ht : r.opcode.template = .vector body) (sampler : Sampler) (b : Buffer sizes) (position channel : Nat) :
    ((body.map (Hole.fill r.sources position)).withChannel channel).eval sampler
        (Atom.read literalValue b.memory) =
      r.opcode.formula sampler (i.sourceValue b 0) (i.sourceValue b 1) (i.sourceValue b 2) position
        channel := by
  obtain ⟨_, _, hs⟩ := resolve_eq_ok hr
  have hread : ∀ k p, (sourceAt r.sources k p).read literalValue b.memory = i.sourceValue b k p := by
    intro k p
    rw [b.read_memory fun e he => suffix_sourceAt hs he]
    exact value_sourceAt hs b k p
  rw [Expr.withChannel_map, Expr.eval_map, ← Opcode.eval_template ht]
  apply Expr.eval_congr
  intro hole _
  cases hole with
  | lane k => exact hread k position
  | fixed k place => exact hread k place
  | const v => rfl

section Vector

variable {sizes : Capacities} {i : Instruction} {r : Resolved} {name : String} {address : Nat}
  {swizzle : Option String} {array : String} {start : Nat} {channels : List Nat} {body : Expr Hole}

theorem Instruction.write_eq (hr : i.resolve = .ok r) (ht : r.opcode.template = .vector body)
    (hd : i.dest = some (.register name address swizzle))
    (ha : (Operand.register name address swizzle).resolve .destination =
      .ok (.elements array start channels)) (sampler : Sampler) (b : Buffer sizes) :
    i.write sampler r.opcode b =
      (writeValues sampler literalValue b.memory
        (laneWrites body array start channels r.sources)).foldl (fun b p => b.assign p.1 p.2) b := by
  rw [laneWrites_eq ha, writeValues, List.map_map, List.foldl_map, write, values, hd]
  simp only [List.foldl_map, Function.comp_apply, eval_lane hr ht, Buffer.assign_arrayName]

theorem elements_of_mem_laneWrites {sources : List (Option Access)}
    (h : w ∈ laneWrites body array start channels sources) :
    (∃ position, w.target = Access.elementAt array start channels position) ∧
      ∀ e ∈ w.value.elements, ∃ k position, sourceAt sources k position = .element e := by
  obtain ⟨⟨channel, position⟩, _, rfl⟩ := List.mem_map.1 h
  refine ⟨⟨position, rfl⟩, ?_⟩
  intro e he
  rw [Expr.mem_elements, Expr.leaves_withChannel, Expr.leaves_map] at he
  obtain ⟨hole, _, he⟩ := List.mem_map.1 he
  cases hole with
  | lane k => exact ⟨k, position, he⟩
  | fixed k place => exact ⟨k, place, he⟩
  | const v => cases he

theorem Instruction.inArrays_laneWrites (hr : i.resolve = .ok r)
    (ha : (Operand.register name address swizzle).resolve .destination =
      .ok (.elements array start channels)) (body : Expr Hole) :
    ∀ w ∈ laneWrites body array start channels r.sources, w.InArrays := by
  obtain ⟨_, _, hs⟩ := resolve_eq_ok hr
  intro w hw
  obtain ⟨⟨position, ht⟩, hread⟩ := elements_of_mem_laneWrites hw
  constructor
  · rw [ht]
    exact Operand.suffix_atomAt ha rfl
  · intro e he
    obtain ⟨k, position, he⟩ := hread e he
    exact suffix_sourceAt hs he

theorem Instruction.clean_laneWrites (hr : i.resolve = .ok r)
    (ho : ∀ o ∈ i.operands, o.region? ≠ some .scratch)
    (hd : i.dest = some (.register name address swizzle))
    (ha : (Operand.register name address swizzle).resolve .destination =
      .ok (.elements array start channels)) (body : Expr Hole) :
    ∀ w ∈ laneWrites body array start channels r.sources, w.Clean := by
  obtain ⟨_, _, hs⟩ := resolve_eq_ok hr
  intro w hw
  obtain ⟨⟨position, ht⟩, hread⟩ := elements_of_mem_laneWrites hw
  constructor
  · rw [ht]
    exact Operand.clean_atomAt ha (ho _ (mem_operands_of_dest hd)) rfl
  · intro e he
    obtain ⟨k, position, he⟩ := hread e he
    have hsources : ∀ o, some o ∈ i.sources → o.region? ≠ some .scratch := by
      intro o hm
      exact ho o (mem_operands_of_source hm)
    exact clean_sourceAt hs hsources he

end Vector

theorem Instruction.condition_cases {i : Instruction} (h : i.resolve = .ok r) :
    (i.source1 <|> i.dest) = none ∧ r.condition = .const 0.0 ∨
    ∃ o ∈ i.operands, ∃ role access, (i.source1 <|> i.dest) = some o ∧
      o.resolve role = .ok access ∧ r.condition = access.atomAt 0 := by
  obtain ⟨_, hd, hs⟩ := resolve_eq_ok h
  obtain ⟨x, sources, hx, _, he⟩ := List.forall₂_cons_left_iff.1 hs
  rw [Resolved.condition, he]
  cases h1 : i.source1 with
  | some o =>
    rw [h1] at hx
    obtain ⟨access, ha, rfl⟩ := exists_of_resolve? hx
    have hm : some o ∈ i.sources := h1 ▸ List.mem_cons_self
    exact .inr ⟨o, mem_operands_of_source hm, .source, access, rfl, ha, rfl⟩
  | none =>
    rw [h1] at hx
    cases hx
    cases h2 : i.dest with
    | some o =>
      rw [h2] at hd
      obtain ⟨access, ha, hr⟩ := exists_of_resolve? hd
      rw [hr]
      exact .inr ⟨o, mem_operands_of_dest h2, .destination, access, rfl, ha, rfl⟩
    | none =>
      rw [h2] at hd
      cases hr : r.dest with
      | none => exact .inl ⟨rfl, rfl⟩
      | some access =>
        rw [hr] at hd
        cases hd

theorem Instruction.action_eq {i : Instruction} (h : Opcode.ofName? i.op = some opcode)
    (sampler : Sampler) : (i.action sampler : Action (Buffer sizes)) =
      match opcode.template with
      | .openIf => .openIf fun b => enters (i.conditionValue b)
      | .openElse => .openElse
      | .closeIf => .closeIf
      | .leave => .leave
      | .vector _ => .step (i.write sampler opcode) := by
  rw [action, h]
  cases opcode <;> rfl

theorem Instruction.enters_condition {i : Instruction} {b b' : Buffer sizes} (h : i.resolve = .ok r)
    (ho : ∀ o ∈ i.operands, o.region? ≠ some .scratch) (hb : AgreeOffScratch b b') :
    enters (r.condition.value b') = enters (i.conditionValue b) := by
  rw [conditionValue]
  obtain ⟨hn, hc⟩ | ⟨o, hm, role, access, hn, ha, hc⟩ := condition_cases h
  · rw [hn, hc]
    rfl
  · rw [hn, hc, ← hb.value_eq fun e he => Operand.clean_atomAt ha (ho o hm) he]
    rw [Operand.value_atomAt ha b 0]

/-- The statements of an accepted instruction do what the instruction does, as far as it does not
concern scratch. -/
theorem Instruction.refines {i : Instruction} (hfits : sizes.Fits) (sampler : Sampler)
    (h : i.statements = .ok block)
    (ho : ∀ o ∈ i.operands, o.region? ≠ some .scratch)
    (hv : ∀ s ∈ block, ∀ a ∈ s.atoms, a.Valid sizes) :
    Action.Refines (AgreeOffScratch : Buffer sizes → Buffer sizes → Prop) (i.action sampler)
      (block.map (Statement.action sampler)) := by
  obtain ⟨r, hr, h⟩ := bind_eq_ok_iff.1 h
  obtain ⟨hop, hd, _⟩ := resolve_eq_ok hr
  rw [action_eq hop]
  rw [Resolved.statements] at h
  cases ht : r.opcode.template with
  | openIf =>
    rw [ht] at h
    cases h
    exact .openIf fun b b' hb => enters_condition hr ho hb
  | openElse =>
    rw [ht] at h
    cases h
    exact .openElse
  | closeIf =>
    rw [ht] at h
    cases h
    exact .closeIf
  | leave =>
    rw [ht] at h
    cases h
    exact .leave
  | vector body =>
    simp only [ht] at h
    split at h
    · rename_i array start channels hr'
      cases h
      rw [hr'] at hd
      obtain ⟨name, address, swizzle, hi, ha⟩ := register_of_resolve? hd
      have hclean := clean_laneWrites hr ho hi ha body
      rw [Statement.map_action_eq sampler (sequentialize_tidy (fun w hm => (hclean w hm).inArrays) hv)]
      apply Action.Refines.step
      intro b b' hb
      rw [write_eq hr ht hi ha, List.foldl_map]
      exact hb.sequentialize hfits sampler hclean hv
    · cases h

/-- What a listing does to the memory, instruction by instruction. Comments do nothing. -/
def vectorActions (sampler : Sampler) (entries : List Entry) : List (Action (Buffer sizes)) :=
  (entries.filterMap Entry.instruction?).map (Instruction.action sampler)

theorem Entry.statements_of_expand {i : Instruction}
    (h : (Entry.instruction i).expand traced = .ok lines) :
    i.statements = .ok (lines.filterMap Line.statement?) := by
  rw [expand, Instruction.expand] at h
  cases hs : i.statements with
  | error e =>
    rw [hs] at h
    cases h
  | ok block =>
    rw [hs] at h
    cases h
    have hheading : (if traced then [Line.trace i.render] else []).filterMap Line.statement? = [] := by
      split <;> rfl
    have hblock : (block.map Line.statement).filterMap Line.statement? = block := by
      rw [List.filterMap_map]
      exact List.filterMap_some
    rw [List.filterMap_append, List.filterMap_append, hheading, hblock]
    exact congrArg Except.ok (List.append_nil block).symm

theorem exists_blocks_of_forall₂
    (h : List.Forall₂ (fun entry piece => Entry.expand traced entry = .ok piece) entries pieces) :
    ∃ blocks, List.Forall₂ (fun i block => Instruction.statements i = .ok block)
        (entries.filterMap Entry.instruction?) blocks ∧
      pieces.flatten.filterMap Line.statement? = blocks.flatten := by
  induction h with
  | nil => exact ⟨[], .nil, rfl⟩
  | @cons entry piece _ _ he _ ih =>
    obtain ⟨blocks, hb, hl⟩ := ih
    rw [List.flatten_cons, List.filterMap_append, hl]
    cases entry with
    | comment text =>
      cases he
      exact ⟨blocks, hb, rfl⟩
    | instruction i =>
      have hs := Entry.statements_of_expand he
      exact ⟨piece.filterMap Line.statement? :: blocks, .cons hs hb, rfl⟩

/-- Accepted entries become the statements of their instructions, one behind the other. -/
theorem exists_blocks (h : expandEntries traced entries = .ok lines) :
    ∃ blocks, List.Forall₂ (fun i block => Instruction.statements i = .ok block)
        (entries.filterMap Entry.instruction?) blocks ∧
      lines.filterMap Line.statement? = blocks.flatten := by
  obtain ⟨pieces, hp, h⟩ := bind_eq_ok_iff.1 h
  cases h
  exact exists_blocks_of_forall₂ (mapM_eq_ok_iff.1 hp)

theorem refines_blocks {is : List Instruction} (hfits : sizes.Fits) (sampler : Sampler)
    (h : List.Forall₂ (fun i block => Instruction.statements i = .ok block) is blocks)
    (ho : ∀ i ∈ is, ∀ o ∈ i.operands, o.region? ≠ some .scratch)
    (hv : ∀ s ∈ blocks.flatten, ∀ a ∈ s.atoms, a.Valid sizes) :
    List.Forall₂ (Action.Refines (AgreeOffScratch : Buffer sizes → Buffer sizes → Prop))
      (is.map (Instruction.action sampler)) (blocks.map (List.map (Statement.action sampler))) := by
  induction h with
  | nil => exact .nil
  | cons hs _ ih =>
    rw [List.forall_mem_cons] at ho
    rw [List.flatten_cons, List.forall_mem_append] at hv
    exact .cons (Instruction.refines hfits sampler hs ho.1 hv.1) (ih ho.2 hv.2)

/-- In a layout that fits, runnable code of accepted entries leaves outside scratch what the
instructions leave, each of which computes all of its values before it writes the first. -/
theorem Code.run_eq_vector_run (sizes : Capacities) (traced : Bool) (entries : List Entry)
    (lines : List Line) (code : Code) (hfits : sizes.Fits)
    (ho : ∀ i ∈ entries.filterMap Entry.instruction?, ∀ o ∈ i.operands, o.region? ≠ some .scratch)
    (he : expandEntries traced entries = .ok lines) (hc : Code.ofLines sizes lines = .ok code)
    (sampler : Sampler) (b : Buffer sizes) :
    ∃ b', (∀ c, Runs (vectorActions sampler entries) b c ↔ c = b') ∧
      ∀ r : Region, r ≠ .scratch → (code.run sampler b).region r = b'.region r := by
  obtain ⟨blocks, hb, hl⟩ := exists_blocks he
  obtain ⟨hbal, hv⟩ := Draft.exists_foldlM_iff.1 ⟨_, ofLines_eq_ok_iff.1 hc⟩
  have hrun := runs_of_ofLines hc sampler b
  rw [hl] at hbal hv hrun
  have hrefines := refines_blocks hfits sampler hb ho hv
  have hshape : (blocks.flatten.map (Statement.action sampler : Statement → Action (Buffer sizes))).map
      Action.shape = blocks.flatten.map Statement.shape := Statement.map_shape_action sampler _
  rw [← hshape, List.map_flatten, balanced_flatten_iff hrefines] at hbal
  obtain ⟨b', hvector⟩ := Runs.exists_of_balanced hbal b
  obtain ⟨c, hr, hagree⟩ := hvector.refine hrefines fun r _ => rfl
  rw [← List.map_flatten] at hr
  have hcode := hr.deterministic hrun
  subst hcode
  refine ⟨b', fun c => ⟨fun hc => hc.deterministic hvector, fun hc => hc ▸ hvector⟩, ?_⟩
  intro r hne
  exact (hagree r hne).symm

/-- A swap within one register, and a return inside a conditional. -/
theorem Code.run_swap_eq_vector_run :
    let entries : List Entry :=
      [.instruction ⟨"MOV", some (.register "temp" 0 (some "xy")),
          some (.register "temp_f32" 0 (some "yx")), none, none⟩,
        .comment "leave if the flag is set",
        .instruction ⟨"IF", none, some (.register "uniform" 0 (some "x")), none, none⟩,
        .instruction ⟨"RET", none, none, none, none⟩,
        .instruction ⟨"ENDIF", none, none, none, none⟩,
        .instruction ⟨"MUL", some (.register "result" 0 (some "w")), some (.register "temp" 0 none),
          some (.literal " 0.5 "), none⟩]
    let lines : List Line :=
      [.statement (.assign ⟨"scratch_f32", 0⟩ (.leaf (.element ⟨"temp_f32", 0⟩))),
        .statement (.assign ⟨"temp_f32", 0⟩ (.leaf (.element ⟨"temp_f32", 1⟩))),
        .statement (.assign ⟨"temp_f32", 1⟩ (.leaf (.element ⟨"scratch_f32", 0⟩))), .blank,
        .note "leave if the flag is set",
        .statement (.openIf (.element ⟨"uniform_f32", 0⟩)), .blank,
        .statement .leave, .blank,
        .statement .closeIf, .blank,
        .statement (.assign ⟨"result_f32", 3⟩
          (.binary .mul (.leaf (.element ⟨"temp_f32", 0⟩)) (.leaf (.literal " 0.5 ")))), .blank]
    let code : Code := ⟨#[.store 640 (.leaf (.cell 512)), .store 512 (.leaf (.cell 513)),
      .store 513 (.leaf (.cell 640)), .branchIfZero (.cell 0) 5, .leave,
      .store 387 (.binary .mul (.leaf (.cell 512)) (.leaf (.const 0.5)))]⟩
    Capacities.Fits {} ∧
    (∀ i ∈ entries.filterMap Entry.instruction?, ∀ o ∈ i.operands, o.region? ≠ some .scratch) ∧
    expandEntries false entries = .ok lines ∧ Code.ofLines {} lines = .ok code ∧
    ∀ (sampler : Sampler) (b : Buffer {}),
      ∃ b', (∀ c, Runs (vectorActions sampler entries) b c ↔ c = b') ∧
        ∀ r : Region, r ≠ .scratch → (code.run sampler b).region r = b'.region r := by
  intro entries lines code
  have hfits : Capacities.Fits {} := by decide
  have ho : ∀ i ∈ entries.filterMap Entry.instruction?,
      ∀ o ∈ i.operands, o.region? ≠ some .scratch := by decide +kernel
  have he : expandEntries false entries = .ok lines := by decide +kernel
  have hc : Code.ofLines {} lines = .ok code := by decide +kernel
  exact ⟨hfits, ho, he, hc, Code.run_eq_vector_run {} false entries lines code hfits ho he hc⟩

end Lanewise
