import Lanewise.Proofs.Collision
import Lanewise.Proofs.Operands

namespace Lanewise
set_option autoImplicit true

/-- The names of the opcodes that compute the elements of a register. -/
def vectorNames : List String :=
  ["ABS", "ADD", "CMP", "COS", "DP3", "DP4", "DPH", "FLR", "FRC", "LRP", "MAD", "MAX", "MIN", "MOV",
    "MUL", "POW", "RCP", "RSQ", "SEQ", "SGE", "SIN", "SLT", "SNE", "SUB", "TEX"]

/-- The names of the opcodes that guide the flow. -/
def flowNames : List String := ["ELSE", "ENDIF", "IF", "RET"]

namespace Opcode

theorem mem_all (opcode : Opcode) : opcode ∈ all := by
  cases opcode <;> decide

theorem ofName?_eq_some_iff {op : String} : ofName? op = some opcode ↔ opcode.name = op := by
  constructor
  · intro h
    have hname := List.find?_some (show all.find? (·.name == op) = some opcode from h)
    exact eq_of_beq hname
  · rintro rfl
    cases opcode <;> decide +kernel

theorem mem_vectorNames_iff {op : String} :
    op ∈ vectorNames ↔ ∃ opcode, ofName? op = some opcode ∧ opcode.isControlFlow = false := by
  have hnames : vectorNames = (all.filter (!·.isControlFlow)).map Opcode.name := rfl
  simp [hnames, ofName?_eq_some_iff, mem_all, and_comm]

theorem mem_flowNames_iff {op : String} :
    op ∈ flowNames ↔ ∃ opcode, ofName? op = some opcode ∧ opcode.isControlFlow = true := by
  have hnames : flowNames = (all.filter (·.isControlFlow)).map Opcode.name := rfl
  simp [hnames, ofName?_eq_some_iff, mem_all, and_comm]

theorem known_iff {op : String} :
    op ∈ vectorNames ∨ op ∈ flowNames ↔ ∃ opcode, ofName? op = some opcode := by
  rw [mem_vectorNames_iff, mem_flowNames_iff, ← exists_or]
  simp only [← and_or_left]
  exact exists_congr fun opcode => and_iff_left (Bool.eq_false_or_eq_true _).symm

end Opcode

/-- Why an instruction is refused: for its opcode, or else for its first operand at fault, or else
for a destination that has no elements. -/
inductive Instruction.Refused (i : Instruction) : ObjectError → Prop
  | opcode : i.op ∉ vectorNames → i.op ∉ flowNames → Refused i (.unknownOpcode i.op)
  | operand : i.op ∈ vectorNames ∨ i.op ∈ flowNames → i.operands = fine ++ o :: more →
      (∀ x ∈ fine, ∀ e, ¬ x.Refused e) → o.Refused e → Refused i e
  | destination : i.op ∈ vectorNames → (∀ o ∈ i.operands, ∀ e, ¬ o.Refused e) →
      (i.dest = none ∨ ∃ text, i.dest = some (.literal text)) →
      Refused i (.invalidDestination i.op)

theorem resolve?_eq_error_iff : resolve? role o = .error e ↔ ∃ x, o = some x ∧ x.Refused e := by
  cases o with
  | none => simp [resolve?]
  | some x =>
    rw [resolve?, bind_eq_error_iff, resolve_eq_error_iff]
    constructor
    · rintro (h | ⟨_, _, h⟩)
      · exact ⟨x, rfl, h⟩
      · cases h
    · rintro ⟨_, hx, h⟩
      cases hx
      exact .inl h

theorem exists_resolve?_iff :
    (∃ access, resolve? role o = .ok access) ↔ ∀ x, o = some x → ∀ e, ¬ x.Refused e := by
  rw [exists_eq_ok_iff]
  simp only [ne_eq, resolve?_eq_error_iff, not_exists, not_and]
  exact ⟨fun h x hx e => h e x hx, fun h e x hx => h x hx e⟩

/-- Missing operands are never at fault. -/
theorem firstError_resolve?_iff {operands : List (Option Operand)} :
    FirstError (resolve? role) operands e ↔
      FirstError (Operand.resolve role) (operands.filterMap id) e := by
  induction operands with
  | nil =>
    constructor
    · intro h
      cases mapM_eq_error_iff.2 h
    · intro h
      cases mapM_eq_error_iff.2 h
  | cons o operands ih =>
    rw [firstError_cons, resolve?_eq_error_iff, exists_resolve?_iff, ih]
    cases o with
    | none => simp
    | some x =>
      have hcons : (some x :: operands).filterMap id = x :: operands.filterMap id := rfl
      rw [hcons, firstError_cons, resolve_eq_error_iff, exists_resolve_iff]
      simp

namespace Instruction

theorem resolve_eq_error_iff {i : Instruction} (ho : Opcode.ofName? i.op = some opcode) :
    i.resolve = .error e ↔ FirstError (Operand.resolve .source) i.operands e := by
  -- The destination is refused in its own role for what would refuse it as a source.
  have hdest : resolve? .destination i.dest = .error e ↔ resolve? .source i.dest = .error e := by
    rw [resolve?_eq_error_iff, resolve?_eq_error_iff]
  have hgood : (∃ access, resolve? .destination i.dest = .ok access) ↔
      ∃ access, resolve? .source i.dest = .ok access := by
    rw [exists_resolve?_iff, exists_resolve?_iff]
  rw [operands, ← firstError_resolve?_iff, firstError_cons, ← hdest, ← hgood, ← mapM_eq_error_iff,
    resolve, ho]
  simp only [bind_eq_error_iff]
  refine or_congr_right ⟨?_, ?_⟩
  · rintro ⟨access, hd, hs | ⟨_, _, h⟩⟩
    · exact ⟨⟨access, hd⟩, hs⟩
    · cases h
  · rintro ⟨⟨access, hd⟩, hs⟩
    exact ⟨access, hd, .inl hs⟩

theorem exists_resolve_iff {i : Instruction} (ho : Opcode.ofName? i.op = some opcode) :
    (∃ r, i.resolve = .ok r) ↔ ∀ o ∈ i.operands, ∀ e, ¬ o.Refused e := by
  have hfault : (∃ e, i.resolve = .error e) ↔ ∃ o ∈ i.operands, ∃ e, o.Refused e := by
    simp only [resolve_eq_error_iff ho, exists_firstError_iff, Lanewise.resolve_eq_error_iff]
  rw [exists_eq_ok_iff, ← not_exists, hfault]
  simp only [not_exists, not_and]

end Instruction

theorem Resolved.statements_eq_error_iff {r : Resolved} : r.statements = .error e ↔
    r.opcode.isControlFlow = false ∧
      (∀ array start channels, r.dest ≠ some (.elements array start channels)) ∧
      e = .invalidDestination r.opcode.name := by
  cases hf : r.opcode.isControlFlow with
  | true =>
    obtain ⟨opcode, dest, sources⟩ := r
    cases opcode with
    | ifOp | elseOp | endif | ret => simp [statements, Opcode.template]
    | _ => cases hf
  | false =>
    obtain ⟨body, ht⟩ := Opcode.exists_vector hf
    simp only [statements, ht]
    split
    · rename_i array start channels hd
      simp [hd]
    · rename_i hd
      rw [Except.error.injEq]
      exact ⟨fun h => ⟨trivial, hd, h.symm⟩, fun h => h.2.2.symm⟩

theorem Resolved.length_statements {r : Resolved} (hf : r.opcode.isControlFlow = true)
    (h : r.statements = .ok block) : block.length = 1 := by
  obtain ⟨opcode, dest, sources⟩ := r
  cases opcode with
  | ifOp | elseOp | endif | ret =>
    cases h
    rfl
  | _ => cases hf

theorem resolve?_ne_elements_iff (h : resolve? role o = .ok x) :
    (∀ array start channels, x ≠ some (.elements array start channels)) ↔
      o = none ∨ ∃ text, o = some (.literal text) := by
  cases o with
  | none =>
    cases h
    simp
  | some o =>
    obtain ⟨access, ha, rfl⟩ := exists_of_resolve? h
    cases o with
    | literal text =>
      cases ha
      simp
    | register name address swizzle =>
      obtain ⟨_, _, rfl⟩ := resolve_register_eq_ok_iff.1 ha
      simp

namespace Instruction

theorem refused_iff_of_unknown {i : Instruction} (ho : Opcode.ofName? i.op = none) :
    i.Refused e ↔ e = .unknownOpcode i.op := by
  have hunknown : ¬ (i.op ∈ vectorNames ∨ i.op ∈ flowNames) := by
    simp [Opcode.known_iff, ho]
  constructor
  · intro h
    cases h with
    | opcode => rfl
    | operand hn => exact absurd hn hunknown
    | destination hn => exact absurd (.inl hn) hunknown
  · rintro rfl
    obtain ⟨hv, hf⟩ := not_or.1 hunknown
    exact .opcode hv hf

theorem refused_iff_of_known {i : Instruction} (ho : Opcode.ofName? i.op = some opcode) :
    i.Refused e ↔ FirstError (Operand.resolve .source) i.operands e ∨
      opcode.isControlFlow = false ∧ (∀ o ∈ i.operands, ∀ e, ¬ o.Refused e) ∧
        (i.dest = none ∨ ∃ text, i.dest = some (.literal text)) ∧
        e = .invalidDestination opcode.name := by
  have hname : opcode.name = i.op := Opcode.ofName?_eq_some_iff.1 ho
  have hknown : i.op ∈ vectorNames ∨ i.op ∈ flowNames := Opcode.known_iff.2 ⟨opcode, ho⟩
  simp only [FirstError, Lanewise.exists_resolve_iff, Lanewise.resolve_eq_error_iff]
  constructor
  · intro h
    cases h with
    | opcode hv hf => exact absurd hknown (not_or.2 ⟨hv, hf⟩)
    | operand _ hs hfine he => exact .inl ⟨_, _, _, hs, hfine, he⟩
    | destination hv hgood hd =>
      obtain ⟨_, ho', hf⟩ := Opcode.mem_vectorNames_iff.1 hv
      cases ho.symm.trans ho'
      exact .inr ⟨hf, hgood, hd, by rw [hname]⟩
  · rintro (⟨_, _, _, hs, hfine, he⟩ | ⟨hf, hgood, hd, rfl⟩)
    · exact .operand hknown hs hfine he
    · rw [hname]
      exact .destination (Opcode.mem_vectorNames_iff.2 ⟨opcode, ho, hf⟩) hgood hd

theorem statements_eq_error_iff {i : Instruction} : i.statements = .error e ↔ i.Refused e := by
  cases ho : Opcode.ofName? i.op with
  | none =>
    have hstatements : i.statements = .error (.unknownOpcode i.op) := by
      rw [statements, resolve, ho]
      rfl
    rw [hstatements, refused_iff_of_unknown ho, Except.error.injEq, eq_comm]
  | some opcode =>
    rw [statements, bind_eq_error_iff, resolve_eq_error_iff ho, refused_iff_of_known ho,
      ← exists_resolve_iff ho]
    refine or_congr_right ⟨?_, ?_⟩
    · rintro ⟨r, hr, he⟩
      obtain ⟨hop, hd, _⟩ := resolve_eq_ok hr
      cases hop.symm.trans ho
      obtain ⟨hf, hne, rfl⟩ := Resolved.statements_eq_error_iff.1 he
      exact ⟨hf, ⟨r, hr⟩, (resolve?_ne_elements_iff hd).1 hne, rfl⟩
    · rintro ⟨hf, ⟨r, hr⟩, hdest, rfl⟩
      obtain ⟨hop, hd, _⟩ := resolve_eq_ok hr
      cases hop.symm.trans ho
      have hne := (resolve?_ne_elements_iff hd).2 hdest
      exact ⟨r, hr, Resolved.statements_eq_error_iff.2 ⟨hf, hne, rfl⟩⟩

theorem length_statements {i : Instruction} (hf : i.op ∈ flowNames)
    (h : i.statements = .ok block) : block.length = 1 := by
  obtain ⟨opcode, ho, hf⟩ := Opcode.mem_flowNames_iff.1 hf
  obtain ⟨r, hr, h⟩ := bind_eq_ok_iff.1 h
  obtain ⟨hop, _⟩ := resolve_eq_ok hr
  cases hop.symm.trans ho
  exact Resolved.length_statements hf h

/-- The line with the text of an instruction, if it is wanted. -/
def heading (traced : Bool) (i : Instruction) : List Line :=
  if traced then [.trace i.render] else []

theorem expand_of_ok {i : Instruction} (h : i.statements = .ok block) :
    i.expand traced = ⟨i.heading traced ++ block.map .statement ++ [.blank], none⟩ := by
  rw [expand, h]
  rfl

theorem expand_of_error {i : Instruction} (h : i.statements = .error e) :
    i.expand traced = ⟨i.heading traced, some e⟩ := by
  rw [expand, h]
  rfl

theorem refusal_expand_iff {i : Instruction} :
    (i.expand traced).refusal = some e ↔ i.Refused e := by
  rw [← statements_eq_error_iff]
  cases h : i.statements with
  | ok block => simp [expand_of_ok h]
  | error e' => simp [expand_of_error h]

theorem exists_statements_iff {i : Instruction} :
    (∃ block, i.statements = .ok block) ↔ (i.expand traced).refusal = none := by
  rw [exists_eq_ok_iff, Option.eq_none_iff_forall_ne_some]
  simp only [ne_eq, refusal_expand_iff, statements_eq_error_iff]

theorem exists_refused_iff {i : Instruction} : (∃ e, i.Refused e) ↔
    i.op ∉ vectorNames ∧ i.op ∉ flowNames ∨ (∃ o ∈ i.operands, ∃ e, o.Refused e) ∨
      i.op ∈ vectorNames ∧ (i.dest = none ∨ ∃ text, i.dest = some (.literal text)) := by
  constructor
  · rintro ⟨e, h⟩
    cases h with
    | opcode hv hf => exact .inl ⟨hv, hf⟩
    | operand _ hs _ he =>
      rw [hs]
      exact .inr (.inl ⟨_, List.mem_append_right _ List.mem_cons_self, _, he⟩)
    | destination hv _ hd => exact .inr (.inr ⟨hv, hd⟩)
  · intro h
    cases ho : Opcode.ofName? i.op with
    | none => exact ⟨_, (refused_iff_of_unknown ho).2 rfl⟩
    | some opcode =>
      by_cases hfault : ∃ o ∈ i.operands, ∃ e, o.Refused e
      · obtain ⟨o, hm, e, he⟩ := hfault
        have hresolve : ∃ e, o.resolve .source = .error e :=
          ⟨e, Lanewise.resolve_eq_error_iff.2 he⟩
        obtain ⟨e, hfirst⟩ := exists_firstError_iff.2 ⟨o, hm, hresolve⟩
        exact ⟨e, (refused_iff_of_known ho).2 (.inl hfirst)⟩
      · rcases h with hn | hn | ⟨hv, hd⟩
        · exact absurd (Opcode.known_iff.2 ⟨opcode, ho⟩) (not_or.2 hn)
        · exact absurd hn hfault
        · simp only [not_exists, not_and] at hfault
          exact ⟨_, .destination hv hfault hd⟩

end Instruction

namespace Entry

/-- The lines of an entry, those of a refused instruction included. -/
def lines (traced : Bool) : Entry → List Line
  | .comment text => [.note text]
  | .instruction i => (i.expand traced).lines

theorem expand_eq_error_iff {entry : Entry} : entry.expand traced = .error e ↔
    ∃ i, entry = .instruction i ∧ (i.expand traced).refusal = some e := by
  cases entry with
  | comment text => simp [expand]
  | instruction i => rcases hx : i.expand traced with ⟨ls, _ | e'⟩ <;> simp [expand, hx]

theorem expand_eq_ok_iff {entry : Entry} : entry.expand traced = .ok ls ↔
    (∀ i, entry = .instruction i → (i.expand traced).refusal = none) ∧ entry.lines traced = ls := by
  cases entry with
  | comment text => simp [expand, lines]
  | instruction i =>
    rcases hx : i.expand traced with ⟨ls', _ | e⟩ <;> simp [expand, lines, hx]

theorem exists_expand_iff {entry : Entry} : (∃ ls, entry.expand traced = .ok ls) ↔
    ∀ i, entry = .instruction i → (i.expand traced).refusal = none := by
  simp only [expand_eq_ok_iff, exists_and_left, exists_eq', and_true]

end Entry

theorem mapM_expand_eq_ok_iff {entries : List Entry} :
    entries.mapM (Entry.expand traced) = .ok pieces ↔
      (∀ i, .instruction i ∈ entries → (i.expand traced).refusal = none) ∧
        entries.map (Entry.lines traced) = pieces := by
  have hlines : List.Forall₂ (fun entry piece => Entry.lines traced entry = piece) entries pieces ↔
      entries.map (Entry.lines traced) = pieces := by
    rw [← List.forall₂_map_left_iff (R := Eq), List.forall₂_eq_eq_eq]
  simp only [mapM_eq_ok_iff, Entry.expand_eq_ok_iff, List.forall₂_and_left, hlines]
  refine and_congr_left fun _ => ⟨fun h i hm => h _ hm i rfl, ?_⟩
  rintro h _ hm i rfl
  exact h i hm

theorem expandEntries_eq_ok_iff : expandEntries traced entries = .ok ls ↔
    (∀ i, .instruction i ∈ entries → (i.expand traced).refusal = none) ∧
      ls = entries.flatMap (Entry.lines traced) := by
  rw [expandEntries, bind_eq_ok_iff, List.flatMap_def]
  constructor
  · rintro ⟨pieces, hp, h⟩
    cases h
    obtain ⟨hall, rfl⟩ := mapM_expand_eq_ok_iff.1 hp
    exact ⟨hall, rfl⟩
  · rintro ⟨hall, rfl⟩
    exact ⟨_, mapM_expand_eq_ok_iff.2 ⟨hall, rfl⟩, rfl⟩

theorem expandEntries_eq_error_iff : expandEntries traced entries = .error e ↔
    ∃ before i after, entries = before ++ .instruction i :: after ∧
      (∀ j, .instruction j ∈ before → (j.expand traced).refusal = none) ∧
      (i.expand traced).refusal = some e := by
  rw [expandEntries, bind_eq_error_iff, mapM_eq_error_iff]
  simp only [FirstError, Entry.exists_expand_iff, Entry.expand_eq_error_iff]
  constructor
  · rintro (⟨before, _, after, rfl, hb, i, rfl, hi⟩ | ⟨_, _, h⟩)
    · exact ⟨before, i, after, rfl, fun j hm => hb _ hm j rfl, hi⟩
    · cases h
  · rintro ⟨before, i, after, rfl, hb, hi⟩
    refine .inl ⟨before, _, after, rfl, ?_, i, rfl, hi⟩
    rintro _ hm j rfl
    exact hb j hm

/-- An instruction is refused for its first fault and leaves no statement behind; any other one
leaves its statements, a single one if it guides the flow. A listing becomes the lines of its
entries in order, or is refused for its first refused instruction. -/
theorem expansion_refuses_first_fault (traced : Bool) :
    (∀ i : Instruction,
      ((∃ e, (i.expand traced).refusal = some e) ↔
        i.op ∉ vectorNames ∧ i.op ∉ flowNames ∨ (∃ o ∈ i.operands, ∃ e, o.Refused e) ∨
          i.op ∈ vectorNames ∧ (i.dest = none ∨ ∃ text, i.dest = some (.literal text))) ∧
      (∀ e, (i.expand traced).refusal = some e ↔ i.Refused e) ∧
      (∀ e, (i.expand traced).refusal = some e → (i.expand traced).lines = i.heading traced) ∧
      ((i.expand traced).refusal = none → ∃ block, i.statements = .ok block ∧
        (i.expand traced).lines = i.heading traced ++ block.map .statement ++ [.blank] ∧
        (i.op ∈ flowNames → block.length = 1))) ∧
    ∀ entries : List Entry,
      (∀ lines, expandEntries traced entries = .ok lines ↔
        (∀ i, .instruction i ∈ entries → (i.expand traced).refusal = none) ∧
          lines = entries.flatMap (Entry.lines traced)) ∧
      ∀ e, expandEntries traced entries = .error e ↔ ∃ before i after,
        entries = before ++ .instruction i :: after ∧
        (∀ j, .instruction j ∈ before → (j.expand traced).refusal = none) ∧
        (i.expand traced).refusal = some e := by
  refine ⟨fun i => ⟨?_, fun e => Instruction.refusal_expand_iff, ?_, ?_⟩,
    fun entries => ⟨fun lines => expandEntries_eq_ok_iff, fun e => expandEntries_eq_error_iff⟩⟩
  · simp only [Instruction.refusal_expand_iff, Instruction.exists_refused_iff]
  · intro e h
    rw [Instruction.refusal_expand_iff, ← Instruction.statements_eq_error_iff] at h
    rw [Instruction.expand_of_error h]
  · intro h
    obtain ⟨block, hb⟩ := Instruction.exists_statements_iff.2 h
    exact ⟨block, hb, by rw [Instruction.expand_of_ok hb],
      fun hf => Instruction.length_statements hf hb⟩

/-- Operands that the opcode does not use are at fault, and the first of them decides; the last
instruction has a fault of its own. -/
theorem expansion_refuses_first_fault_unused :
    let faulty : Instruction := ⟨"ELSE", some (.literal "k"),
      some (.register "temp" (2 ^ 62) (some "rgba")), none, some (.register "temp" 0 (some "xyzwx"))⟩
    let entries : List Entry := [.instruction ⟨"RET", none, none, none, none⟩, .comment "unused",
      .instruction faulty, .instruction ⟨"MOV", none, none, none, none⟩]
    let error : ObjectError := .addressOverflow "temp" (2 ^ 62)
    (faulty.expand true).refusal = some error ∧ (faulty.expand true).lines = faulty.heading true ∧
      expandEntries true entries = .error error := by
  intro faulty entries error
  obtain ⟨hi, he⟩ := expansion_refuses_first_fault true
  obtain ⟨_, hfirst, hlines, _⟩ := hi faulty
  have hrefused : (faulty.expand true).refusal = some error := by
    apply (hfirst error).2
    have hoperands : faulty.operands = [.literal "k"] ++
        .register "temp" (2 ^ 62) (some "rgba") :: [.register "temp" 0 (some "xyzwx")] := rfl
    apply Instruction.Refused.operand (.inr (by decide)) hoperands
    · rintro x hx e h
      cases List.mem_singleton.1 hx
      cases h
    · exact .address (Nat.le_refl _)
  refine ⟨hrefused, hlines error hrefused, ?_⟩
  apply ((he entries).2 error).2
  refine ⟨[_, _], faulty, [_], rfl, ?_, hrefused⟩
  intro j hj
  rcases List.mem_cons.1 hj with h | h
  · cases h
    decide +kernel
  · cases List.mem_singleton.1 h

end Lanewise
