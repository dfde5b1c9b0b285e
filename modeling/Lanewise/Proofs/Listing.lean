import Lanewise.Proofs.Admission
import Lanewise.Proofs.Numerals
import Lanewise.Proofs.Refusal
import Lanewise.Proofs.Saving

namespace Lanewise
set_option autoImplicit true

/-- Whether a text has no line break. -/
def OneLine (text : String) : Prop := '\n' ∉ text.toList

instance (text : String) : Decidable (OneLine text) := inferInstanceAs (Decidable (¬ _))

@[simp] theorem oneLine_append {a b : String} : OneLine (a ++ b) ↔ OneLine a ∧ OneLine b := by
  simp [OneLine, not_or]

theorem oneLine_intercalate {separator : String} (h : OneLine separator) {texts : List String} :
    OneLine (separator.intercalate texts) ↔ ∀ t ∈ texts, OneLine t := by
  induction texts with
  | nil => simp [OneLine]
  | cons t texts ih =>
    cases texts with
    | nil => simp
    | cons u texts =>
      rw [String.intercalate_cons_cons, oneLine_append, oneLine_append, ih, and_iff_left h]
      exact List.forall_mem_cons.symm

theorem not_mem_decimal (n : Nat) : '\n' ∉ Nat.toDigits 10 n := by
  intro hm
  cases isDigit_of_mem_decimal hm

theorem oneLine_toString (n : Nat) : OneLine (toString n) := by
  rw [OneLine, toList_toString]
  exact not_mem_decimal n

namespace NumberStyle

theorem not_mem_zeros (n : Nat) : '\n' ∉ zeros n := by
  simp [zeros, List.mem_replicate]

theorem not_mem_positional (style : NumberStyle) {digits : List Char} (h : '\n' ∉ digits)
    (places : Int) : '\n' ∉ style.positional digits places := by
  have htake : '\n' ∉ digits.take places.toNat := fun hm => h (List.mem_of_mem_take hm)
  have hdrop : '\n' ∉ digits.drop places.toNat := fun hm => h (List.mem_of_mem_drop hm)
  rw [positional]
  split
  · simp [not_mem_zeros, h]
  · split
    · simp [htake, hdrop]
    · split <;> simp [not_mem_zeros, h]

theorem not_mem_toString_int (n : Int) : '\n' ∉ (toString n).toList := by
  cases n with
  | ofNat n => exact oneLine_toString n
  | negSucc n =>
    have hn := oneLine_toString (n + 1)
    have hsign : OneLine "-" := by decide
    exact oneLine_append.2 ⟨hsign, hn⟩

theorem not_mem_scientific {digits : List Char} (h : '\n' ∉ digits) (places : Int) :
    '\n' ∉ scientific digits places := by
  have hpower := not_mem_toString_int (places - 1)
  rw [scientific.eq_def]
  dsimp only
  split <;> simp_all

theorem not_mem_renderMagnitude (style : NumberStyle) (x : Magnitude) :
    '\n' ∉ style.renderMagnitude x := by
  rw [renderMagnitude]
  split
  · split <;> decide
  · have hdigits : '\n' ∉
        ((Nat.toDigits 10 x.shortest.digits).reverse.dropWhile (· == '0')).reverse := by
      intro hm
      have hm := (List.dropWhile_sublist _).mem (List.mem_reverse.1 hm)
      exact not_mem_decimal _ (List.mem_reverse.1 hm)
    dsimp only
    split
    · exact not_mem_scientific hdigits _
    · exact style.not_mem_positional hdigits _

/-- Numbers are written without line breaks. -/
theorem oneLine_render (style : NumberStyle) (x : Float32) : OneLine (style.render x) := by
  rw [render]
  split
  · decide
  · have hmagnitude := style.not_mem_renderMagnitude (.ofBits x.toBits)
    rw [OneLine, String.toList_ofList]
    split <;> split <;> simp [hmagnitude]

end NumberStyle

theorem BinaryFn.oneLine_render (fn : BinaryFn) (ha : OneLine a) (hb : OneLine b) :
    OneLine (fn.render a b) := by
  cases fn <;> simp [BinaryFn.render, ha, hb] <;> decide

namespace Expr

theorem oneLine_enclose {e : Expr α} (h : OneLine text) : OneLine (e.enclose text) := by
  rw [enclose]
  split
  · simp only [oneLine_append]
    exact ⟨⟨by decide, h⟩, by decide⟩
  · exact h

/-- An expression has no line break if none of its leaves has one. -/
theorem oneLine_render {leafText : α → String} {e : Expr α}
    (h : ∀ a ∈ e.leaves, OneLine (leafText a)) : OneLine (e.render leafText) := by
  induction e with
  | leaf a => exact h a List.mem_cons_self
  | unary fn x ih =>
    have hx := ih h
    cases fn <;> simp [render, UnaryFn.callName, hx, oneLine_enclose] <;> decide
  | binary fn a b iha ihb =>
    rw [leaves, List.forall_mem_append] at h
    exact fn.oneLine_render (oneLine_enclose (iha h.1)) (oneLine_enclose (ihb h.2))
  | select c x y ihc ihx ihy =>
    rw [leaves, List.forall_mem_append, List.forall_mem_append] at h
    have hc : OneLine (c.enclose (c.render leafText)) := oneLine_enclose (ihc h.1.1)
    have hx : OneLine (x.enclose (x.render leafText)) := oneLine_enclose (ihx h.1.2)
    have hy : OneLine (y.enclose (y.render leafText)) := oneLine_enclose (ihy h.2)
    simp only [render, oneLine_append]
    exact ⟨⟨⟨⟨⟨by decide, hc⟩, by decide⟩, hx⟩, by decide⟩, hy⟩
  | sample u v lod n ihu ihv ihl =>
    rw [leaves, List.forall_mem_append, List.forall_mem_append] at h
    simp only [render, oneLine_append]
    exact ⟨⟨⟨⟨⟨⟨⟨⟨by decide, ihu h.1.1⟩, by decide⟩, ihv h.1.2⟩, by decide⟩, ihl h.2⟩, by decide⟩,
      oneLine_toString n⟩, by decide⟩

end Expr

theorem oneLine_arrayName (h : OneLine name) : OneLine (arrayName name) := by
  rw [arrayName]
  split
  · exact h
  · rw [OneLine, String.toList_ofList, List.mem_append]
    exact not_or.2 ⟨h, by decide⟩

theorem Element.oneLine_render {e : Element} (h : OneLine e.array) : OneLine e.render := by
  simp only [render, oneLine_append]
  exact ⟨⟨⟨h, by decide⟩, oneLine_toString e.index⟩, by decide⟩

theorem oneLine_scratchElement (n : Nat) : OneLine (scratchElement n).render := by
  have harray : OneLine Region.scratch.array := by decide +kernel
  exact Element.oneLine_render harray

theorem oneLine_assign (h : OneLine target.render) (hv : ∀ a ∈ Expr.leaves value, OneLine a.render) :
    OneLine (Statement.assign target value).render := by
  simp only [Statement.render, oneLine_append]
  exact ⟨⟨⟨h, by decide⟩, Expr.oneLine_render hv⟩, by decide⟩

theorem oneLine_redirect (saved : List Element) (h : OneLine a.render) :
    OneLine (redirect saved a).render := by
  rcases redirect_cases saved a with he | ⟨n, x, _, _, he⟩
  · rwa [he]
  · rw [he]
    exact oneLine_scratchElement n

theorem oneLine_sequentialize (h : ∀ w ∈ writes, OneLine w.target.render ∧
    ∀ a ∈ w.value.leaves, OneLine a.render) (hs : s ∈ sequentialize writes) : OneLine s.render := by
  rw [sequentialize_eq, List.mem_append] at hs
  rcases hs with hs | hs
  · obtain ⟨n, x, hx, rfl⟩ := mem_copies hs
    obtain ⟨⟨w, hw, rfl⟩, _⟩ := overlaps_subset (mem_hazards.1 hx)
    refine oneLine_assign (oneLine_scratchElement n) fun a ha => ?_
    cases List.mem_singleton.1 ha
    exact (h w hw).1
  · obtain ⟨w, hw, rfl⟩ := List.mem_map.1 hs
    refine oneLine_assign (h w hw).1 fun a ha => ?_
    rw [Expr.leaves_map] at ha
    obtain ⟨b, hb, rfl⟩ := List.mem_map.1 ha
    exact oneLine_redirect _ ((h w hw).2 b hb)

/-- What an operand puts into the code as it is: a literal, or the name of a storage. -/
def Operand.text : Operand → String
  | .literal text => text
  | .register name _ _ => name

namespace Operand

theorem oneLine_atomAt {o : Operand} (h : o.resolve role = .ok access) (ho : OneLine o.text)
    (position : Nat) : OneLine (access.atomAt position).render := by
  cases o with
  | literal text =>
    cases h
    exact ho
  | register name address swizzle =>
    obtain ⟨_, _, rfl⟩ := resolve_register_eq_ok_iff.1 h
    exact Element.oneLine_render (oneLine_arrayName ho)

theorem oneLine_letters (h : ¬ Malformed (swizzleLetters (some letters))) : OneLine letters := by
  intro hc
  have hne : letters ≠ "" := by
    rintro rfl
    cases hc
  have hletter := (letters_of_not_malformed h).2 '\n' (by rwa [swizzleLetters, if_neg hne])
  exact absurd hletter (by decide)

/-- The text of an operand that is not refused has a line break only in its literal or name. -/
theorem oneLine_render_iff {o : Operand} (h : o.resolve role = .ok access) :
    OneLine o.render ↔ OneLine o.text := by
  cases o with
  | literal text => rfl
  | register name address swizzle =>
    obtain ⟨_, hm, _⟩ := resolve_register_eq_ok_iff.1 h
    have haddress := oneLine_toString address
    cases swizzle with
    | none =>
      simp only [render, text, oneLine_append]
      exact ⟨fun h => h.1.1.1.1, fun h => ⟨⟨⟨⟨h, by decide⟩, haddress⟩, by decide⟩, by decide⟩⟩
    | some letters =>
      have hletters := oneLine_letters hm
      simp only [render, text, oneLine_append]
      exact ⟨fun h => h.1.1.1.1,
        fun h => ⟨⟨⟨⟨h, by decide⟩, haddress⟩, by decide⟩, by decide, hletters⟩⟩

end Operand

theorem oneLine_sourceAt
    (h : List.Forall₂ (fun o x => resolve? .source o = .ok x) operands accesses)
    (ho : ∀ o, some o ∈ operands → OneLine o.text) (k position : Nat) :
    OneLine (sourceAt accesses k position).render := by
  rcases sourceAt_cases h k position with hc | ⟨o, access, hm, ha, hs⟩
  · rw [hc]
    exact NumberStyle.oneLine_render _ _
  · rw [hs]
    exact Operand.oneLine_atomAt ha (ho o hm) position

namespace Instruction

/-- The statements of an instruction have no line break if none of its operands has one. -/
theorem oneLine_statements {i : Instruction} (h : i.statements = .ok block)
    (ho : ∀ o ∈ i.operands, OneLine o.text) (hs : s ∈ block) : OneLine s.render := by
  obtain ⟨r, hr, h⟩ := bind_eq_ok_iff.1 h
  obtain ⟨_, hd, hsources⟩ := resolve_eq_ok hr
  rw [Resolved.statements] at h
  split at h
  case h_1 =>
    cases h
    cases List.mem_singleton.1 hs
    have hcondition : OneLine r.condition.render := by
      rcases condition_cases hr with ⟨_, hc⟩ | ⟨o, hm, role, access, _, ha, hc⟩
      · rw [hc]
        exact NumberStyle.oneLine_render _ _
      · rw [hc]
        exact Operand.oneLine_atomAt ha (ho o hm) 0
    simp only [Statement.render, oneLine_append]
    exact ⟨⟨by decide, hcondition⟩, by decide⟩
  case h_5 body _ =>
    split at h
    · next array start channels hdest =>
      cases h
      rw [hdest] at hd
      obtain ⟨name, address, swizzle, hi, ha⟩ := register_of_resolve? hd
      have hsource := oneLine_sourceAt hsources fun o hm => ho o (mem_operands_of_source hm)
      refine oneLine_sequentialize (fun w hw => ?_) hs
      obtain ⟨⟨channel, position⟩, _, rfl⟩ := List.mem_map.1 hw
      refine ⟨Operand.oneLine_atomAt ha (ho _ (mem_operands_of_dest hi)) position, fun a hl => ?_⟩
      rw [Expr.leaves_withChannel, Expr.leaves_map] at hl
      obtain ⟨hole, _, rfl⟩ := List.mem_map.1 hl
      cases hole with
      | lane k => exact hsource k position
      | fixed k place => exact hsource k place
      | const value => exact NumberStyle.oneLine_render _ _
    · cases h
  -- the other statements of control flow have no operand
  all_goals
    cases h
    cases List.mem_singleton.1 hs
    decide

theorem exists_resolve_of_mem_operands {i : Instruction} (h : i.resolve = .ok r)
    (ho : o ∈ i.operands) : ∃ role access, o.resolve role = .ok access := by
  obtain ⟨_, hd, hs⟩ := resolve_eq_ok h
  obtain ⟨x, hm, hx⟩ := List.mem_filterMap.1 ho
  cases hx
  rcases List.mem_cons.1 hm with hm | hm
  · rw [← hm] at hd
    obtain ⟨access, ha, _⟩ := exists_of_resolve? hd
    exact ⟨_, access, ha⟩
  · obtain ⟨y, _, hy⟩ := exists_right_of_forall₂ hs hm
    obtain ⟨access, ha, _⟩ := exists_of_resolve? hy
    exact ⟨_, access, ha⟩

/-- The text of an instruction that is not refused has a line break only in its operands. -/
theorem oneLine_render_iff {i : Instruction} (h : i.statements = .ok block) :
    OneLine i.render ↔ ∀ o ∈ i.operands, OneLine o.text := by
  obtain ⟨r, hr, _⟩ := bind_eq_ok_iff.1 h
  obtain ⟨hop, _⟩ := resolve_eq_ok hr
  have hname : OneLine i.op := by
    rw [← Opcode.ofName?_eq_some_iff.1 hop]
    cases r.opcode <;> decide
  have hoperands : (∀ o ∈ i.operands, OneLine o.text) ↔ ∀ o ∈ i.operands, OneLine o.render := by
    refine forall₂_congr fun o ho => ?_
    obtain ⟨role, access, ha⟩ := exists_resolve_of_mem_operands hr ho
    exact (Operand.oneLine_render_iff ha).symm
  rw [hoperands, render]
  split
  · next he =>
    rw [he]
    exact iff_of_true hname (List.forall_mem_nil _)
  · rw [oneLine_append, oneLine_append, oneLine_intercalate (by decide), List.forall_mem_map]
    exact and_iff_right ⟨hname, by decide⟩

end Instruction

/-- What an entry puts into the code as it is. -/
def Entry.texts : Entry → List String
  | .comment text => [text]
  | .instruction i => i.operands.map Operand.text

/-- Whether lines are without line breaks if some texts are; and only then, if the lines have the
texts of their instructions. -/
structure LinesOf (traced : Bool) (texts : List String) (lines : List Line) : Prop where
  oneLine : (∀ t ∈ texts, OneLine t) → ∀ l ∈ lines, OneLine l.render
  oneLine_texts : traced = true → (∀ l ∈ lines, OneLine l.render) → ∀ t ∈ texts, OneLine t

theorem LinesOf.flatten (h : List.Forall₂ (LinesOf traced) texts lines) :
    LinesOf traced texts.flatten lines.flatten := by
  induction h with
  | nil => exact ⟨fun _ => List.forall_mem_nil _, fun _ _ => List.forall_mem_nil _⟩
  | cons h _ ih =>
    refine ⟨fun ht => ?_, fun htraced hl => ?_⟩
    · rw [List.flatten_cons, List.forall_mem_append] at ht ⊢
      exact ⟨h.oneLine ht.1, ih.oneLine ht.2⟩
    · rw [List.flatten_cons, List.forall_mem_append] at hl ⊢
      exact ⟨h.oneLine_texts htraced hl.1, ih.oneLine_texts htraced hl.2⟩

theorem Line.oneLine_trace_iff : OneLine (Line.trace text).render ↔ OneLine text := by
  rw [render, oneLine_append, and_iff_right (by decide)]

theorem Line.oneLine_note_iff : OneLine (Line.note text).render ↔ OneLine text := by
  rw [render, oneLine_append, and_iff_right (by decide)]

theorem Instruction.linesOf_expand {i : Instruction} (h : i.statements = .ok block) :
    LinesOf traced (i.operands.map Operand.text) (i.expand traced).lines := by
  rw [expand_of_ok h]
  constructor
  · intro ht l hl
    rw [List.forall_mem_map] at ht
    rcases List.mem_append.1 hl with hl | hl
    · rcases List.mem_append.1 hl with hl | hl
      · rw [heading] at hl
        split at hl
        · cases List.mem_singleton.1 hl
          exact Line.oneLine_trace_iff.2 ((oneLine_render_iff h).2 ht)
        · cases hl
      · obtain ⟨s, hs, rfl⟩ := List.mem_map.1 hl
        exact oneLine_append.2 ⟨by decide, oneLine_statements h ht hs⟩
    · cases List.mem_singleton.1 hl
      decide
  · rintro rfl hl
    have hheading : Line.trace i.render ∈ i.heading true := List.mem_cons_self
    have hrender := hl _ (List.mem_append_left _ (List.mem_append_left _ hheading))
    rw [List.forall_mem_map]
    exact (oneLine_render_iff h).1 (Line.oneLine_trace_iff.1 hrender)

theorem Entry.linesOf_expand {entry : Entry} (h : entry.expand traced = .ok ls) :
    LinesOf traced entry.texts ls := by
  obtain ⟨haccepted, rfl⟩ := expand_eq_ok_iff.1 h
  cases entry with
  | comment text =>
    constructor
    · intro ht l hl
      cases List.mem_singleton.1 hl
      exact Line.oneLine_note_iff.2 (ht text List.mem_cons_self)
    · intro _ hl t ht
      cases List.mem_singleton.1 ht
      exact Line.oneLine_note_iff.1 (hl _ List.mem_cons_self)
  | instruction i =>
    obtain ⟨block, hb⟩ := Instruction.exists_statements_iff.2 (haccepted i rfl)
    exact Instruction.linesOf_expand hb

theorem linesOf_expandEntries (h : expandEntries traced entries = .ok ls) :
    LinesOf traced (entries.flatMap Entry.texts) ls := by
  obtain ⟨pieces, hp, h⟩ := bind_eq_ok_iff.1 h
  cases h
  apply LinesOf.flatten
  rw [List.forall₂_map_left_iff]
  exact (mapM_eq_ok_iff.1 hp).imp fun _ _ => Entry.linesOf_expand

theorem not_mem_of_mem_splitOn [BEq α] [LawfulBEq α] {a : α} {l : List α}
    (h : piece ∈ l.splitOn a) : a ∉ piece := by
  induction l generalizing piece with
  | nil =>
    cases List.mem_singleton.1 h
    exact List.not_mem_nil
  | cons x l ih =>
    rw [List.splitOn_cons_eq_if_modifyHead] at h
    split at h
    · rcases List.mem_cons.1 h with rfl | h
      · exact List.not_mem_nil
      · exact ih h
    · next hx =>
      obtain ⟨first, rest, hsplit⟩ := List.exists_cons_of_ne_nil (List.splitOn_ne_nil a l)
      rw [hsplit] at h ih
      rcases List.mem_cons.1 h with rfl | h
      · rw [List.mem_cons, not_or]
        exact ⟨fun he => hx (beq_iff_eq.2 he.symm), ih List.mem_cons_self⟩
      · exact ih (List.mem_cons_of_mem _ h)

/-- A listing has a line of text for each of its lines exactly if none of them has a line break. -/
theorem Line.splitOn_renderAll_iff {ls : List Line} (h : ls ≠ []) :
    (renderAll ls).toList.splitOn '\n' = ls.map (·.render.toList) ↔
      ∀ l ∈ ls, OneLine l.render := by
  constructor
  · intro hsplit l hl
    apply not_mem_of_mem_splitOn
    rw [hsplit]
    exact List.mem_map.2 ⟨l, hl, rfl⟩
  · intro hl
    have hne : (ls.map render).map String.toList ≠ [] := by simpa using h
    have hrender : (renderAll ls).toList = ['\n'].intercalate ((ls.map render).map String.toList) :=
      String.toList_intercalate
    rw [hrender, List.splitOn_intercalate _ _ hne, List.map_map]
    · rfl
    · simpa [OneLine] using hl

/-- The text of a comment begins with two slashes, behind the spaces before them. -/
theorem Line.isPrefix_of_comment {l : Line} (h : l = .trace text ∨ l = .note text) :
    ['/', '/'] <+: l.render.toList.dropWhile (· == ' ') := by
  rcases h with rfl | rfl
  all_goals
    rw [render, String.toList_append]
    exact ⟨' ' :: text.toList, rfl⟩

namespace Program

/-- What the accepted objects put into the code of a stage as it is. -/
def textsOf (p : Program) (calls : List Submission) (stage : Stage) : List String :=
  ((accepted calls (p.answers calls)).filter (·.stage == stage)).flatMap fun c =>
    c.object.code.flatMap Entry.texts

theorem linesOf_addAll {p : Program} (h : p.lines stage = []) (calls : List Submission) :
    LinesOf p.options.traceComments (p.textsOf calls stage) ((p.addAll calls).lines stage) := by
  obtain ⟨blocks, hb, hl⟩ := p.lines_addAll calls stage
  rw [hl, h, List.nil_append]
  apply LinesOf.flatten
  rw [List.forall₂_map_left_iff]
  exact (mapM_eq_ok_iff.1 hb).imp fun _ _ => linesOf_expandEntries

/-- A listing has one line of text for each generated line if none of the comments, literals and
names of the accepted objects has a line break; and only then, if instructions are traced. Each
comment in it begins with two slashes. -/
theorem render_line_by_line (options : Options) (sizes : TypeSizes) (calls : List Submission)
    (stage : Stage) :
    let start := ({ options } : Program).withTypeSizes sizes
    let p := start.addAll calls
    p.lines stage ≠ [] →
      ((∀ t ∈ start.textsOf calls stage, '\n' ∉ t.toList) →
        (p.render stage).toList.splitOn '\n' = (p.lines stage).map (·.render.toList)) ∧
      (options.traceComments = true →
        (p.render stage).toList.splitOn '\n' = (p.lines stage).map (·.render.toList) →
          ∀ t ∈ start.textsOf calls stage, '\n' ∉ t.toList) ∧
      ∀ l ∈ p.lines stage, ∀ text, l = .trace text ∨ l = .note text →
        ['/', '/'] <+: l.render.toList.dropWhile (· == ' ') := by
  intro start p hne
  have hstart : start.lines stage = [] := by cases stage <;> rfl
  have hlines : LinesOf options.traceComments (start.textsOf calls stage) (p.lines stage) :=
    linesOf_addAll hstart calls
  refine ⟨fun ht => ?_, fun htraced hsplit => ?_, fun l _ text => Line.isPrefix_of_comment⟩
  · exact (Line.splitOn_renderAll_iff hne).2 (hlines.oneLine ht)
  · exact hlines.oneLine_texts htraced ((Line.splitOn_renderAll_iff hne).1 hsplit)

/-- Texts that look like code, with other characters that end a line for some readers; and an object
with a line break that is refused. -/
theorem render_line_by_line_awkward :
    let shown : ShaderObject := ⟨{}, [.comment "*/ x = 1;\x0b", .instruction ⟨"MOV",
      some (.register "a;\r//" 0 (some "x")), some (.literal "\u2028 = 1;"), none, none⟩]⟩
    let refused : ShaderObject := ⟨{}, [.comment "a\nb", .instruction ⟨"FOO", none, none, none, none⟩]⟩
    let calls : List Submission := [⟨shown, .vertex⟩, ⟨refused, .vertex⟩]
    let start := ({ options := {} } : Program).withTypeSizes builtinSizes
    let p := start.addAll calls
    start.textsOf calls .vertex = ["*/ x = 1;\x0b", "a;\r//", "\u2028 = 1;"] ∧
    (p.lines .vertex).length = 4 ∧
    (p.render .vertex).toList.splitOn '\n' = (p.lines .vertex).map (·.render.toList) := by
  intro shown refused calls start p
  have htexts : start.textsOf calls .vertex = ["*/ x = 1;\x0b", "a;\r//", "\u2028 = 1;"] := by
    decide +kernel
  have hlength : (p.lines .vertex).length = 4 := by decide +kernel
  have hne : p.lines .vertex ≠ [] := List.ne_nil_of_length_eq_add_one hlength
  have hone : ∀ t ∈ start.textsOf calls .vertex, '\n' ∉ t.toList := by
    rw [htexts]
    decide +kernel
  exact ⟨htexts, hlength, (render_line_by_line {} builtinSizes calls .vertex hne).1 hone⟩

/-- A line break in a comment begins a line that is no comment. -/
theorem render_breaks_comment :
    let object : ShaderObject := ⟨{}, [.comment "a\nresult_f32[0] = 1.0;"]⟩
    let start := ({ options := {} } : Program).withTypeSizes builtinSizes
    let p := start.addAll [⟨object, .vertex⟩]
    start.answers [⟨object, .vertex⟩] = [.ok ()] ∧
    p.lines .vertex = [.note "a\nresult_f32[0] = 1.0;"] ∧
    (p.render .vertex).toList.splitOn '\n' = ["    // a".toList, "result_f32[0] = 1.0;".toList] ∧
    ¬ ['/', '/'] <+: "result_f32[0] = 1.0;".toList.dropWhile (· == ' ') := by
  decide +kernel

end Program

end Lanewise
