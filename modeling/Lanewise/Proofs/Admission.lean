import Lanewise.Program
import Lanewise.Proofs.Failure

namespace Lanewise
set_option autoImplicit true

/-- An object for a stage. -/
structure Submission where
  object : ShaderObject
  stage : Stage
  deriving DecidableEq, Repr

instance decidableIsOk (x : Except ε α) : Decidable (∃ a, x = .ok a) :=
  match x with
  | .ok a => .isTrue ⟨a, rfl⟩
  | .error _ => .isFalse fun ⟨_, h⟩ => nomatch h

/-- Merges declarations one after the other, up to the first refusal. -/
def Interface.mergeAll (interface : Interface) (sizes : TypeSizes) :
    List Declarations → Except ObjectError Unit × Interface
  | [] => (.ok (), interface)
  | ds :: rest =>
    match interface.merge sizes ds with
    | (.ok _, merged) => merged.mergeAll sizes rest
    | (.error e, left) => (.error e, left)

namespace ShaderObject

/-- Whether the declarations of an object have places and its code has lines. -/
def Acceptable (sizes : TypeSizes) (traced : Bool) (object : ShaderObject) : Prop :=
  (∃ bindings, object.declarations.bindings sizes = .ok bindings) ∧
    ∃ lines, expandEntries traced object.code = .ok lines

/-- The fault of an object is that of its declarations, and that of its code if they have none. -/
def Fault (sizes : TypeSizes) (traced : Bool) (object : ShaderObject) (e : ObjectError) : Prop :=
  object.declarations.bindings sizes = .error e ∨
    (∃ bindings, object.declarations.bindings sizes = .ok bindings) ∧
      expandEntries traced object.code = .error e

instance decidableAcceptable (sizes : TypeSizes) (traced : Bool) (object : ShaderObject) :
    Decidable (object.Acceptable sizes traced) :=
  inferInstanceAs (Decidable (_ ∧ _))

theorem Fault.not_acceptable {object : ShaderObject} (h : object.Fault sizes traced e) :
    ¬ object.Acceptable sizes traced := by
  intro ⟨⟨bindings, hb⟩, lines, hl⟩
  rcases h with h | ⟨_, h⟩
  · cases hb.symm.trans h
  · cases hl.symm.trans h

theorem Fault.unique {object : ShaderObject} (h : object.Fault sizes traced e)
    (h' : object.Fault sizes traced e') : e = e' := by
  rcases h with h | ⟨⟨bindings, hb⟩, h⟩
  · rcases h' with h' | ⟨⟨bindings, hb⟩, _⟩
    · cases h.symm.trans h'
      rfl
    · cases hb.symm.trans h
  · rcases h' with h' | ⟨_, h'⟩
    · cases hb.symm.trans h'
    · cases h.symm.trans h'
      rfl

end ShaderObject

/-- The submissions that were accepted. -/
def accepted (calls : List Submission) (answers : List (Except ObjectError Unit)) :
    List Submission :=
  ((calls.zip answers).filter fun call => call.2.isOk).map Prod.fst

theorem accepted_cons_ok (c : Submission) (calls : List Submission)
    (answers : List (Except ObjectError Unit)) :
    accepted (c :: calls) (.ok () :: answers) = c :: accepted calls answers := rfl

theorem accepted_cons_error (c : Submission) (calls : List Submission) (e : ObjectError)
    (answers : List (Except ObjectError Unit)) :
    accepted (c :: calls) (.error e :: answers) = accepted calls answers := rfl

namespace Program

/-- Whether a program differs from another one in nothing but what objects bring in. -/
def SameSetting (p q : Program) : Prop :=
  q = { p with
    interface := q.interface, vertexLines := q.vertexLines, fragmentLines := q.fragmentLines
    built := q.built, lastError := q.lastError }

theorem SameSetting.trans {p q r : Program} (h : p.SameSetting q) (h' : q.SameSetting r) :
    p.SameSetting r := by
  rw [SameSetting] at h h' ⊢
  rw [h] at h'
  exact h'

theorem SameSetting.options_eq {p q : Program} (h : p.SameSetting q) : q.options = p.options := by
  rw [h]

theorem SameSetting.typeSizes_eq {p q : Program} (h : p.SameSetting q) :
    q.typeSizes = p.typeSizes := by
  rw [h]

theorem lines_appendLines (p : Program) (stage : Stage) (lines : List Line) (stage' : Stage) :
    (p.appendLines stage lines).lines stage' =
      p.lines stage' ++ if stage = stage' then lines else [] := by
  cases stage <;> cases stage' <;> simp [appendLines, Program.lines]

/-- What adding an object can do. -/
theorem add_cases (p : Program) (object : ShaderObject) (stage : Stage) :
    (∃ bindings lines q, object.declarations.bindings p.typeSizes = .ok bindings ∧
      expandEntries p.options.traceComments object.code = .ok lines ∧
      p.add object stage = (.ok (), q) ∧ p.SameSetting q ∧
      q.interface = p.interface.insertAll bindings ∧
      (∀ s, q.lines s = p.lines s ++ if stage = s then lines else []) ∧
      q.built = none ∧ q.lastError = none) ∨
    ∃ e, object.Fault p.typeSizes p.options.traceComments e ∧
      p.add object stage = (.error e, { p with lastError := some e }) := by
  cases hd : p.digest object with
  | ok parts =>
    obtain ⟨bindings, hb, h⟩ := bind_eq_ok_iff.1 hd
    obtain ⟨lines, hl, h⟩ := bind_eq_ok_iff.1 h
    cases h
    have ha : p.add object stage = (.ok (), { p.appendLines stage lines with
        interface := p.interface.insertAll bindings, built := none, lastError := none }) := by
      rw [add, hd]
    refine .inl ⟨bindings, lines, _, hb, hl, ha, ?_, rfl, ?_, rfl, rfl⟩
    · cases stage <;> rfl
    · intro s
      rw [← lines_appendLines]
      cases s <;> rfl
  | error e =>
    refine .inr ⟨e, ?_, ?_⟩
    · rcases bind_eq_error_iff.1 hd with hb | ⟨bindings, hb, h⟩
      · exact .inl hb
      · rcases bind_eq_error_iff.1 h with hl | ⟨lines, _, h⟩
        · exact .inr ⟨⟨bindings, hb⟩, hl⟩
        · cases h
    · rw [add, hd]

theorem add_answer (p : Program) (object : ShaderObject) (stage : Stage) :
    ((p.add object stage).1 = .ok () ↔ object.Acceptable p.typeSizes p.options.traceComments) ∧
    ∀ e, (p.add object stage).1 = .error e ↔
      object.Fault p.typeSizes p.options.traceComments e := by
  rcases p.add_cases object stage with ⟨bindings, lines, q, hb, hl, ha, _⟩ | ⟨e, he, ha⟩
  · have hok : object.Acceptable p.typeSizes p.options.traceComments := ⟨⟨bindings, hb⟩, lines, hl⟩
    rw [ha]
    exact ⟨iff_of_true rfl hok, fun e => iff_of_false (fun h => nomatch h) fun he =>
      he.not_acceptable hok⟩
  · rw [ha]
    refine ⟨iff_of_false (fun h => nomatch h) he.not_acceptable, fun e' => ?_⟩
    constructor
    · intro h
      cases h
      exact he
    · intro he'
      rw [he.unique he']

theorem sameSetting_add (p : Program) (object : ShaderObject) (stage : Stage) :
    p.SameSetting (p.add object stage).2 := by
  rcases p.add_cases object stage with ⟨_, _, q, _, _, ha, hs, _⟩ | ⟨e, _, ha⟩
  · rw [ha]
    exact hs
  · rw [ha]
    rfl

/-- The program after all submissions, accepted or not. -/
def addAll (p : Program) (calls : List Submission) : Program :=
  calls.foldl (fun p c => (p.add c.object c.stage).2) p

/-- The answers to submissions one after the other. -/
def answers (p : Program) : List Submission → List (Except ObjectError Unit)
  | [] => []
  | c :: calls => (p.add c.object c.stage).1 :: (p.add c.object c.stage).2.answers calls

theorem addAll_cons (p : Program) (c : Submission) (calls : List Submission) :
    p.addAll (c :: calls) = (p.add c.object c.stage).2.addAll calls := rfl

theorem answers_cons (p : Program) (c : Submission) (calls : List Submission) :
    p.answers (c :: calls) =
      (p.add c.object c.stage).1 :: (p.add c.object c.stage).2.answers calls := rfl

theorem addAll_concat (p : Program) (calls : List Submission) (c : Submission) :
    p.addAll (calls ++ [c]) = ((p.addAll calls).add c.object c.stage).2 :=
  List.foldl_concat ..

theorem answers_concat (p : Program) (calls : List Submission) (c : Submission) :
    p.answers (calls ++ [c]) = p.answers calls ++ [((p.addAll calls).add c.object c.stage).1] := by
  induction calls generalizing p with
  | nil => rfl
  | cons c' calls ih =>
    rw [List.cons_append, answers_cons, answers_cons, ih, addAll_cons]
    rfl

theorem sameSetting_addAll (p : Program) (calls : List Submission) :
    p.SameSetting (p.addAll calls) := by
  induction calls generalizing p with
  | nil => rfl
  | cons c calls ih => exact (p.sameSetting_add c.object c.stage).trans (ih _)

/-- Every submission is judged by itself. -/
theorem answers_judge (p : Program) (calls : List Submission) :
    List.Forall₂ (fun (c : Submission) answer =>
      (answer = .ok () ↔ c.object.Acceptable p.typeSizes p.options.traceComments) ∧
      ∀ e, answer = .error e ↔ c.object.Fault p.typeSizes p.options.traceComments e)
      calls (p.answers calls) := by
  induction calls generalizing p with
  | nil => exact .nil
  | cons c calls ih =>
    have hs := p.sameSetting_add c.object c.stage
    have hrest := ih (p.add c.object c.stage).2
    rw [hs.typeSizes_eq, hs.options_eq] at hrest
    exact .cons (p.add_answer c.object c.stage) hrest

theorem accepted_answers (p : Program) (calls : List Submission) :
    accepted calls (p.answers calls) =
      calls.filter fun c => c.object.Acceptable p.typeSizes p.options.traceComments := by
  induction calls generalizing p with
  | nil => rfl
  | cons c calls ih =>
    have hs := p.sameSetting_add c.object c.stage
    have hrest := ih (p.add c.object c.stage).2
    simp only [hs.typeSizes_eq, hs.options_eq] at hrest
    obtain ⟨hok, herror⟩ := p.add_answer c.object c.stage
    rw [answers_cons]
    cases hanswer : (p.add c.object c.stage).1 with
    | ok =>
      have hc := hok.1 hanswer
      rw [accepted_cons_ok, hrest, List.filter_cons_of_pos (by simpa using hc)]
    | error e =>
      have hc := ((herror e).1 hanswer).not_acceptable
      rw [accepted_cons_error, hrest, List.filter_cons_of_neg (by simpa using hc)]

/-- Each stage holds the lines of the accepted objects for it, in their order. -/
theorem lines_addAll (p : Program) (calls : List Submission) (stage : Stage) :
    ∃ blocks, ((accepted calls (p.answers calls)).filter (·.stage == stage)).mapM
        (fun c => expandEntries p.options.traceComments c.object.code) = .ok blocks ∧
      (p.addAll calls).lines stage = p.lines stage ++ blocks.flatten := by
  induction calls generalizing p with
  | nil => exact ⟨[], rfl, (List.append_nil _).symm⟩
  | cons c calls ih =>
    rw [answers_cons, addAll_cons]
    rcases p.add_cases c.object c.stage with
      ⟨_, lines, q, _, hl, ha, hs, _, hlines, _⟩ | ⟨e, _, ha⟩
    · rw [ha, accepted_cons_ok]
      obtain ⟨blocks, hblocks, hq⟩ := ih q
      rw [hs.options_eq] at hblocks
      by_cases hc : c.stage = stage
      · refine ⟨lines :: blocks, ?_, ?_⟩
        · rw [List.filter_cons_of_pos (by simpa using hc), List.mapM_cons, hl, hblocks]
          rfl
        · rw [hq, hlines, if_pos hc, List.flatten_cons, List.append_assoc]
      · refine ⟨blocks, ?_, ?_⟩
        · rwa [List.filter_cons_of_neg (by simpa using hc)]
        · rw [hq, hlines, if_neg hc, List.append_nil]
    · rw [ha, accepted_cons_error]
      exact ih { p with lastError := some e }

theorem interface_addAll (p : Program) (calls : List Submission) :
    p.interface.mergeAll p.typeSizes
      ((accepted calls (p.answers calls)).map (·.object.declarations)) =
        (.ok (), (p.addAll calls).interface) := by
  induction calls generalizing p with
  | nil => rfl
  | cons c calls ih =>
    rw [answers_cons, addAll_cons]
    rcases p.add_cases c.object c.stage with
      ⟨bindings, _, q, hb, _, ha, hs, hinterface, _⟩ | ⟨e, _, ha⟩
    · have hrest := ih q
      rw [hs.typeSizes_eq, hinterface] at hrest
      rw [ha, accepted_cons_ok, List.map_cons, Interface.mergeAll, Interface.merge, hb]
      exact hrest
    · rw [ha, accepted_cons_error]
      exact ih { p with lastError := some e }

theorem lastError_add (p : Program) (object : ShaderObject) (stage : Stage) :
    (p.add object stage).2.lastError =
      match (p.add object stage).1 with
      | .ok _ => none
      | .error e => some e := by
  rcases p.add_cases object stage with ⟨_, _, q, _, _, ha, _, _, _, _, he⟩ | ⟨e, _, ha⟩
  · rw [ha]
    exact he
  · rw [ha]

theorem lastError_addAll {p : Program} (h : p.lastError = none) (calls : List Submission) :
    (p.addAll calls).lastError =
      match (p.answers calls).getLast? with
      | some (.error e) => some e
      | _ => none := by
  rcases List.eq_nil_or_concat calls with rfl | ⟨before, c, rfl⟩
  · exact h
  · rw [List.concat_eq_append, addAll_concat, answers_concat, List.getLast?_concat, lastError_add]
    cases ((p.addAll before).add c.object c.stage).1 <;> rfl

theorem built_addAll {p : Program} (h : p.built = none) (calls : List Submission) :
    (p.addAll calls).built = none := by
  induction calls generalizing p with
  | nil => exact h
  | cons c calls ih =>
    rw [addAll_cons]
    apply ih
    rcases p.add_cases c.object c.stage with ⟨_, _, q, _, _, ha, _, _, _, hb, _⟩ | ⟨e, _, ha⟩
    · rw [ha]
      exact hb
    · rw [ha]
      exact h

/-- The lines of a stage do not depend on what is submitted for the other one in between. -/
theorem lines_addAll_congr {p : Program} {calls others : List Submission}
    (h : ∀ stage, others.filter (·.stage == stage) = calls.filter (·.stage == stage))
    (stage : Stage) : (p.addAll others).lines stage = (p.addAll calls).lines stage := by
  obtain ⟨blocks, hb, hl⟩ := p.lines_addAll calls stage
  obtain ⟨blocks', hb', hl'⟩ := p.lines_addAll others stage
  rw [accepted_answers, List.filter_comm, ← h, List.filter_comm, ← accepted_answers, hb'] at hb
  cases hb
  rw [hl, hl']

/-- Every object is accepted or refused as a whole and on its own account, whatever has been
submitted before it. A refused one leaves nothing but its error, until the next submission. -/
theorem addAll_all_or_nothing (options : Options) (sizes : TypeSizes) (calls : List Submission) :
    let start := ({ options } : Program).withTypeSizes sizes
    let answers := start.answers calls
    let p := start.addAll calls
    List.Forall₂ (fun (c : Submission) answer =>
      (answer = .ok () ↔
        (∃ bindings, c.object.declarations.bindings sizes = .ok bindings) ∧
          ∃ lines, expandEntries options.traceComments c.object.code = .ok lines) ∧
      ∀ e, answer = .error e ↔
        c.object.declarations.bindings sizes = .error e ∨
          (∃ bindings, c.object.declarations.bindings sizes = .ok bindings) ∧
            expandEntries options.traceComments c.object.code = .error e) calls answers ∧
    (∀ stage, ∃ blocks, ((accepted calls answers).filter (·.stage == stage)).mapM
        (fun c => expandEntries options.traceComments c.object.code) = .ok blocks ∧
      p.lines stage = blocks.flatten) ∧
    Interface.mergeAll {} sizes ((accepted calls answers).map (·.object.declarations)) =
      (.ok (), p.interface) ∧
    p.lastError = (match answers.getLast? with
      | some (.error e) => some e
      | _ => none) ∧
    p = { start with
      interface := p.interface, vertexLines := p.vertexLines, fragmentLines := p.fragmentLines
      lastError := p.lastError } ∧
    ∀ others, (∀ stage, others.filter (·.stage == stage) = calls.filter (·.stage == stage)) →
      ∀ stage, (start.addAll others).lines stage = p.lines stage := by
  intro start answers p
  have hbuilt : p.built = none := built_addAll rfl calls
  have hset := start.sameSetting_addAll calls
  rw [SameSetting, hbuilt] at hset
  refine ⟨start.answers_judge calls, ?_, start.interface_addAll calls, lastError_addAll rfl calls,
    hset, fun others h => lines_addAll_congr h⟩
  intro stage
  obtain ⟨blocks, hb, hl⟩ := start.lines_addAll calls stage
  refine ⟨blocks, hb, hl.trans ?_⟩
  cases stage <;> rfl

/-- Two objects that are accepted and two that are refused, in two orders. -/
theorem addAll_all_or_nothing_mixed :
    let move (dest source : String) : Entry :=
      .instruction ⟨"MOV", some (.register dest 0 (some "xy")),
        some (.register source 0 (some "yx")), none, none⟩
    let unknown : Entry := .instruction ⟨"FOO", none, none, none, none⟩
    let placed : Declaration := ⟨"tint", "vec4", "uniform@8"⟩
    let lit : Submission := ⟨⟨{ uniforms := [placed] }, [move "temp" "uniform"]⟩, .vertex⟩
    let stray : Submission :=
      ⟨⟨{ uniforms := [placed, ⟨"fog", "vec4", "uniform"⟩] }, [unknown]⟩, .fragment⟩
    let shaded : Submission := ⟨⟨{ varyings := [⟨"uv", "vec2", "varying@0"⟩] },
      [move "result" "varying"]⟩, .fragment⟩
    let broken : Submission := ⟨⟨{ uniforms := [placed] }, [move "temp" "temp", unknown]⟩, .vertex⟩
    let calls := [lit, stray, shaded, broken]
    let others := [stray, lit, broken, shaded]
    let start := ({ options := {} } : Program).withTypeSizes builtinSizes
    start.answers calls = [.ok (), .error (.malformedLocation "fog" "uniform"), .ok (),
      .error (.unknownOpcode "FOO")] ∧
    (∀ stage, others.filter (·.stage == stage) = calls.filter (·.stage == stage)) ∧
    ∀ stage, (start.addAll others).lines stage = (start.addAll calls).lines stage := by
  intro move unknown placed lit stray shaded broken calls others start
  have hsame : ∀ stage, others.filter (·.stage == stage) = calls.filter (·.stage == stage) := by
    intro stage
    cases stage <;> decide
  obtain ⟨_, _, _, _, _, hlines⟩ := addAll_all_or_nothing {} builtinSizes calls
  exact ⟨by decide +kernel, hsame, hlines others hsame⟩

end Program

end Lanewise
