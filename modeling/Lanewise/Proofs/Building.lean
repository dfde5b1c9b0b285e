import Lanewise.Proofs.Admission
import Mathlib.Data.List.Induction

namespace Lanewise
set_option autoImplicit true

/-- What a host asks of a program. -/
inductive Request where
  | withTypeSizes (sizes : TypeSizes)
  | add (object : ShaderObject) (stage : Stage)
  | build
  | run (stage : Stage)
  | setData (q : Qualifier) (name : String) (data : List Float32)
  | withSampler (sampler : Sampler)
  | clearError

/-- How a request ends. -/
inductive Reply where
  | done
  | refused (e : ObjectError)
  | failed (e : BuildError)
  deriving DecidableEq, Repr

def Reply.ofAddition : Except ObjectError Unit → Reply
  | .ok _ => .done
  | .error e => .refused e

def Reply.ofBuild : Except BuildError Unit → Reply
  | .ok _ => .done
  | .error e => .failed e

/-- Whether a build has succeeded and no object has been accepted since. -/
def BuiltSince (log : List (Request × Reply)) : Prop :=
  ∃ before after, log = before ++ (.build, .done) :: after ∧
    ∀ object stage, (.add object stage, .done) ∉ after

theorem not_builtSince_nil : ¬ BuiltSince [] := by
  intro ⟨before, after, h, _⟩
  cases before <;> cases h

theorem builtSince_concat : BuiltSince (log ++ [x]) ↔
    x = (.build, .done) ∨ BuiltSince log ∧ ∀ object stage, x ≠ (.add object stage, .done) := by
  constructor
  · intro ⟨before, after, h, hnone⟩
    rcases List.eq_nil_or_concat after with rfl | ⟨after, y, rfl⟩
    · exact .inl (List.append_inj_right' h rfl |> List.singleton_inj.1)
    · rw [List.concat_eq_append, ← List.cons_append, ← List.append_assoc] at h
      have hlog := List.append_inj_left' h rfl
      have hx := List.singleton_inj.1 (List.append_inj_right' h rfl)
      refine .inr ⟨⟨before, after, hlog, fun object stage hm => ?_⟩, fun object stage hadd => ?_⟩
      · exact hnone object stage (by simp [hm])
      · exact hnone object stage (by simp [← hadd, hx])
  · intro h
    rcases h with rfl | ⟨⟨before, after, rfl, hnone⟩, hx⟩
    · exact ⟨log, [], rfl, fun _ _ => List.not_mem_nil⟩
    · refine ⟨before, after ++ [x], by simp, fun object stage hm => ?_⟩
      rcases List.mem_append.1 hm with hm | hm
      · exact hnone object stage hm
      · exact hx object stage (List.mem_singleton.1 hm).symm

namespace Program

def perform (p : Program) : Request → Reply × Program
  | .withTypeSizes sizes => (.done, p.withTypeSizes sizes)
  | .add object stage => (.ofAddition (p.add object stage).1, (p.add object stage).2)
  | .build => (.ofBuild p.build.1, p.build.2)
  | .run stage => (.ofBuild (p.run stage).1, (p.run stage).2)
  | .setData q name data => (.done, p.setData q name data)
  | .withSampler sampler => (.done, p.withSampler sampler)
  | .clearError => (.done, p.clearError)

/-- The program after all requests. -/
def serve (p : Program) (requests : List Request) : Program :=
  requests.foldl (fun p r => (p.perform r).2) p

/-- The requests with the replies to them. -/
def log (p : Program) : List Request → List (Request × Reply)
  | [] => []
  | r :: requests => (r, (p.perform r).1) :: (p.perform r).2.log requests

theorem serve_concat (p : Program) (requests : List Request) (r : Request) :
    p.serve (requests ++ [r]) = ((p.serve requests).perform r).2 :=
  List.foldl_concat ..

theorem log_concat (p : Program) (requests : List Request) (r : Request) :
    p.log (requests ++ [r]) = p.log requests ++ [(r, ((p.serve requests).perform r).1)] := by
  induction requests generalizing p with
  | nil => rfl
  | cons r' requests ih =>
    rw [List.cons_append, log, log, ih]
    rfl

theorem compile_eq_ok_iff {p : Program} {built : BuiltProgram} :
    p.compile = .ok built ↔ ∀ stage, p.lower stage = .ok (built.of stage) := by
  constructor
  · intro h stage
    obtain ⟨vertex, hv, h⟩ := bind_eq_ok_iff.1 h
    obtain ⟨fragment, hf, h⟩ := bind_eq_ok_iff.1 h
    cases h
    cases stage with
    | vertex => exact hv
    | fragment => exact hf
  · intro h
    rw [compile, h .vertex, h .fragment]
    rfl

theorem build_cases (p : Program) :
    (∃ built, p.compile = .ok built ∧ p.build = (.ok (), { p with built := some built })) ∨
    ∃ e, p.compile = .error e ∧ p.build = (.error e, p) := by
  cases hc : p.compile with
  | ok built => exact .inl ⟨built, rfl, by rw [build, hc]⟩
  | error e => exact .inr ⟨e, rfl, by rw [build, hc]⟩

theorem run_of_built {p : Program} {built : BuiltProgram} (h : p.built = some built)
    (stage : Stage) :
    p.run stage = (.ok (), { p with buffer := (built.of stage).run p.sampler p.buffer }) := by
  rw [run, h]

theorem run_of_not_built {p : Program} (h : p.built = none) (stage : Stage) :
    p.run stage = (.error .notBuilt, p) := by
  rw [run, h]

/-- Whether a program has the same lines for the same memory as another one, built or not built. -/
structure SameCode (p q : Program) : Prop where
  options_eq : q.options = p.options
  lines_eq : ∀ stage, q.lines stage = p.lines stage
  built_eq : q.built = p.built

/-- What a request can do to built code: an accepted object discards it, a successful build makes
it, and everything else leaves it alone. -/
theorem perform_cases (p : Program) (r : Request) :
    (∃ object stage, (r, (p.perform r).1) = (.add object stage, .done) ∧
      (p.perform r).2.options = p.options ∧ (p.perform r).2.built = none) ∨
    (∃ built, (r, (p.perform r).1) = (.build, .done) ∧ p.compile = .ok built ∧
      (p.perform r).2 = { p with built := some built }) ∨
    (∀ object stage, (r, (p.perform r).1) ≠ (.add object stage, .done)) ∧
      (r, (p.perform r).1) ≠ (.build, .done) ∧ p.SameCode (p.perform r).2 := by
  cases r with
  | withTypeSizes sizes => exact .inr (.inr ⟨nofun, nofun, rfl, fun _ => rfl, rfl⟩)
  | add object stage =>
    rcases p.add_cases object stage with ⟨_, _, q, _, _, ha, hs, _, _, hb, _⟩ | ⟨e, _, ha⟩
    · refine .inl ⟨object, stage, ?_⟩
      rw [perform, ha]
      exact ⟨rfl, hs.options_eq, hb⟩
    · refine .inr (.inr ?_)
      rw [perform, ha]
      exact ⟨nofun, nofun, rfl, fun s => by cases s <;> rfl, rfl⟩
  | build =>
    rcases p.build_cases with ⟨built, hc, hb⟩ | ⟨e, hc, hb⟩
    · refine .inr (.inl ⟨built, ?_⟩)
      rw [perform, hb]
      exact ⟨rfl, hc, rfl⟩
    · refine .inr (.inr ?_)
      rw [perform, hb]
      exact ⟨nofun, nofun, rfl, fun _ => rfl, rfl⟩
  | run stage =>
    refine .inr (.inr ⟨nofun, nofun, ?_⟩)
    cases hb : p.built with
    | none =>
      rw [perform, run_of_not_built hb]
      exact ⟨rfl, fun _ => rfl, rfl⟩
    | some built =>
      rw [perform, run_of_built hb]
      exact ⟨rfl, fun s => by cases s <;> rfl, rfl⟩
  | setData q name data =>
    refine .inr (.inr ⟨nofun, nofun, ?_⟩)
    rw [perform, setData]
    cases p.interface.get? q name with
    | none => exact ⟨rfl, fun _ => rfl, rfl⟩
    | some span => exact ⟨rfl, fun s => by cases s <;> rfl, rfl⟩
  | withSampler sampler => exact .inr (.inr ⟨nofun, nofun, rfl, fun _ => rfl, rfl⟩)
  | clearError => exact .inr (.inr ⟨nofun, nofun, rfl, fun _ => rfl, rfl⟩)

theorem options_serve (p : Program) (requests : List Request) :
    (p.serve requests).options = p.options := by
  induction requests using List.reverseRecOn with
  | nil => rfl
  | append_singleton requests r ih =>
    rw [serve_concat, ← ih]
    rcases (p.serve requests).perform_cases r with ⟨_, _, _, ho, _⟩ | ⟨_, _, _, hq⟩ | ⟨_, _, hs⟩
    · exact ho
    · rw [hq]
    · exact hs.options_eq

/-- Whether built code, if there is any, is what the lines of the program give now. -/
def Current (p : Program) : Prop :=
  ∀ built, p.built = some built → ∀ stage, p.lower stage = .ok (built.of stage)

theorem SameCode.current {p q : Program} (h : p.SameCode q) (hp : p.Current) : q.Current := by
  intro built hb stage
  rw [lower, h.options_eq, h.lines_eq]
  rw [h.built_eq] at hb
  exact hp built hb stage

theorem Current.perform {p : Program} (h : p.Current) (r : Request) : (p.perform r).2.Current := by
  rcases p.perform_cases r with ⟨_, _, _, _, hn⟩ | ⟨built, _, hc, hq⟩ | ⟨_, _, hs⟩
  · intro built hb
    cases hn.symm.trans hb
  · rw [hq]
    intro built' hb
    cases hb
    exact compile_eq_ok_iff.1 hc
  · exact hs.current h

theorem Current.serve {p : Program} (h : p.Current) (requests : List Request) :
    (p.serve requests).Current := by
  induction requests generalizing p with
  | nil => exact h
  | cons r requests ih => exact ih (h.perform r)

/-- A program is built when a build has succeeded and no object has been accepted since. -/
theorem isBuilt_serve_iff {p : Program} (h : p.built = none) (requests : List Request) :
    (p.serve requests).isBuilt = true ↔ BuiltSince (p.log requests) := by
  -- on the last request, since `BuiltSince` looks back from the end of the log
  induction requests using List.reverseRecOn with
  | nil =>
    have hp : (p.serve []).isBuilt = false := by
      rw [isBuilt, serve, List.foldl_nil, h]
      rfl
    rw [hp]
    exact iff_of_false Bool.false_ne_true not_builtSince_nil
  | append_singleton requests r ih =>
    rw [serve_concat, log_concat, builtSince_concat, ← ih]
    rcases (p.serve requests).perform_cases r with
      ⟨object, stage, hr, _, hn⟩ | ⟨built, hr, _, hq⟩ | ⟨hadd, hbuild, hs⟩
    · rw [isBuilt, hn, hr]
      refine iff_of_false Bool.false_ne_true fun h => ?_
      rcases h with h | ⟨_, h⟩
      · cases h
      · exact h object stage rfl
    · rw [hq, hr]
      exact iff_of_true rfl (.inl rfl)
    · rw [isBuilt, hs.built_eq]
      constructor
      · intro hb
        exact .inr ⟨hb, hadd⟩
      · intro hb
        rcases hb with hb | ⟨hb, _⟩
        · exact absurd hb hbuild
        · exact hb

theorem run_eq_notBuilt_iff (p : Program) (stage : Stage) :
    (p.run stage).1 = .error .notBuilt ↔ ¬ p.isBuilt = true := by
  cases hb : p.built with
  | none =>
    rw [run_of_not_built hb, isBuilt, hb]
    exact iff_of_true rfl Bool.false_ne_true
  | some built =>
    rw [run_of_built hb, isBuilt, hb]
    exact iff_of_false nofun fun h => h rfl

/-- A build can only fail where no code is built. -/
theorem Current.build_error {p q : Program} (h : p.Current) (hb : p.build = (.error e, q)) :
    q = p ∧ q.built = none := by
  rcases p.build_cases with ⟨built, _, hok⟩ | ⟨e', hc, herror⟩
  · cases hok.symm.trans hb
  · cases herror.symm.trans hb
    refine ⟨rfl, ?_⟩
    cases hbuilt : p.built with
    | none => rfl
    | some built =>
      have hcompile := compile_eq_ok_iff.2 (h built hbuilt)
      cases hcompile.symm.trans hc

theorem add_error {p q : Program} (h : p.add object stage = (.error e, q)) : p.SameCode q := by
  rcases p.add_cases object stage with ⟨_, _, q', _, _, ha, _⟩ | ⟨e', _, ha⟩
  · cases ha.symm.trans h
  · cases ha.symm.trans h
    exact ⟨rfl, fun s => by cases s <;> rfl, rfl⟩

/-- Built code is never out of date. So a stage runs just where a build has succeeded and no object
has been accepted since, a build fails only where nothing is built, and a refused object leaves
what is built as it is. -/
theorem built_code_current (options : Options) (requests : List Request) :
    let start : Program := { options }
    let p := start.serve requests
    let log := start.log requests
    (∀ built, p.built = some built →
      Code.ofLines options.capacities p.vertexLines = .ok built.vertex ∧
      Code.ofLines options.capacities p.fragmentLines = .ok built.fragment) ∧
    p.options = options ∧ p.buffer.cells.toArray.size = options.capacities.total ∧
    (∀ stage, ((p.run stage).1 = .error .notBuilt ↔ ¬ BuiltSince log) ∧
      (BuiltSince log → ∃ code, Code.ofLines options.capacities (p.lines stage) = .ok code ∧
        p.run stage = (.ok (), { p with buffer := code.run p.sampler p.buffer }))) ∧
    (∀ e q, p.build = (.error e, q) → q = p ∧ q.built = none) ∧
    ∀ object stage e q built, p.built = some built → p.add object stage = (.error e, q) →
      q.built = some built ∧ ∀ s, q.lines s = p.lines s ∧ (q.run s).1 = .ok () := by
  intro start p log
  have hstart : start.Current := by
    intro built hb
    cases hb
  have hcurrent : p.Current := hstart.serve requests
  have hoptions : p.options = options := start.options_serve requests
  have hbuilt : p.isBuilt = true ↔ BuiltSince log := isBuilt_serve_iff rfl requests
  have hlower : ∀ built, p.built = some built → ∀ stage,
      Code.ofLines options.capacities (p.lines stage) = .ok (built.of stage) := by
    intro built hb stage
    rw [← hoptions]
    exact hcurrent built hb stage
  refine ⟨fun built hb => ⟨hlower built hb .vertex, hlower built hb .fragment⟩, hoptions, ?_, ?_,
    fun e q hq => hcurrent.build_error hq, ?_⟩
  · rw [Vector.size_toArray, hoptions]
  · intro stage
    rw [run_eq_notBuilt_iff, hbuilt]
    refine ⟨Iff.rfl, fun hsince => ?_⟩
    obtain ⟨built, hb⟩ := Option.isSome_iff_exists.1 (hbuilt.2 hsince)
    exact ⟨built.of stage, hlower built hb stage, run_of_built hb stage⟩
  · intro object stage e q built hb ha
    have hsame := add_error ha
    have hq : q.built = some built := hsame.built_eq.trans hb
    refine ⟨hq, fun s => ⟨hsame.lines_eq s, ?_⟩⟩
    rw [run_of_built hq]

/-- A refused object leaves a built program as it is, and code that cannot be built leaves none. -/
theorem built_code_current_after_refusal :
    let placed : Declaration := ⟨"tint", "vec4", "uniform@8"⟩
    let lit : ShaderObject := ⟨{ uniforms := [placed] }, [.instruction ⟨"MOV",
      some (.register "temp" 0 none), some (.register "uniform" 2 none), none, none⟩]⟩
    let broken : ShaderObject := ⟨{ uniforms := [placed] },
      [.instruction ⟨"FOO", none, none, none, none⟩]⟩
    let unclosed : ShaderObject := ⟨{}, [.instruction ⟨"IF", none,
      some (.register "uniform" 0 none), none, none⟩]⟩
    let start : Program := { options := {} }
    let built := start.serve [.add lit .vertex, .build, .setData .uniform "tint" [0.5],
      .add broken .vertex, .run .vertex]
    let changed := start.serve [.add lit .vertex, .build, .add unclosed .fragment]
    (∃ code, built.built = some code ∧
      Code.ofLines {} built.vertexLines = .ok code.vertex ∧
      Code.ofLines {} built.fragmentLines = .ok code.fragment ∧
      (built.add broken .fragment).1 = .error (.unknownOpcode "FOO") ∧
      (built.add broken .fragment).2.built = some code) ∧
    changed.build.1 = .error (.unbalanced .ifWithoutEndIf) ∧ changed.build.2 = changed ∧
    changed.build.2.built = none := by
  intro placed lit broken unclosed start built changed
  have hisBuilt : built.isBuilt = true := by decide +kernel
  have hadd : (built.add broken .fragment).1 = .error (.unknownOpcode "FOO") := by decide +kernel
  have hbuild : changed.build.1 = .error (.unbalanced .ifWithoutEndIf) := by decide +kernel
  obtain ⟨code, hcode⟩ := Option.isSome_iff_exists.1 hisBuilt
  obtain ⟨hcurrent, _, _, _, _, hrefused⟩ := built_code_current {} [.add lit .vertex, .build,
    .setData .uniform "tint" [0.5], .add broken .vertex, .run .vertex]
  obtain ⟨_, _, _, _, hfailed, _⟩ := built_code_current {} [.add lit .vertex, .build,
    .add unclosed .fragment]
  obtain ⟨hvertex, hfragment⟩ := hcurrent code hcode
  obtain ⟨hkept, _⟩ := hrefused broken .fragment _ _ code hcode (Prod.ext hadd rfl)
  exact ⟨⟨code, hcode, hvertex, hfragment, hadd, hkept⟩, hbuild,
    hfailed _ _ (Prod.ext hbuild rfl)⟩

end Program

end Lanewise
