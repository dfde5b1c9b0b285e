import Lanewise.Command.Perform
import Lanewise.Proofs.Building
import Lanewise.Proofs.Decoding
import Lanewise.Proofs.HostData
import Lanewise.Proofs.Labels

namespace Lanewise
set_option autoImplicit true

/-- Whether a text is a start and a size with a `:` between them. -/
def RangeText (s : String) (start size : Nat) : Prop :=
  ∃ before behind, s.toList = before ++ ':' :: behind ∧ ':' ∉ before ∧
    IndexText before start ∧ IndexText behind size

theorem saturatingAdd_lt (m n : Nat) : saturatingAdd m n < indexLimit := by
  have hpos : 0 < indexLimit := by decide
  rw [saturatingAdd]
  omega

theorem toString_inj {m n : Nat} : toString m = toString n ↔ m = n := by
  constructor
  · intro h
    rw [← digitsValue_decimal m, ← digitsValue_decimal n, ← toList_toString, ← toList_toString, h]
  · exact congrArg toString

theorem Json.lt_of_orElse?_index? {value : Option Json}
    (h : Json.orElse? absent Json.index? value = some n) (ha : absent < indexLimit) :
    n < indexLimit := by
  cases value with
  | none => exact Option.some.inj h ▸ ha
  | some value =>
    obtain ⟨_, _, _, _, hn⟩ := (Json.index?_eq_some_iff value n).1 h
    exact hn

theorem Capacities.inRange_default : ({} : Capacities).InRange := by
  intro r
  cases r <;> decide

/-- The sections of read settings are shorter than `2 ^ 64`. -/
theorem Capacities.inRange_of_ofJson? {sizes : Capacities} (h : ofJson? value = some sizes) :
    sizes.InRange := by
  have hdefault := inRange_default
  simp only [ofJson?, Option.bind_eq_bind, Option.bind_eq_some_iff] at h
  obtain ⟨fields, _, h⟩ := h
  split at h
  · simp only [Option.bind_eq_some_iff] at h
    obtain ⟨u, hu, a, ha, v, hv, r, hr, t, ht, s, hs, h⟩ := h
    cases h
    intro region
    cases region
    · exact Json.lt_of_orElse?_index? hu (hdefault .uniform)
    · exact Json.lt_of_orElse?_index? ha (hdefault .attribute)
    · exact Json.lt_of_orElse?_index? hv (hdefault .varying)
    · exact Json.lt_of_orElse?_index? hr (hdefault .result)
    · exact Json.lt_of_orElse?_index? ht (hdefault .temp)
    · exact Json.lt_of_orElse?_index? hs (hdefault .scratch)
  · cases h

theorem Options.inRange_of_parse? {options : Options} (h : parse? text = some options) :
    options.capacities.InRange := by
  simp only [parse?, ofJson?, Option.bind_eq_bind, Option.bind_eq_some_iff] at h
  obtain ⟨value, -, fields, -, h⟩ := h
  split at h
  · next capacities _ =>
    simp only [Option.bind_eq_some_iff] at h
    obtain ⟨sizes, hs, _, _, h⟩ := h
    cases h
    cases capacities with
    | none =>
      cases hs
      exact Capacities.inRange_default
    | some value => exact Capacities.inRange_of_ofJson? hs
  · cases h

namespace Command

theorem splitAt?_of_mem {mark : Char} {s : String} (hs : s.toList = before ++ mark :: behind)
    (hm : mark ∉ before) :
    splitAt? mark s = some (String.ofList before, String.ofList behind) := by
  have hbefore : ∀ c ∈ before, (c != mark) = true := by
    intro c hc
    exact bne_iff_ne.2 fun h => hm (h ▸ hc)
  have hc : (before ++ mark :: behind).contains mark = true := by simp
  simp only [splitAt?, hs, hc, if_true]
  rw [List.takeWhile_append_of_pos hbefore, List.dropWhile_append_of_pos hbefore]
  simp

theorem readBound_ofList {cs : List Char} :
    readBound (String.ofList cs) = .ok n ↔ IndexText cs n := by
  rw [← readIndexChars_trimBlank_eq_ok_iff]
  simp only [readBound, readIndex, Text.trim, String.toList_ofList]
  cases readIndexChars (Text.trimBlank cs) <;> simp

theorem readRange_of_split {s : String} (hs : s.toList = before ++ ':' :: behind)
    (hm : ':' ∉ before) : readRange s = .ok (start, size) ↔
      IndexText before start ∧ IndexText behind size := by
  rw [readRange, splitAt?_of_mem hs hm, ← readBound_ofList, ← readBound_ofList]
  simp [bind_eq_ok_iff, pure, Except.pure]

theorem readRange_eq_ok_iff {s : String} :
    readRange s = .ok (start, size) ↔ RangeText s start size := by
  constructor
  · intro h
    by_cases hm : ':' ∈ s.toList
    · obtain ⟨before, behind, hs, hbefore⟩ := List.eq_append_cons_of_mem hm
      exact ⟨before, behind, hs, hbefore, (readRange_of_split hs hbefore).1 h⟩
    · simp [readRange, splitAt?, hm] at h
  · rintro ⟨before, behind, hs, hm, hr⟩
    exact (readRange_of_split hs hm).2 hr

/-- Every two numbers below `2 ^ 64` make a range. -/
theorem rangeText_decimal (h : start < 2 ^ 64) (h' : size < 2 ^ 64) :
    RangeText (toString start ++ ":" ++ toString size) start size := by
  refine ⟨Nat.toDigits 10 start, Nat.toDigits 10 size, ?_, ?_, indexText_decimal h,
    indexText_decimal h'⟩
  · rw [String.toList_append, String.toList_append, toList_toString, toList_toString,
      List.append_assoc]
    rfl
  · intro hm
    cases isDigit_of_mem_decimal hm

/-- The message names the end of the range exactly if that is below `2 ^ 64`. -/
theorem rangeEvent_eq_iff (start size : Nat) :
    rangeEvent (start, size) = ⟨.info,
        "Reading result[" ++ toString start ++ ".." ++ toString (start + size) ++ "]"⟩ ↔
      start + size < 2 ^ 64 := by
  have hend : rangeEnd (start, size) = start + size ↔ start + size < 2 ^ 64 := by
    rw [rangeEnd, show indexLimit = 2 ^ 64 from rfl]
    omega
  rw [← hend, ← toString_inj, rangeEvent]
  simp [← String.toList_inj]

/-- The program when it has run both stages on some data. -/
def ranProgram (p : Program) (uniforms attributes : List (String × List Float32)) : Program :=
  (((setAll .attribute attributes (setAll .uniform uniforms p.build.2)).run .vertex).2.run
    .fragment).2

theorem setAll_keeps (q : Qualifier) (data : List (String × List Float32)) (p : Program) :
    (setAll q data p).built = p.built ∧ (setAll q data p).options = p.options := by
  rw [setAll]
  induction data generalizing p with
  | nil => exact ⟨rfl, rfl⟩
  | cons entry data ih =>
    have hset : (p.setData q entry.1 entry.2).built = p.built ∧
        (p.setData q entry.1 entry.2).options = p.options := by
      rw [Program.setData]
      split <;> exact ⟨rfl, rfl⟩
    obtain ⟨hb, ho⟩ := ih (p.setData q entry.1 entry.2)
    exact ⟨hb.trans hset.1, ho.trans hset.2⟩

theorem runProgram_of_build {p : Program} (h : p.build.1 = .ok ())
    (uniforms attributes : List (String × List Float32)) :
    (ranProgram p uniforms attributes).options = p.options ∧
    ∀ range, runProgram p uniforms attributes range =
      .ok ((ranProgram p uniforms attributes).read .result range.1 range.2) := by
  obtain ⟨built, _, hb⟩ | ⟨e, _, hb⟩ := p.build_cases
  · let q := setAll .attribute attributes (setAll .uniform uniforms { p with built := some built })
    obtain ⟨hu, ho⟩ := setAll_keeps .uniform uniforms { p with built := some built }
    obtain ⟨ha, ho'⟩ := setAll_keeps .attribute attributes
      (setAll .uniform uniforms { p with built := some built })
    have hq : q.built = some built := ha.trans hu
    let r : Program := { q with buffer := (built.of .vertex).run q.sampler q.buffer }
    have hr : r.built = some built := hq
    have hv : q.run .vertex = (.ok (), r) := Program.run_of_built hq .vertex
    have hran : ranProgram p uniforms attributes = ((q.run .vertex).2.run .fragment).2 := by
      rw [ranProgram, hb]
    rw [hran, hv, Program.run_of_built hr .fragment]
    refine ⟨ho'.trans ho, fun range => ?_⟩
    simp only [runProgram, hb]
    change (Except.bind (q.run .vertex).1 fun _ =>
      Except.bind ((q.run .vertex).2.run .fragment).1 fun _ =>
        .ok (((q.run .vertex).2.run .fragment).2.read .result range.1 range.2)) = _
    rw [hv, Program.run_of_built hr .fragment]
    rfl
  · rw [hb] at h
    cases h

/-- A host with some files that keeps what it is told. -/
def recording (files : String → Except FileFault String) : Host (StateM (List Event)) where
  read path := pure (files path)
  emit event := modify (· ++ [event])

section

variable {files : String → Except FileFault String}

theorem run_forM_emit (events log : List Event) :
    (events.forM (recording files).emit).run log = ((), log ++ events) := by
  induction events generalizing log with
  | nil =>
    rw [List.append_nil]
    rfl
  | cons event events ih =>
    change (events.forM (recording files).emit).run (log ++ [event]) = _
    rw [ih, List.append_assoc, List.singleton_append]

theorem run_emitAll_bind (events log : List Event)
    (next : Unit → ExceptT Failure (StateM (List Event)) α) :
    (emitAll (recording files) events >>= next).run.run log = (next ()).run.run (log ++ events) := by
  rw [emitAll, ExceptT.run_bind_lift, StateT.run_bind, run_forM_emit]
  rfl

theorem readFile_eq_pure (h : files path = .ok text) :
    readFile (recording files).read path = pure text := by
  rw [readFile]
  simp only [recording, h]
  rfl

/-- Whether a file holds the text of an object. -/
def Contains (files : String → Except FileFault String) (path : String) (object : ShaderObject) :
    Prop :=
  ∃ text, files path = .ok text ∧ ShaderObject.parse? text = some object

/-- Whether settings are those that a file holds, or the usual ones where no file is named. -/
def Configures (files : String → Except FileFault String) : Option String → Options → Prop
  | none, options => options = {}
  | some path, options => ∃ text, files path = .ok text ∧ Options.parse? text = some options

theorem Contains.loadObject_eq (h : Contains files path object) :
    loadObject (recording files).read path = pure object := by
  obtain ⟨text, hr, hp⟩ := h
  rw [loadObject, readFile_eq_pure hr, pure_bind, hp]

theorem Configures.loadOptions_eq (h : Configures files config options) :
    loadOptions (recording files).read config = pure options := by
  cases config with
  | none =>
    cases h
    rfl
  | some path =>
    obtain ⟨text, hr, hp⟩ := h
    rw [loadOptions, readFile_eq_pure hr, pure_bind, hp]

theorem Configures.inRange (h : Configures files config options) : options.capacities.InRange := by
  cases config with
  | none =>
    cases h
    exact Capacities.inRange_default
  | some path =>
    obtain ⟨text, _, hp⟩ := h
    exact Options.inRange_of_parse? hp

theorem run_addObject_bind {p q : Program} (h : p.add object stage = (.ok (), q)) (log : List Event)
    (next : Program → ExceptT Failure (StateM (List Event)) α) :
    (addObject (recording files) p object stage >>= next).run.run log =
      (next q).run.run (log ++ p.addEvents object stage) := by
  rw [addObject, bind_assoc, run_emitAll_bind, h, pure_bind]

/-- Whether two files and some settings make a program that builds. -/
def Builds (files : String → Except FileFault String) (vertex fragment : String)
    (config : Option String) (options : Options) (p : Program) : Prop :=
  ∃ v f q, Configures files config options ∧ Contains files vertex v ∧ Contains files fragment f ∧
    Program.add { options } v .vertex = (.ok (), q) ∧ q.add f .fragment = (.ok (), p) ∧
    p.build.1 = .ok ()

theorem exists_runEvents {p : Program} (h : p.build.1 = .ok ())
    (uniforms attributes : List (String × List Float32)) (range : Nat × Nat) :
    ∃ events, runEvents p uniforms attributes range = events ++ [rangeEvent range] := by
  rw [runEvents]
  obtain ⟨built, hc, _⟩ | ⟨e, _, hb⟩ := p.build_cases
  · rw [hc]
    exact ⟨_, rfl⟩
  · rw [hb] at h
    cases h

/-- A run tells about its range last, and then prints what it has read. -/
theorem Builds.perform_eq (h : Builds files vertex fragment config options p)
    (uniforms attributes : List (String × List Float32)) (range : Nat × Nat) :
    ∃ events, (perform (recording files)
        (.run vertex fragment uniforms attributes range config)).run.run [] =
      (.ok (valuesText ((ranProgram p uniforms attributes).read .result range.1 range.2) ++ "\n"),
        events ++ [rangeEvent range]) := by
  obtain ⟨v, f, q, ho, hv, hf, hadd, hadd', hb⟩ := h
  obtain ⟨events, he⟩ := exists_runEvents hb uniforms attributes range
  rw [perform, ho.loadOptions_eq, pure_bind, hv.loadObject_eq, pure_bind, run_addObject_bind hadd,
    hf.loadObject_eq, pure_bind, run_addObject_bind hadd', run_emitAll_bind, he, ← List.append_assoc,
    (runProgram_of_build hb uniforms attributes).2]
  exact ⟨_, rfl⟩

theorem Builds.options_ranProgram (h : Builds files vertex fragment config options p)
    (uniforms attributes : List (String × List Float32)) :
    (ranProgram p uniforms attributes).options = options := by
  obtain ⟨v, f, q, _, _, _, hadd, hadd', hb⟩ := h
  have hq := (Program.sameSetting_add { options } v .vertex).options_eq
  have hp := (q.sameSetting_add f .fragment).options_eq
  rw [hadd] at hq
  rw [hadd'] at hp
  exact (runProgram_of_build hb uniforms attributes).1.trans (hp.trans hq)

end

/-- The ranges that are accepted are those of a start and a size below `2 ^ 64`. The message names
the end of a range exactly if that is below `2 ^ 64` too. In any case the elements of the result that
are in the range are found without a larger number, and a program that builds in a layout that fits
gives the message and prints them. -/
theorem run_prints_range (files : String → Except FileFault String) (vertex fragment : String)
    (uniforms attributes : List (String × List Float32)) (config : Option String)
    (start size : Nat) :
    (∀ s, readRange s = .ok (start, size) ↔ RangeText s start size) ∧
    ((∃ s, RangeText s start size) ↔ start < 2 ^ 64 ∧ size < 2 ^ 64) ∧
    (rangeEvent (start, size) = ⟨.info,
        "Reading result[" ++ toString start ++ ".." ++ toString (start + size) ++ "]"⟩ ↔
      start + size < 2 ^ 64) ∧
    ∀ options p, Builds files vertex fragment config options p →
      let result := (ranProgram p uniforms attributes).buffer.region .result
      let capacity := options.capacities.results
      let bounds := Buffer.readBounds capacity start size
      let values := (result.zipIdx.filter fun x => start ≤ x.2 ∧ x.2 < start + size).map Prod.fst
      result.length = capacity ∧ capacity < 2 ^ 64 ∧ saturatingAdd bounds.1 size < 2 ^ 64 ∧
      bounds.1 ≤ bounds.2 ∧ bounds.2 ≤ capacity ∧
      (result.take bounds.2).drop bounds.1 = values ∧
      (options.capacities.Fits → options.capacities.holds .result ∧
        ∃ events, (perform (recording files)
            (.run vertex fragment uniforms attributes (start, size) config)).run.run [] =
          (.ok (valuesText values ++ "\n"), events ++ [rangeEvent (start, size)])) := by
  refine ⟨fun s => readRange_eq_ok_iff, ?_, rangeEvent_eq_iff start size, ?_⟩
  · constructor
    · rintro ⟨s, _, _, _, _, ⟨_, _, _, hstart⟩, _, _, _, hsize⟩
      exact ⟨hstart, hsize⟩
    · rintro ⟨hstart, hsize⟩
      exact ⟨_, rangeText_decimal hstart hsize⟩
  · intro options p h result capacity bounds values
    have hoptions := h.options_ranProgram uniforms attributes
    have hcapacity : capacity < indexLimit := by
      obtain ⟨_, _, _, ho, _⟩ := h
      exact ho.inRange .result
    have hresults : (ranProgram p uniforms attributes).options.capacities.of .result = capacity := by
      rw [hoptions]
      rfl
    have hslice := (ranProgram p uniforms attributes).buffer.slice_eq (hresults ▸ hcapacity) start size
    rw [hresults] at hslice
    obtain ⟨hle, hle'⟩ := Buffer.readBounds_le hcapacity start size
    refine ⟨(Buffer.length_region ..).trans hresults, hcapacity, saturatingAdd_lt .., hle, hle', hslice,
      fun hfits => ⟨hfits.holds .result, ?_⟩⟩
    have hvalues : (ranProgram p uniforms attributes).read .result start size = values :=
      Buffer.read_eq (hoptions ▸ hfits) ..
    obtain ⟨events, hperform⟩ := h.perform_eq uniforms attributes (start, size)
    rw [hvalues] at hperform
    exact ⟨events, hperform⟩

/-- A range that begins before the last two elements of the result and ends behind `2 ^ 64`. -/
theorem run_prints_range_over_end :
    let options : Options := { capacities := { results := 6 } }
    let vertex : ShaderObject := ⟨{}, []⟩
    let fragment : ShaderObject := ⟨{}, [.instruction ⟨"MOV",
      some (.register "result" 1 (some "xy")), some (.register "uniform" 0 none), none, none⟩]⟩
    let files : String → Except FileFault String := fun path =>
      .ok (if path = "v" then vertex.render else if path = "f" then fragment.render
        else options.render)
    RangeText "4:18446744073709551615" 4 18446744073709551615 ∧ options.capacities.Fits ∧
    ∃ p events, Builds files "v" "f" (some "o") options p ∧
      (perform (recording files) (.run "v" "f" [] [] (4, 18446744073709551615) (some "o"))).run.run [] =
        (.ok (valuesText (((ranProgram p [] []).buffer.region .result).drop 4) ++ "\n"),
          events ++ [rangeEvent (4, 18446744073709551615)]) := by
  intro options vertex fragment files
  have hfragment : fragment.InRange := by
    intro e he
    cases List.mem_singleton.1 he
    intro o ho
    rcases List.mem_cons.1 ho with rfl | ho
    · exact (by decide : 1 < indexLimit)
    · cases List.mem_singleton.1 ho
      exact (by decide : 0 < indexLimit)
  have hoptions : options.capacities.InRange := by
    intro r
    cases r <;> decide
  have hfits : options.capacities.Fits := by decide
  have hv : Contains files "v" vertex := ⟨_, rfl, ShaderObject.parse?_render fun _ h => nomatch h⟩
  have hf : Contains files "f" fragment := ⟨_, rfl, ShaderObject.parse?_render hfragment⟩
  have ho : Configures files (some "o") options := ⟨_, rfl, Options.parse?_render hoptions⟩
  have hb : Builds files "v" "f" (some "o") options _ :=
    ⟨vertex, fragment, _, ho, hv, hf, rfl, rfl, rfl⟩
  have hbounds : Buffer.readBounds options.capacities.results 4 18446744073709551615 = (4, 6) := by
    decide
  obtain ⟨haccept, _, _, hprint⟩ :=
    run_prints_range files "v" "f" [] [] (some "o") 4 18446744073709551615
  obtain ⟨hlength, _, _, _, _, hslice, hrun⟩ := hprint options _ hb
  obtain ⟨_, events, hperform⟩ := hrun hfits
  refine ⟨(haccept _).1 (by decide +kernel), hfits, _, events, hb, ?_⟩
  rw [hperform, ← hslice, hbounds, List.take_of_length_le (Nat.le_of_eq hlength)]

/-- The message about a range that is accepted can name an end that comes before its start. -/
theorem rangeEvent_wraps :
    readRange "18446744073709551615:1" = .ok (18446744073709551615, 1) ∧
    rangeEvent (18446744073709551615, 1) =
      ⟨.info, "Reading result[18446744073709551615..0]"⟩ ∧
    ¬ 18446744073709551615 + 1 < 2 ^ 64 := by
  refine ⟨?_, by decide +kernel, by decide⟩
  decide +kernel

end Command

end Lanewise
