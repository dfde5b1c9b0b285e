import Lanewise.Proofs.Admission
import Mathlib.Data.List.Nodup

namespace Lanewise
set_option autoImplicit true

namespace Places

def names (places : Places) : List String := places.map Prod.fst

theorem lookup_cons (name : String) (span : Span) (places : Places) (other : String) :
    List.lookup other ((name, span) :: places) =
      if name = other then some span else places.lookup other := by
  by_cases hn : name = other
  · subst hn
    rw [List.lookup_cons_self, if_pos rfl]
  · have hb : (other == name) = false := beq_false_of_ne (Ne.symm hn)
    rw [List.lookup_cons, hb, if_neg hn]

theorem lookup_put (places : Places) (name : String) (span : Span) (other : String) :
    List.lookup other (places.put name span) =
      if name = other then some span else places.lookup other := by
  induction places with
  | nil => exact lookup_cons name span [] other
  | cons entry places ih =>
    obtain ⟨key, old⟩ := entry
    rw [put]
    by_cases hk : key = name
    · subst hk
      rw [if_pos rfl, lookup_cons, lookup_cons]
      split <;> rfl
    · rw [if_neg hk, lookup_cons, lookup_cons, ih]
      split
      · rename_i ho
        rw [if_neg (ho ▸ Ne.symm hk)]
      · rfl

theorem names_put (places : Places) (name : String) (span : Span) :
    names (places.put name span) =
      if name ∈ places.names then places.names else places.names ++ [name] := by
  induction places with
  | nil => rfl
  | cons entry places ih =>
    obtain ⟨key, old⟩ := entry
    rw [put]
    by_cases hk : key = name
    · subst hk
      simp [names]
    · rw [if_neg hk]
      simp only [names, List.map_cons, List.mem_cons, Ne.symm hk, false_or] at ih ⊢
      rw [ih]
      split <;> simp_all

/-- Whether every registered name has one place, in the order in which the names first came up. -/
structure Lists (places : Places) (registered : List String) : Prop where
  nodup : places.names.Nodup
  names_eq : places.names = registered.eraseDups

theorem Lists.put {places : Places} (h : places.Lists registered) (name : String) (span : Span) :
    Lists (places.put name span) (registered ++ [name]) := by
  have hmem : name ∈ places.names ↔ name ∈ registered := by
    rw [h.names_eq, List.mem_eraseDups]
  by_cases hm : name ∈ registered
  · have hn : names (places.put name span) = places.names := by
      rw [names_put, if_pos (hmem.2 hm)]
    refine ⟨hn ▸ h.nodup, ?_⟩
    rw [hn, h.names_eq, List.eraseDups_append]
    simp [List.removeAll, hm]
  · have hn : names (places.put name span) = places.names ++ [name] := by
      rw [names_put, if_neg (mt hmem.1 hm)]
    refine ⟨?_, ?_⟩
    · rw [hn, ← List.concat_eq_append]
      exact h.nodup.concat (mt hmem.1 hm)
    · rw [hn, h.names_eq, List.eraseDups_append]
      simp [List.removeAll, hm, List.eraseDups_cons]

end Places

namespace Declaration

/-- The place that a declaration asks for, if its label has an offset and its type has a size. -/
def span? (sizes : TypeSizes) (d : Declaration) : Option Span :=
  match d.offset, sizes d.type with
  | .ok start, some size => some ⟨start, size⟩
  | _, _ => none

/-- Why a declaration gets no place. Its label is looked at before its type. -/
inductive Refused (sizes : TypeSizes) (d : Declaration) : ObjectError → Prop
  | label : (∀ start, d.offset ≠ .ok start) → Refused sizes d (.malformedLocation d.name d.label)
  | type : d.offset = .ok start → sizes d.type = none →
      Refused sizes d (.unknownType d.name d.type)

theorem offset_eq_error {d : Declaration} (h : d.offset = .error e) :
    e = .malformedLocation d.name d.label := by
  dsimp only [offset] at h
  split at h
  · cases h
  · cases h
    rfl

theorem span?_eq_some_iff {d : Declaration} : d.span? sizes = some span ↔
    d.offset = .ok span.start ∧ sizes d.type = some span.size := by
  obtain ⟨start, size⟩ := span
  unfold span?
  split
  · rename_i ho hs
    simp [ho, hs]
  · rename_i hnone
    refine iff_of_false (fun h => nomatch h) fun ⟨ho, hs⟩ => ?_
    exact hnone start size ho hs

theorem exists_span?_iff {d : Declaration} : (∃ span, d.span? sizes = some span) ↔
    (∃ start, d.offset = .ok start) ∧ ∃ size, sizes d.type = some size := by
  simp only [span?_eq_some_iff]
  constructor
  · rintro ⟨span, ho, hs⟩
    exact ⟨⟨_, ho⟩, _, hs⟩
  · rintro ⟨⟨start, ho⟩, size, hs⟩
    exact ⟨⟨start, size⟩, ho, hs⟩

theorem bind_ok_iff {d : Declaration} : d.bind sizes q = .ok b ↔
    ∃ span, d.span? sizes = some span ∧ b = ⟨q, d.name, span⟩ := by
  constructor
  · intro h
    obtain ⟨start, ho, h⟩ := bind_eq_ok_iff.1 h
    split at h
    · rename_i size hs
      cases h
      exact ⟨⟨start, size⟩, span?_eq_some_iff.2 ⟨ho, hs⟩, rfl⟩
    · cases h
  · rintro ⟨span, hspan, rfl⟩
    obtain ⟨ho, hs⟩ := span?_eq_some_iff.1 hspan
    rw [Declaration.bind, ho, hs]
    rfl

theorem bind_error_iff {d : Declaration} : d.bind sizes q = .error e ↔ d.Refused sizes e := by
  constructor
  · intro h
    rcases bind_eq_error_iff.1 h with ho | ⟨start, ho, h⟩
    · rw [offset_eq_error ho]
      exact .label fun start hs => nomatch ho.symm.trans hs
    · split at h
      · cases h
      · rename_i hs
        cases h
        exact .type ho hs
  · intro h
    cases h with
    | label hl =>
      cases ho : d.offset with
      | ok start => exact absurd ho (hl start)
      | error e =>
        rw [Declaration.bind, ho, offset_eq_error ho]
        rfl
    | type ho hs =>
      rw [Declaration.bind, ho, hs]
      rfl

end Declaration

/-- Registers a declared variable that has a place. -/
def Places.declare (sizes : TypeSizes) (places : Places) (d : Declaration) : Places :=
  match d.span? sizes with
  | some span => places.put d.name span
  | none => places

namespace Places

theorem lookup_foldl_declare_of_ne {l : List Declaration} (h : ∀ d ∈ l, d.name ≠ name)
    (places : Places) :
    List.lookup name (l.foldl (declare sizes) places) = places.lookup name := by
  induction l generalizing places with
  | nil => rfl
  | cons d l ih =>
    rw [List.forall_mem_cons] at h
    rw [List.foldl_cons, ih h.2, declare]
    split
    · rw [lookup_put, if_neg h.1]
    · rfl

/-- The last declaration of a name counts. -/
theorem lookup_foldl_declare_last {before after : List Declaration}
    (hspan : d.span? sizes = some span) (h : ∀ x ∈ after, x.name ≠ d.name) (places : Places) :
    List.lookup d.name ((before ++ d :: after).foldl (declare sizes) places) = some span := by
  rw [List.foldl_append, List.foldl_cons, lookup_foldl_declare_of_ne h, declare, hspan]
  exact (lookup_put _ _ _ _).trans (if_pos rfl)

theorem Lists.foldl_declare {places : Places} {l : List Declaration} (h : places.Lists registered)
    (hl : ∀ d ∈ l, ∃ span, d.span? sizes = some span) :
    Lists (l.foldl (declare sizes) places) (registered ++ l.map Declaration.name) := by
  induction l generalizing places registered with
  | nil => simpa using h
  | cons d l ih =>
    rw [List.forall_mem_cons] at hl
    obtain ⟨span, hspan⟩ := hl.1
    have hput := ih (h.put d.name span) hl.2
    rw [List.append_assoc] at hput
    rw [List.foldl_cons, declare, hspan]
    exact hput

end Places

namespace Declarations

/-- The declarations of both lists under each qualifier. -/
def append (ds ds' : Declarations) : Declarations :=
  ⟨ds.uniforms ++ ds'.uniforms, ds.attributes ++ ds'.attributes, ds.varyings ++ ds'.varyings⟩

theorem of_append (ds ds' : Declarations) (q : Qualifier) :
    (ds.append ds').of q = ds.of q ++ ds'.of q := by
  cases q <;> rfl

theorem map_snd_toList (ds : Declarations) :
    ds.toList.map Prod.snd = ds.uniforms ++ ds.attributes ++ ds.varyings := by
  simp [toList, Qualifier.all, of, Function.comp_def]

theorem filter_toList (ds : Declarations) (q : Qualifier) :
    (ds.toList.filter (·.1 = q)).map Prod.snd = ds.of q := by
  cases q <;> simp [toList, Qualifier.all, of, List.filter_map, Function.comp_def]

theorem mem_toList {ds : Declarations} : (q, d) ∈ ds.toList ↔ d ∈ ds.of q := by
  cases q <;> simp [toList, Qualifier.all]

theorem exists_bindings_iff {ds : Declarations} : (∃ bindings, ds.bindings sizes = .ok bindings) ↔
    ∀ q, ∀ d ∈ ds.of q, ∃ span, d.span? sizes = some span := by
  rw [bindings, exists_mapM_eq_ok_iff]
  simp [Declaration.bind_ok_iff, mem_toList]

end Declarations

namespace Interface

theorem ext_of {i i' : Interface} (h : ∀ q, i.of q = i'.of q) : i = i' := by
  obtain ⟨u, a, v⟩ := i
  obtain ⟨u', a', v'⟩ := i'
  obtain rfl : u = u' := h .uniform
  obtain rfl : a = a' := h .attribute
  obtain rfl : v = v' := h .varying
  rfl

theorem of_insert (i : Interface) (q : Qualifier) (name : String) (span : Span) (q' : Qualifier) :
    (i.insert q name span).of q' = if q = q' then (i.of q').put name span else i.of q' := by
  cases q <;> cases q' <;> rfl

/-- Under each qualifier the variables are registered one after the other, whatever stands under the
others in between. -/
theorem of_insertAll {l : List (Qualifier × Declaration)}
    (h : List.Forall₂ (fun x b => x.2.bind sizes x.1 = .ok b) l bindings) (i : Interface)
    (q : Qualifier) : (i.insertAll bindings).of q =
      ((l.filter (·.1 = q)).map Prod.snd).foldl (Places.declare sizes) (i.of q) := by
  induction h generalizing i with
  | nil => rfl
  | @cons x b l bindings hb _ ih =>
    obtain ⟨span, hspan, rfl⟩ := Declaration.bind_ok_iff.1 hb
    change ((i.insert x.1 x.2.name span).insertAll bindings).of q = _
    rw [ih, of_insert]
    by_cases hq : x.1 = q
    · rw [if_pos hq, List.filter_cons_of_pos (by simpa using hq), List.map_cons, List.foldl_cons,
        Places.declare, hspan]
    · rw [if_neg hq, List.filter_cons_of_neg (by simpa using hq)]

/-- A merge registers all bindings, or none of them and changes nothing. -/
theorem merge_cases (i : Interface) (sizes : TypeSizes) (ds : Declarations) :
    (∃ bindings, ds.bindings sizes = .ok bindings ∧
      i.merge sizes ds = (.ok (), i.insertAll bindings)) ∨
    ∃ e, ds.bindings sizes = .error e ∧ i.merge sizes ds = (.error e, i) := by
  rw [merge]
  cases ds.bindings sizes with
  | ok bindings => exact .inl ⟨bindings, rfl, rfl⟩
  | error e => exact .inr ⟨e, rfl, rfl⟩

theorem bindings_of_merge {i merged : Interface} (h : i.merge sizes ds = (.ok (), merged)) :
    ∃ bindings, ds.bindings sizes = .ok bindings ∧ merged = i.insertAll bindings := by
  rcases i.merge_cases sizes ds with ⟨bindings, hb, hm⟩ | ⟨e, _, hm⟩
  · cases h.symm.trans hm
    exact ⟨bindings, hb, rfl⟩
  · cases h.symm.trans hm

theorem merge_fst_eq_error_iff {i : Interface} :
    (i.merge sizes ds).1 = .error e ↔ ds.bindings sizes = .error e := by
  rcases i.merge_cases sizes ds with ⟨_, hb, hm⟩ | ⟨_, hb, hm⟩ <;> simp [hb, hm]

theorem merge_snd_of_error {i : Interface} (h : (i.merge sizes ds).1 = .error e) :
    (i.merge sizes ds).2 = i := by
  rcases i.merge_cases sizes ds with ⟨_, _, hm⟩ | ⟨_, _, hm⟩
  · rw [hm] at h
    cases h
  · rw [hm]

theorem exists_merge_iff {i : Interface} : (∃ merged, i.merge sizes ds = (.ok (), merged)) ↔
    ∀ q, ∀ d ∈ ds.of q, ∃ span, d.span? sizes = some span := by
  rw [← Declarations.exists_bindings_iff]
  constructor
  · rintro ⟨merged, h⟩
    obtain ⟨bindings, hb, _⟩ := bindings_of_merge h
    exact ⟨bindings, hb⟩
  · rintro ⟨bindings, hb⟩
    exact ⟨i.insertAll bindings, by rw [merge, hb]⟩

theorem of_merge {i merged : Interface} (h : i.merge sizes ds = (.ok (), merged)) (q : Qualifier) :
    merged.of q = (ds.of q).foldl (Places.declare sizes) (i.of q) := by
  obtain ⟨bindings, hb, rfl⟩ := bindings_of_merge h
  rw [of_insertAll (mapM_eq_ok_iff.1 hb), Declarations.filter_toList]

theorem merge_eq_ok_iff {i merged : Interface} : i.merge sizes ds = (.ok (), merged) ↔
    (∀ q, ∀ d ∈ ds.of q, ∃ span, d.span? sizes = some span) ∧
      ∀ q, merged.of q = (ds.of q).foldl (Places.declare sizes) (i.of q) := by
  constructor
  · intro h
    exact ⟨exists_merge_iff.1 ⟨merged, h⟩, of_merge h⟩
  · rintro ⟨hp, hof⟩
    obtain ⟨merged', h⟩ := exists_merge_iff.2 hp
    rw [h, ext_of fun q => (of_merge h q).trans (hof q).symm]

/-- The declaration at fault is the first one in the order of the qualifiers. -/
theorem merge_eq_error_iff {i : Interface} : (i.merge sizes ds).1 = .error e ↔
    ∃ before d after, ds.uniforms ++ ds.attributes ++ ds.varyings = before ++ d :: after ∧
      (∀ x ∈ before, ∃ span, x.span? sizes = some span) ∧ d.Refused sizes e := by
  rw [merge_fst_eq_error_iff, ← ds.map_snd_toList]
  constructor
  · intro hb
    obtain ⟨before, x, after, hl, hbefore, hx⟩ := mapM_eq_error_iff.1 hb
    refine ⟨before.map Prod.snd, x.2, after.map Prod.snd, ?_, ?_, Declaration.bind_error_iff.1 hx⟩
    · rw [hl, List.map_append, List.map_cons]
    · intro d hd
      obtain ⟨y, hy, rfl⟩ := List.mem_map.1 hd
      obtain ⟨b, hb⟩ := hbefore y hy
      obtain ⟨span, hspan, _⟩ := Declaration.bind_ok_iff.1 hb
      exact ⟨span, hspan⟩
  · rintro ⟨before, d, after, hl, hbefore, hd⟩
    obtain ⟨first, rest, hl', rfl, hrest⟩ := List.map_eq_append_iff.1 hl
    obtain ⟨x, last, rfl, rfl, rfl⟩ := List.map_eq_cons_iff.1 hrest
    refine mapM_eq_error_iff.2 ⟨first, x, last, hl', ?_, ?_⟩
    · intro y hy
      obtain ⟨span, hspan⟩ := hbefore y.2 (List.mem_map_of_mem hy)
      exact ⟨_, Declaration.bind_ok_iff.2 ⟨span, hspan, rfl⟩⟩
    · exact Declaration.bind_error_iff.2 hd

/-- Merging lists of declarations one after the other is merging both at once. -/
theorem merge_append_iff {i merged : Interface} :
    i.merge sizes (ds.append ds') = (.ok (), merged) ↔
      ∃ between, i.merge sizes ds = (.ok (), between) ∧
        between.merge sizes ds' = (.ok (), merged) := by
  rw [merge_eq_ok_iff]
  simp only [Declarations.of_append, List.foldl_append, List.forall_mem_append]
  constructor
  · rintro ⟨hp, hof⟩
    obtain ⟨between, h⟩ := exists_merge_iff (i := i).2 fun q => (hp q).1
    refine ⟨between, h, merge_eq_ok_iff.2 ⟨fun q => (hp q).2, fun q => ?_⟩⟩
    rw [of_merge h, hof]
  · rintro ⟨between, h, h'⟩
    obtain ⟨hp, hof⟩ := merge_eq_ok_iff.1 h
    obtain ⟨hp', hof'⟩ := merge_eq_ok_iff.1 h'
    exact ⟨fun q => ⟨hp q, hp' q⟩, fun q => by rw [hof', hof]⟩

/-- The names ever registered in an interface, with their qualifiers, from the first on. -/
inductive History : Interface → List (Qualifier × String) → Prop
  | empty : History {} []
  | insert : History i log → History (i.insert q name span) (log ++ [(q, name)])
  | merge : History i log → i.merge sizes ds = (.ok (), merged) →
      History merged (log ++ ds.toList.map fun x => (x.1, x.2.name))

/-- The names of one qualifier in a history. -/
def registered (log : List (Qualifier × String)) (q : Qualifier) : List String :=
  (log.filter (·.1 = q)).map Prod.snd

theorem registered_append (log log' : List (Qualifier × String)) (q : Qualifier) :
    registered (log ++ log') q = registered log q ++ registered log' q := by
  rw [registered, List.filter_append, List.map_append]
  rfl

theorem registered_toList (ds : Declarations) (q : Qualifier) :
    registered (ds.toList.map fun x => (x.1, x.2.name)) q = (ds.of q).map Declaration.name := by
  rw [registered, List.filter_map, List.map_map, ← ds.filter_toList, List.map_map]
  rfl

theorem History.lists (h : History i log) (q : Qualifier) :
    (i.of q).Lists (registered log q) := by
  induction h with
  | empty => cases q <;> exact ⟨List.nodup_nil, rfl⟩
  | @insert i log q' name span _ ih =>
    rw [of_insert, registered_append]
    by_cases hq : q' = q
    · subst hq
      simpa [registered] using ih.put name span
    · simpa [registered, hq] using ih
  | merge _ hm ih =>
    obtain ⟨hp, hof⟩ := merge_eq_ok_iff.1 hm
    rw [hof, registered_append, registered_toList]
    exact ih.foldl_declare (hp q)

end Interface

/-- Declarations that cannot be merged leave a program as it is, but for its last error. -/
theorem Program.add_of_merge_error {p : Program} {i : Interface}
    (h : (i.merge p.typeSizes ds).1 = .error e) (code : List Entry) (stage : Stage) :
    p.add ⟨ds, code⟩ stage = (.error e, { p with lastError := some e }) := by
  have hb := Interface.merge_fst_eq_error_iff.1 h
  rcases p.add_cases ⟨ds, code⟩ stage with ⟨_, _, _, hok, _⟩ | ⟨e', hf, ha⟩
  · cases hb.symm.trans hok
  · rw [ha, hf.unique (.inl hb)]

/-- Declarations are merged as a whole or not at all. The first one that has no place refuses them,
and then the interface stays as it is. Otherwise the last declaration of a name under a qualifier gives its place, names that are not
declared under the qualifier keep theirs, and the names stand in the order in which they were first
registered. Merging in two steps is merging at once. -/
theorem Interface.merge_takes_last (i : Interface) (sizes : TypeSizes) (ds : Declarations) :
    ((∃ merged, i.merge sizes ds = (.ok (), merged)) ↔
      ∀ q, ∀ d ∈ ds.of q, (∃ start, d.offset = .ok start) ∧ ∃ size, sizes d.type = some size) ∧
    (∀ e, (i.merge sizes ds).1 = .error e ↔
      ∃ before d after, ds.uniforms ++ ds.attributes ++ ds.varyings = before ++ d :: after ∧
        (∀ x ∈ before, (∃ start, x.offset = .ok start) ∧ ∃ size, sizes x.type = some size) ∧
        d.Refused sizes e) ∧
    (∀ e, (i.merge sizes ds).1 = .error e → (i.merge sizes ds).2 = i ∧
      ∀ (p : Program) (code : List Entry) (stage : Stage), p.typeSizes = sizes →
        p.add ⟨ds, code⟩ stage = (.error e, { p with lastError := some e })) ∧
    (∀ merged, i.merge sizes ds = (.ok (), merged) →
      (∀ q before d after, ds.of q = before ++ d :: after → (∀ x ∈ after, x.name ≠ d.name) →
        ∃ start size, d.offset = .ok start ∧ sizes d.type = some size ∧
          merged.get? q d.name = some ⟨start, size⟩) ∧
      (∀ q name, (∀ d ∈ ds.of q, d.name ≠ name) → merged.get? q name = i.get? q name) ∧
      ∀ log, i.History log → ∀ q, (merged.of q).names.Nodup ∧
        (merged.of q).names = (registered log q ++ (ds.of q).map Declaration.name).eraseDups) ∧
    ∀ ds' merged, i.merge sizes (ds.append ds') = (.ok (), merged) ↔
      ∃ between, i.merge sizes ds = (.ok (), between) ∧
        between.merge sizes ds' = (.ok (), merged) := by
  refine ⟨?_, ?_, ?_, ?_, fun ds' merged => merge_append_iff⟩
  · simp only [exists_merge_iff, Declaration.exists_span?_iff]
  · simp only [merge_eq_error_iff, Declaration.exists_span?_iff, implies_true]
  · refine fun e he => ⟨merge_snd_of_error he, ?_⟩
    rintro p code stage rfl
    exact p.add_of_merge_error he code stage
  · intro merged hm
    refine ⟨?_, ?_, ?_⟩
    · intro q before d after hd hlast
      obtain ⟨span, hspan⟩ := (merge_eq_ok_iff.1 hm).1 q d (by simp [hd])
      obtain ⟨ho, hs⟩ := Declaration.span?_eq_some_iff.1 hspan
      refine ⟨_, _, ho, hs, ?_⟩
      rw [get?, of_merge hm, hd]
      exact Places.lookup_foldl_declare_last hspan hlast _
    · intro q name hn
      rw [get?, of_merge hm]
      exact Places.lookup_foldl_declare_of_ne hn _
    · intro log hlog q
      have hl := (hlog.merge hm).lists q
      rw [registered_append, registered_toList] at hl
      exact ⟨hl.nodup, hl.names_eq⟩

/-- A name that is declared twice under one qualifier and once under another, more declarations for
the same interface, and declarations with two faults. -/
theorem Interface.merge_takes_last_redeclared :
    let first : Declaration := ⟨"tint", "vec4", "uniform@8"⟩
    let fog : Declaration := ⟨"fog", "float", "uniform@0"⟩
    let last : Declaration := ⟨"tint", "vec2", "u@v@ +20"⟩
    let ds : Declarations :=
      { uniforms := [first, fog, last], attributes := [⟨"tint", "vec3", "attribute@4"⟩] }
    let more : Declarations :=
      { uniforms := [⟨"fog", "vec4", "uniform@30"⟩, ⟨"sun", "float", "uniform@40"⟩] }
    let faulty : Declarations :=
      { attributes := [⟨"tint", "Light", "attribute@0"⟩], varyings := [⟨"uv", "vec2", "varying"⟩] }
    let merged : Interface := ⟨[("tint", ⟨20, 2⟩), ("fog", ⟨0, 1⟩)], [("tint", ⟨4, 3⟩)], []⟩
    let all : Interface :=
      ⟨[("tint", ⟨20, 2⟩), ("fog", ⟨30, 4⟩), ("sun", ⟨40, 1⟩)], [("tint", ⟨4, 3⟩)], []⟩
    Interface.merge {} builtinSizes ds = (.ok (), merged) ∧
    merged.get? .uniform "tint" = some ⟨20, 2⟩ ∧
    merged.get? .varying "tint" = none ∧
    (merged.of .uniform).names = ["tint", "fog", "tint"].eraseDups ∧
    Interface.merge {} builtinSizes (ds.append more) = (.ok (), all) ∧
    merged.merge builtinSizes faulty = (.error (.unknownType "tint" "Light"), merged) := by
  intro first fog last ds more faulty merged all
  have hm : Interface.merge {} builtinSizes ds = (.ok (), merged) := by decide +kernel
  have hmore : merged.merge builtinSizes more = (.ok (), all) := by decide +kernel
  have hlabel : Declaration.offset ⟨"tint", "Light", "attribute@0"⟩ = .ok 0 := by decide +kernel
  obtain ⟨_, _, _, hok, happend⟩ := Interface.merge_takes_last {} builtinSizes ds
  obtain ⟨_, herror, hsame, _⟩ := Interface.merge_takes_last merged builtinSizes faulty
  obtain ⟨hlast, hother, hnames⟩ := hok merged hm
  refine ⟨hm, ?_, ?_, (hnames [] .empty .uniform).2, (happend more all).2 ⟨merged, hm, hmore⟩, ?_⟩
  · obtain ⟨start, size, ho, hs, hget⟩ :=
      hlast .uniform [first, fog] last [] rfl (List.forall_mem_nil _)
    have hstart : last.offset = .ok 20 := by decide +kernel
    cases hstart.symm.trans ho
    cases hs
    exact hget
  · exact hother .varying "tint" (List.forall_mem_nil _)
  · have he := (herror _).2 ⟨[], _, _, rfl, List.forall_mem_nil _, .type hlabel rfl⟩
    exact Prod.ext he (hsame _ he).1

end Lanewise
