import Lanewise.Object.Format
import Lanewise.Options
import Lanewise.Proofs.Parsing

namespace Lanewise
set_option autoImplicit true

namespace Json

/-- The fields of an object whose keys all have a text. -/
def named (fields : List (String × Json)) : List (Option String × Json) :=
  fields.map fun field => (some field.1, field.2)

theorem ofFields_eq (fields : List (String × Json)) : ofFields fields = .object (named fields) :=
  rfl

theorem record?_ofFields (names : List String) (fields : List (String × Json)) :
    (ofFields fields).record? names = names.mapM (once? (named fields)) := by
  have hk : (named fields).all (·.1.isSome) = true := by
    simp [named]
  rw [ofFields_eq, record?, if_pos hk]

theorem valuesOf_named_append (key : String) (fields fields' : List (String × Json)) :
    valuesOf key (named (fields ++ fields')) =
      valuesOf key (named fields) ++ valuesOf key (named fields') := by
  simp [valuesOf, named]

theorem once?_of_valuesOf {value : Option Json} (h : valuesOf key fields = value.toList) :
    once? fields key = some value := by
  rw [once?, h]
  cases value <;> rfl

theorem optional?_of_ne_null {decode : Json → Option α} (h : value ≠ .null) :
    optional? decode (some value) = (decode value).map some := by
  cases value with
  | null => exact absurd rfl h
  | bool | number | string | array | object => rfl

theorem mapM_map_of_forall {encode : α → Json} {decode : Json → Option α} {l : List α}
    (h : ∀ a ∈ l, decode (encode a) = some a) : (l.map encode).mapM decode = some l := by
  induction l with
  | nil => rfl
  | cons a l ih =>
    rw [List.forall_mem_cons] at h
    rw [List.map_cons, List.mapM_cons, h.1, ih h.2]
    rfl

theorem index?_ofIndex (h : n < indexLimit) : (ofIndex n).index? = some n := by
  simp [ofIndex, index?, all_isDigit_decimal, digitsValue_decimal, h]

theorem fieldsAreHoldable_named (levels : Nat) (fields : List (String × Json)) :
    fieldsAreHoldable levels (named fields) = fields.all fun field => field.2.isHoldable levels := by
  induction fields with
  | nil => rfl
  | cons field fields ih =>
    change (true && field.2.isHoldable levels && fieldsAreHoldable levels (named fields)) = _
    rw [ih, Bool.true_and, List.all_cons]

theorem isHoldable_ofFields (levels : Nat) (fields : List (String × Json)) :
    (ofFields fields).isHoldable (levels + 1) = fields.all fun field => field.2.isHoldable levels := by
  rw [ofFields_eq, isHoldable, fieldsAreHoldable_named, Nat.add_sub_cancel]
  simp

theorem isHoldable_ofIndex (h : n < indexLimit) : (ofIndex n).isHoldable levels = true := by
  rw [ofIndex, isHoldable, isFinite_decimal h]

theorem readable_ofIndex (n : Nat) : Readable (ofIndex n) := by
  refine .number ?_
  rw [toList_toString]
  exact isNumber_decimal n

theorem readable_ofFields (h : ∀ field ∈ fields, Readable field.2) : Readable (ofFields fields) := by
  rw [ofFields_eq]
  refine .object ?_ ?_
  · intro field hf
    obtain ⟨f, _, rfl⟩ := List.mem_map.1 hf
    rfl
  · intro field hf
    obtain ⟨f, hm, rfl⟩ := List.mem_map.1 hf
    exact h f hm

theorem readable_array_map {encode : α → Json} (h : ∀ a, Readable (encode a)) (l : List α) :
    Readable (.array (l.map encode)) := by
  refine .array fun item hi => ?_
  obtain ⟨a, _, rfl⟩ := List.mem_map.1 hi
  exact h a

end Json

open Json (named valuesOf once? ofFields_eq record?_ofFields)

/-- Whether the address of an operand is an index. -/
def Operand.InRange : Operand → Prop
  | .literal _ => True
  | .register _ address _ => address < indexLimit

namespace Operand

theorem isHoldable_toJson {o : Operand} (h : o.InRange) (levels : Nat) :
    o.toJson.isHoldable (levels + 1) = true := by
  cases o with
  | literal text => rfl
  | register name address swizzle =>
    have ha : (Json.ofIndex address).isHoldable levels = true := Json.isHoldable_ofIndex h
    cases swizzle <;> simp [toJson, Json.isHoldable_ofFields, ha, Json.ofText, Json.isHoldable]

theorem readable_toJson (o : Operand) : o.toJson.Readable := by
  cases o with
  | literal text => exact Json.readable_ofFields (by simp [Json.Readable.string, Json.ofText])
  | register name address swizzle =>
    have ha := Json.readable_ofIndex address
    cases swizzle <;>
      exact Json.readable_ofFields (by simp [Json.Readable.string, Json.ofText, ha])

/-- A literal is read back as a literal and a register as a register. -/
theorem ofJson?_toJson {o : Operand} (h : o.InRange) (ho : outer < nestingLimit) :
    ofJson? outer o.toJson = some o := by
  have hh := isHoldable_toJson h (nestingLimit - outer - 1)
  rw [Nat.sub_add_cancel (by omega)] at hh
  cases o with
  | literal text =>
    rw [toJson, ofFields_eq] at hh ⊢
    rw [ofJson?, if_pos hh]
    rfl
  | register name address swizzle =>
    have hi : (Json.ofIndex address).index? = some address := Json.index?_ofIndex h
    cases swizzle with
    | none =>
      rw [toJson, ofFields_eq] at hh ⊢
      rw [ofJson?, if_pos hh]
      simp [ofFields?, named, valuesOf, once?, Json.optional?, Json.ofText, Json.text?, hi]
    | some letters =>
      rw [toJson, ofFields_eq] at hh ⊢
      rw [ofJson?, if_pos hh]
      simp [ofFields?, named, valuesOf, once?, Json.optional?, Json.ofText, Json.text?, hi]

theorem optional?_toJson {o : Option Operand} (h : ∀ x ∈ o, x.InRange) (ho : outer < nestingLimit) :
    Json.optional? (ofJson? outer) (o.map toJson) = some o := by
  cases o with
  | none => rfl
  | some x =>
    have hn : x.toJson ≠ .null := by
      cases x <;> exact Json.noConfusion
    rw [Option.map_some, Json.optional?_of_ne_null hn, ofJson?_toJson (h x rfl) ho]
    rfl

end Operand

namespace Instruction

def InRange (i : Instruction) : Prop := ∀ o ∈ i.operands, o.InRange

/-- An operand with its key, if it is present. -/
def keyed (key : String) (operand : Option Operand) : List (String × Json) :=
  operand.toList.map fun operand => (key, operand.toJson)

def fields (i : Instruction) : List (String × Json) :=
  [("op", .ofText i.op)] ++ keyed "d" i.dest ++ keyed "s1" i.source1 ++ keyed "s2" i.source2 ++
    keyed "s3" i.source3

theorem toJson_eq (i : Instruction) : i.toJson = .ofFields i.fields :=
  rfl

theorem valuesOf_keyed (key key' : String) (operand : Option Operand) :
    valuesOf key (named (keyed key' operand)) =
      if key' = key then (operand.map Operand.toJson).toList else [] := by
  cases operand with
  | none => simp [keyed, named, valuesOf]
  | some o => by_cases hk : key' = key <;> simp [keyed, named, valuesOf, hk]

theorem valuesOf_fields (i : Instruction) (key : String) : valuesOf key (named i.fields) =
    (if "op" = key then [.ofText i.op] else []) ++
      (if "d" = key then (i.dest.map Operand.toJson).toList else []) ++
      (if "s1" = key then (i.source1.map Operand.toJson).toList else []) ++
      (if "s2" = key then (i.source2.map Operand.toJson).toList else []) ++
      (if "s3" = key then (i.source3.map Operand.toJson).toList else []) := by
  have hop : valuesOf key (named [("op", .ofText i.op)]) =
      if "op" = key then [.ofText i.op] else [] := by
    by_cases hk : "op" = key <;> simp [named, valuesOf, hk]
  simp only [fields, Json.valuesOf_named_append, valuesOf_keyed, hop]

theorem record?_toJson (i : Instruction) : i.toJson.record? ["op", "d", "s1", "s2", "s3"] =
    some [some (.ofText i.op), i.dest.map Operand.toJson, i.source1.map Operand.toJson,
      i.source2.map Operand.toJson, i.source3.map Operand.toJson] := by
  have hop : once? (named i.fields) "op" = some (some (.ofText i.op)) :=
    Json.once?_of_valuesOf (by simp [valuesOf_fields])
  have hd : once? (named i.fields) "d" = some (i.dest.map Operand.toJson) :=
    Json.once?_of_valuesOf (by simp [valuesOf_fields])
  have h1 : once? (named i.fields) "s1" = some (i.source1.map Operand.toJson) :=
    Json.once?_of_valuesOf (by simp [valuesOf_fields])
  have h2 : once? (named i.fields) "s2" = some (i.source2.map Operand.toJson) :=
    Json.once?_of_valuesOf (by simp [valuesOf_fields])
  have h3 : once? (named i.fields) "s3" = some (i.source3.map Operand.toJson) :=
    Json.once?_of_valuesOf (by simp [valuesOf_fields])
  rw [toJson_eq, record?_ofFields]
  simp only [List.mapM_cons, List.mapM_nil, hop, hd, h1, h2, h3]
  rfl

theorem mem_operands {i : Instruction} : o ∈ i.operands ↔
    o ∈ i.dest ∨ o ∈ i.source1 ∨ o ∈ i.source2 ∨ o ∈ i.source3 := by
  simp [operands, sources, eq_comm]

theorem ofJson?_toJson {i : Instruction} (h : i.InRange) (ho : outer + 1 < nestingLimit) :
    ofJson? outer i.toJson = some i := by
  have hread : ∀ o : Option Operand, (∀ x ∈ o, x ∈ i.operands) →
      Json.optional? (Operand.ofJson? (outer + 1)) (o.map Operand.toJson) = some o := by
    intro o hm
    exact Operand.optional?_toJson (fun x hx => h x (hm x hx)) ho
  have hd := hread i.dest fun x hx => mem_operands.2 (.inl hx)
  have h1 := hread i.source1 fun x hx => mem_operands.2 (.inr (.inl hx))
  have h2 := hread i.source2 fun x hx => mem_operands.2 (.inr (.inr (.inl hx)))
  have h3 := hread i.source3 fun x hx => mem_operands.2 (.inr (.inr (.inr hx)))
  rw [ofJson?, record?_toJson]
  simp only [Option.bind_eq_bind, Option.bind_some, hd, h1, h2, h3, Json.ofText, Json.text?]

theorem mem_keyed (h : field ∈ keyed key operand) : ∃ o ∈ operand, field.2 = o.toJson := by
  obtain ⟨o, ho, rfl⟩ := List.mem_map.1 h
  exact ⟨o, Option.mem_toList.1 ho, rfl⟩

theorem mem_fields {i : Instruction} (h : field ∈ i.fields) :
    field.2 = .ofText i.op ∨ ∃ o ∈ i.operands, field.2 = o.toJson := by
  simp only [fields, List.mem_append, List.mem_singleton] at h
  rcases h with (((rfl | h) | h) | h) | h
  · exact .inl rfl
  all_goals
    obtain ⟨o, ho, he⟩ := mem_keyed h
    exact .inr ⟨o, mem_operands.2 (by simp [ho]), he⟩

theorem isHoldable_toJson {i : Instruction} (h : i.InRange) (levels : Nat) :
    i.toJson.isHoldable (levels + 2) = true := by
  rw [toJson_eq, Json.isHoldable_ofFields, List.all_eq_true]
  intro field hf
  obtain he | ⟨o, ho, he⟩ := mem_fields hf
  · rw [he]
    rfl
  · rw [he]
    exact Operand.isHoldable_toJson (h o ho) levels

theorem readable_toJson (i : Instruction) : i.toJson.Readable := by
  rw [toJson_eq]
  apply Json.readable_ofFields
  intro field hf
  obtain he | ⟨o, _, he⟩ := mem_fields hf
  · rw [he]
    exact .string
  · rw [he]
    exact o.readable_toJson

end Instruction

namespace Entry

def InRange : Entry → Prop
  | .comment _ => True
  | .instruction i => i.InRange

theorem comment?_toJson (i : Instruction) : comment? i.toJson = none := by
  rw [Instruction.toJson_eq, ofFields_eq, comment?.eq_def]
  split
  · rename_i h
    have hkey : some (some "op") = some (some "comment") :=
      congrArg (fun l => l.head?.map Prod.fst) (Json.object.inj h)
    exact absurd hkey (by decide)
  · rename_i h
    cases h
  · rfl

/-- A comment is read back as a comment and an instruction as an instruction. -/
theorem ofJson?_toJson {e : Entry} (h : e.InRange) (ho : outer + 1 < nestingLimit) :
    ofJson? outer e.toJson = some e := by
  cases e with
  | comment text =>
    have hh : (Entry.comment text).toJson.isHoldable (nestingLimit - outer - 1 + 1) = true := rfl
    rw [Nat.sub_add_cancel (by omega)] at hh
    rw [ofJson?, if_pos hh]
    rfl
  | instruction i =>
    have hh := i.isHoldable_toJson h (nestingLimit - outer - 2)
    rw [Nat.sub_add_cancel (by omega)] at hh
    rw [toJson, ofJson?, if_pos hh, comment?_toJson, Instruction.ofJson?_toJson h ho]
    rfl

theorem readable_toJson (e : Entry) : e.toJson.Readable := by
  cases e with
  | comment text => exact Json.readable_ofFields (List.forall_mem_singleton.2 .string)
  | instruction i => exact i.readable_toJson

end Entry

namespace Declaration

theorem ofJson?_toJson (d : Declaration) : ofJson? d.toJson = some d := by
  rw [ofJson?, toJson, record?_ofFields]
  simp [named, valuesOf, once?, Json.ofText, Json.text?]

theorem readable_toJson (d : Declaration) : d.toJson.Readable :=
  Json.readable_ofFields (by simp [Json.ofText, Json.Readable.string])

end Declaration

namespace Declarations

theorem ofJson?_toJson (ds : Declarations) : ofJson? ds.toJson = some ds := by
  have hlist : ∀ l : List Declaration,
      (l.map Declaration.toJson).mapM Declaration.ofJson? = some l := fun l =>
    Json.mapM_map_of_forall fun d _ => d.ofJson?_toJson
  rw [ofJson?, toJson, record?_ofFields]
  simp [Qualifier.all, Qualifier.name, of, named, valuesOf, once?, Json.orElse?, Json.listOf?,
    Json.items?, hlist]

theorem readable_toJson (ds : Declarations) : ds.toJson.Readable := by
  apply Json.readable_ofFields
  intro field hf
  obtain ⟨q, _, rfl⟩ := List.mem_map.1 hf
  exact Json.readable_array_map Declaration.readable_toJson (ds.of q)

end Declarations

namespace ShaderObject

/-- Whether all addresses of an object are indices. -/
def InRange (object : ShaderObject) : Prop := ∀ e ∈ object.code, e.InRange

theorem ofJson?_toJson {object : ShaderObject} (h : object.InRange) :
    ofJson? object.toJson = some object := by
  have hcode : Entry.listOfJson? 1 (.array (object.code.map Entry.toJson)) = some object.code :=
    Json.mapM_map_of_forall fun e he => Entry.ofJson?_toJson (h e he) (by decide)
  have hds := object.declarations.ofJson?_toJson
  rw [ofJson?, toJson, record?_ofFields]
  simp [named, valuesOf, once?, Json.orElse?, hcode, hds]

theorem readable_toJson (object : ShaderObject) : object.toJson.Readable := by
  apply Json.readable_ofFields
  have hcode := Json.readable_array_map Entry.readable_toJson object.code
  simp [object.declarations.readable_toJson, hcode]

theorem parse?_render {object : ShaderObject} (h : object.InRange) :
    parse? object.render = some object := by
  rw [parse?, render, object.readable_toJson.parse_render]
  exact ofJson?_toJson h

end ShaderObject

namespace Capacities

def InRange (sizes : Capacities) : Prop := ∀ r, sizes.of r < indexLimit

theorem ofJson?_toJson {sizes : Capacities} (h : sizes.InRange) : ofJson? sizes.toJson = some sizes := by
  have hi : ∀ r, (Json.ofIndex (sizes.of r)).index? = some (sizes.of r) :=
    fun r => Json.index?_ofIndex (h r)
  rw [ofJson?, toJson, record?_ofFields]
  simp [Region.all, Region.name, named, valuesOf, once?, Json.orElse?, hi]
  rfl

theorem readable_toJson (sizes : Capacities) : sizes.toJson.Readable := by
  apply Json.readable_ofFields
  intro field hf
  obtain ⟨r, _, rfl⟩ := List.mem_map.1 hf
  exact Json.readable_ofIndex (sizes.of r)

end Capacities

namespace Options

theorem parse?_render {options : Options} (h : options.capacities.InRange) :
    parse? options.render = some options := by
  have hr : options.toJson.Readable := by
    apply Json.readable_ofFields
    simp [options.capacities.readable_toJson, Json.Readable.bool]
  have hc := Capacities.ofJson?_toJson h
  rw [parse?, render, hr.parse_render]
  change ofJson? options.toJson = _
  rw [ofJson?, toJson, record?_ofFields]
  simp [named, valuesOf, once?, Json.orElse?, Json.flag?, hc]

end Options

/-- Objects and options are read back from their texts. So are the parts of an object that are told
apart by their fields alone: comments from instructions, and literals from registers. -/
theorem texts_read_back :
    (∀ object : ShaderObject, object.InRange → ShaderObject.parse? object.render = some object) ∧
    (∀ options : Options, options.capacities.InRange →
      Options.parse? options.render = some options) ∧
    (∀ (outer : Nat) (e : Entry), outer + 1 < nestingLimit → e.InRange →
      Entry.ofJson? outer e.toJson = some e) ∧
    ∀ (outer : Nat) (o : Operand), outer < nestingLimit → o.InRange →
      Operand.ofJson? outer o.toJson = some o := by
  refine ⟨fun _ h => ShaderObject.parse?_render h, fun _ h => Options.parse?_render h, ?_, ?_⟩
  · intro outer e ho h
    exact Entry.ofJson?_toJson h ho
  · intro outer o ho h
    exact Operand.ofJson?_toJson h ho

/-- A comment that reads like an instruction, texts that need escapes, the largest address with an
empty swizzle, and an instruction that lacks its first source. -/
theorem texts_read_back_awkward :
    let object : ShaderObject :=
      ⟨{ uniforms := [⟨"\"tint\"", "vec4", "uniform@8"⟩], varyings := [⟨"\\\t𝄞", "", "\n"⟩] },
        [.comment "op\x01", .instruction ⟨"MOV",
          some (.register "comment" 18446744073709551615 (some "")), none, some (.literal "name"),
          some (.register "raw" 0 none)⟩]⟩
    let options : Options := ⟨{ uniforms := 0, scratch := 18446744073709551615 }, false⟩
    object.InRange ∧ ShaderObject.parse? object.render = some object ∧
    options.capacities.InRange ∧ Options.parse? options.render = some options := by
  intro object options
  have hobject : object.InRange := by
    intro e he
    rcases List.mem_cons.1 he with rfl | he
    · trivial
    · cases List.mem_singleton.1 he
      intro o ho
      rcases List.mem_cons.1 ho with rfl | ho
      · exact (by decide : 18446744073709551615 < indexLimit)
      · rcases List.mem_cons.1 ho with rfl | ho
        · trivial
        · cases List.mem_singleton.1 ho
          exact (by decide : 0 < indexLimit)
  have hoptions : options.capacities.InRange := by
    intro r
    cases r <;> decide
  obtain ⟨hread, hreadOptions, _⟩ := texts_read_back
  exact ⟨hobject, hread object hobject, hoptions, hreadOptions options hoptions⟩

end Lanewise
