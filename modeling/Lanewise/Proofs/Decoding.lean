import Lanewise.Proofs.RoundTrip
import Mathlib.Data.List.Forall2

namespace Lanewise
set_option autoImplicit true

namespace Json

/-- Whether the values of a key, which may be absent or null and must not be repeated, stand for
something. -/
inductive Optionally (P : Json → α → Prop) : List Json → Option α → Prop
  | absent : Optionally P [] none
  | null : Optionally P [.null] none
  | present : P value a → Optionally P [value] (some a)

def IsText (value : Json) (text : String) : Prop := value = .ofText text

/-- Whether a value is a number below `2 ^ 64`, written with digits alone. -/
def IsIndex (value : Json) (n : Nat) : Prop :=
  ∃ lexeme, value = .number lexeme ∧ lexeme.toList.all Char.isDigit ∧
    digitsValue lexeme.toList = n ∧ n < indexLimit

theorem text?_eq_some_iff (value : Json) (text : String) :
    text? value = some text ↔ value.IsText text := by
  cases value with
  | string t => simp [text?, IsText, ofText]
  | null | bool | number | array | object => simp [text?, IsText, ofText]

theorem index?_eq_some_iff (value : Json) (n : Nat) : index? value = some n ↔ value.IsIndex n := by
  cases value with
  | number lexeme =>
    simp only [index?, IsIndex, Json.number.injEq, exists_eq_left', Option.ite_none_right_eq_some,
      Bool.and_eq_true, decide_eq_true_eq, Option.some.injEq]
    constructor
    · rintro ⟨⟨hd, hn⟩, rfl⟩
      exact ⟨hd, rfl, hn⟩
    · rintro ⟨hd, rfl, hn⟩
      exact ⟨⟨hd, hn⟩, rfl⟩
  | null | bool | string | array | object => simp [index?, IsIndex]

theorem once?_eq_some_iff {value : Option Json} :
    once? fields key = some value ↔ valuesOf key fields = value.toList := by
  constructor
  · intro h
    rw [once?] at h
    split at h
    · next hv => rw [hv, ← Option.some.inj h]; rfl
    · next hv => rw [hv, ← Option.some.inj h]; rfl
    · cases h
  · exact once?_of_valuesOf

theorem once?_bind_eq_some_iff {P : Json → α → Prop} {decode : Json → Option α}
    (h : ∀ value a, decode value = some a ↔ P value a) :
    (once? fields key).bind (·.bind decode) = some a ↔
      ∃ value, valuesOf key fields = [value] ∧ P value a := by
  simp only [Option.bind_eq_some_iff, once?_eq_some_iff, h]
  constructor
  · rintro ⟨_, hv, value, rfl, hp⟩
    exact ⟨value, hv, hp⟩
  · rintro ⟨value, hv, hp⟩
    exact ⟨some value, hv, value, rfl, hp⟩

theorem optional?_eq_some_iff {P : Json → α → Prop} {decode : Json → Option α} {value : Option Json}
    (hn : decode .null = none) (h : ∀ x ∈ value, ∀ a, decode x = some a ↔ P x a) :
    optional? decode value = some a ↔ Optionally P value.toList a := by
  cases value with
  | none =>
    constructor
    · intro ha
      cases ha
      exact .absent
    · rintro ⟨⟩
      rfl
  | some x =>
    by_cases hx : x = .null
    · subst hx
      constructor
      · intro ha
        cases ha
        exact .null
      · intro ha
        cases ha with
        | null => rfl
        | present hp => rw [← h _ rfl, hn] at hp; cases hp
    · rw [optional?_of_ne_null hx, Option.map_eq_some_iff]
      constructor
      · rintro ⟨y, hy, rfl⟩
        exact .present ((h x rfl y).1 hy)
      · intro ha
        cases ha with
        | null => exact absurd rfl hx
        | present hp => exact ⟨_, (h x rfl _).2 hp, rfl⟩

theorem Optionally.exists_toList {P : Json → α → Prop} (h : Optionally P values a) :
    ∃ value : Option Json, values = value.toList := by
  cases h with
  | absent => exact ⟨none, rfl⟩
  | null => exact ⟨some .null, rfl⟩
  | @present value => exact ⟨some value, rfl⟩

theorem once?_bind_optional?_eq_some_iff {P : Json → α → Prop} {decode : Json → Option α}
    (hn : decode .null = none)
    (h : ∀ value ∈ valuesOf key fields, ∀ a, decode value = some a ↔ P value a) :
    (once? fields key).bind (optional? decode) = some a ↔ Optionally P (valuesOf key fields) a := by
  have hd : ∀ value : Option Json, valuesOf key fields = value.toList →
      (optional? decode value = some a ↔ Optionally P (valuesOf key fields) a) := by
    intro value hv
    rw [hv] at h ⊢
    exact optional?_eq_some_iff hn fun x hx => h x (Option.mem_toList.2 hx)
  simp only [Option.bind_eq_some_iff, once?_eq_some_iff]
  constructor
  · rintro ⟨value, hv, ha⟩
    exact (hd value hv).1 ha
  · intro ha
    obtain ⟨value, hv⟩ := ha.exists_toList
    exact ⟨value, hv, (hd value hv).2 ha⟩

theorem mem_valuesOf : value ∈ valuesOf key fields ↔ (some key, value) ∈ fields := by
  simp only [valuesOf, List.mem_filterMap, Option.ite_none_right_eq_some, Option.some.injEq]
  constructor
  · rintro ⟨⟨k, v⟩, hm, rfl, rfl⟩
    exact hm
  · intro hm
    exact ⟨_, hm, rfl, rfl⟩

theorem fieldsAreHoldable_iff : fieldsAreHoldable levels fields = true ↔
    ∀ field ∈ fields, field.1.isSome ∧ field.2.isHoldable levels := by
  induction fields with
  | nil => simp [fieldsAreHoldable]
  | cons field fields ih =>
    rw [fieldsAreHoldable, Bool.and_eq_true, Bool.and_eq_true, ih, List.forall_mem_cons]

theorem isHoldable_object_iff : (Json.object fields).isHoldable levels = true ↔
    0 < levels ∧ ∀ field ∈ fields, field.1.isSome ∧ field.2.isHoldable (levels - 1) := by
  rw [isHoldable, Bool.and_eq_true, decide_eq_true_eq, fieldsAreHoldable_iff]

theorem isHoldable_object_of_mem (hm : field ∈ fields)
    (h : field.2.isHoldable (levels - 1) = false) :
    (Json.object fields).isHoldable levels = false := by
  rw [← Bool.not_eq_true, isHoldable_object_iff]
  rintro ⟨_, hf⟩
  exact Bool.false_ne_true (h.symm.trans (hf field hm).2)

theorem isHoldable_object_perm (h : fields.Perm fields') (levels : Nat) :
    (Json.object fields).isHoldable levels = (Json.object fields').isHoldable levels := by
  rw [Bool.eq_iff_iff, isHoldable_object_iff, isHoldable_object_iff]
  simp only [h.mem_iff]

/-- A decoder that goes by what an object says once it can be held does not tell objects apart that
say the same. -/
theorem decode_congr {decode : Json → Option α} {Given : List (Option String × Json) → α → Prop}
    (hn : ∀ fields, (Json.object fields).isHoldable levels = false → decode (.object fields) = none)
    (hg : ∀ fields, (Json.object fields).isHoldable levels = true →
      ∀ a, decode (.object fields) = some a ↔ Given fields a)
    (hh : (Json.object fields).isHoldable levels = (Json.object fields').isHoldable levels)
    (h : ∀ a, Given fields a ↔ Given fields' a) :
    decode (.object fields) = decode (.object fields') := by
  cases ht : (Json.object fields).isHoldable levels with
  | false => rw [hn fields ht, hn fields' (hh.symm.trans ht)]
  | true =>
    apply Option.ext
    intro a
    rw [hg fields ht, hg fields' (hh.symm.trans ht), h]

/-- Whether objects have the same values of some keys, in some order. -/
def SameOn (keys : List String) (fields fields' : List (Option String × Json)) : Prop :=
  ∀ key ∈ keys, (valuesOf key fields).Perm (valuesOf key fields')

theorem SameOn.symm (h : SameOn keys fields fields') : SameOn keys fields' fields :=
  fun key hk => (h key hk).symm

theorem sameOn_of_perm (h : fields.Perm fields') : SameOn keys fields fields' :=
  fun _ _ => h.filterMap _

theorem SameOn.eq_singleton (h : SameOn keys fields fields') (hk : key ∈ keys)
    (hv : valuesOf key fields = [value]) : valuesOf key fields' = [value] := by
  have hp := h key hk
  rw [hv] at hp
  exact List.singleton_perm.1 hp |>.symm

theorem Optionally.perm {P : Json → α → Prop} (h : Optionally P values a)
    (hp : values.Perm values') : Optionally P values' a := by
  cases h with
  | absent => rw [hp.nil_eq.symm]; exact .absent
  | null => rw [← List.singleton_perm.1 hp]; exact .null
  | present hv => rw [← List.singleton_perm.1 hp]; exact .present hv

end Json

open Json (valuesOf once? Optionally IsText SameOn)

namespace Operand

/-- What an object says as an operand. A `raw` that is not one text is ignored. -/
inductive Given (fields : List (Option String × Json)) : Operand → Prop
  | literal : valuesOf "raw" fields = [.ofText text] → Given fields (.literal text)
  | register : (∀ text, valuesOf "raw" fields ≠ [.ofText text]) →
      valuesOf "name" fields = [.ofText name] →
      valuesOf "address" fields = [value] → value.IsIndex address →
      Optionally IsText (valuesOf "swizzle" fields) swizzle →
      Given fields (.register name address swizzle)

def GivenBy (value : Json) (o : Operand) : Prop :=
  ∃ fields, value = .object fields ∧ Given fields o

/-- The keys that an operand has. -/
def keys : List String := ["raw", "name", "address", "swizzle"]

/-- Whether values are the same as operands. -/
inductive Interchangeable : Json → Json → Prop
  | refl (value : Json) : Interchangeable value value
  | object : SameOn keys fields fields' → Interchangeable (.object fields) (.object fields')

theorem ofFields?_of_raw (h : valuesOf "raw" fields = [.ofText text]) :
    ofFields? fields = some (.literal text) := by
  rw [ofFields?, h]
  rfl

theorem ofFields?_of_not_raw (h : ∀ text, valuesOf "raw" fields ≠ [.ofText text]) :
    ofFields? fields = ((once? fields "name").bind (·.bind Json.text?)).bind fun name =>
      ((once? fields "address").bind (·.bind Json.index?)).bind fun address =>
        ((once? fields "swizzle").bind (Json.optional? Json.text?)).bind fun swizzle =>
          some (.register name address swizzle) := by
  rw [ofFields?]
  split
  · next text hr => exact absurd hr (h text)
  · simp only [Option.bind_eq_bind, Option.bind_assoc]

theorem ofFields?_eq_some_iff : ofFields? fields = some o ↔ Given fields o := by
  by_cases hr : ∃ text, valuesOf "raw" fields = [.ofText text]
  · obtain ⟨text, hr⟩ := hr
    rw [ofFields?_of_raw hr]
    constructor
    · intro h
      cases h
      exact .literal hr
    · intro h
      cases h with
      | literal h =>
        cases hr.symm.trans h
        rfl
      | register h => exact absurd hr (h text)
  · rw [not_exists] at hr
    simp only [ofFields?_of_not_raw hr, Option.bind_eq_some_iff, Option.some.injEq,
      Json.once?_bind_eq_some_iff Json.text?_eq_some_iff,
      Json.once?_bind_eq_some_iff Json.index?_eq_some_iff,
      Json.once?_bind_optional?_eq_some_iff rfl fun value _ => Json.text?_eq_some_iff value]
    constructor
    · rintro ⟨name, ⟨_, hname, rfl⟩, address, ⟨value, haddress, hi⟩, swizzle, hswizzle, rfl⟩
      exact .register hr hname haddress hi hswizzle
    · intro h
      cases h with
      | literal h => exact absurd h (hr _)
      | register _ hname haddress hi hswizzle =>
        exact ⟨_, ⟨_, hname, rfl⟩, _, ⟨_, haddress, hi⟩, _, hswizzle, rfl⟩

theorem ofJson?_of_not_isHoldable (outer : Nat) (fields : List (Option String × Json))
    (h : (Json.object fields).isHoldable (nestingLimit - outer) = false) :
    ofJson? outer (.object fields) = none := by
  rw [ofJson?, h]
  rfl

theorem ofJson?_object_iff (outer : Nat) (fields : List (Option String × Json))
    (h : (Json.object fields).isHoldable (nestingLimit - outer) = true) (o : Operand) :
    ofJson? outer (.object fields) = some o ↔ Given fields o := by
  rw [ofJson?, if_pos h, ofFields?_eq_some_iff]

theorem ofJson?_eq_some_iff (h : value.isHoldable (nestingLimit - outer) = true) (o : Operand) :
    ofJson? outer value = some o ↔ GivenBy value o := by
  cases value with
  | object fields => simp [ofJson?_object_iff outer fields h, GivenBy]
  | null | bool | number | string | array => simp [ofJson?, GivenBy]

theorem Given.of_sameOn (h : SameOn keys fields fields') (hg : Given fields o) :
    Given fields' o := by
  cases hg with
  | literal hr => exact .literal (h.eq_singleton (by simp [keys]) hr)
  | register hr hname haddress hi hswizzle =>
    refine .register ?_ (h.eq_singleton (by simp [keys]) hname)
      (h.eq_singleton (by simp [keys]) haddress) hi (hswizzle.perm (h "swizzle" (by simp [keys])))
    intro text hr'
    exact hr text (h.symm.eq_singleton (by simp [keys]) hr')

theorem ofJson?_congr (h : SameOn keys fields fields')
    (hh : (Json.object fields).isHoldable (nestingLimit - outer) =
      (Json.object fields').isHoldable (nestingLimit - outer)) :
    ofJson? outer (.object fields) = ofJson? outer (.object fields') :=
  Json.decode_congr (ofJson?_of_not_isHoldable outer) (ofJson?_object_iff outer) hh
    fun _ => ⟨.of_sameOn h, .of_sameOn h.symm⟩

theorem Interchangeable.symm (h : Interchangeable value value') : Interchangeable value' value := by
  cases h with
  | refl => exact .refl _
  | object h => exact .object h.symm

theorem Interchangeable.eq_of_ne_object (h : Interchangeable value value')
    (hv : ∀ fields, value ≠ .object fields) : value' = value := by
  cases h with
  | refl => rfl
  | object => exact absurd rfl (hv _)

theorem Interchangeable.givenBy (h : Interchangeable value value') (hg : GivenBy value o) :
    GivenBy value' o := by
  cases h with
  | refl => exact hg
  | object h =>
    obtain ⟨_, he, hg⟩ := hg
    cases he
    exact ⟨_, rfl, hg.of_sameOn h⟩

theorem Interchangeable.forall₂_singleton (h : List.Forall₂ Interchangeable [value] values)
    (hv : ∀ fields, value ≠ .object fields) : values = [value] := by
  cases h with
  | cons h hs =>
    cases hs
    rw [h.eq_of_ne_object hv]

/-- An operand that may be left out is the same if its values are. -/
theorem optionally_of_forall₂ (h : List.Forall₂ Interchangeable values values')
    (ho : Optionally GivenBy values o) : Optionally GivenBy values' o := by
  cases ho with
  | absent =>
    cases h
    exact .absent
  | null =>
    rw [Interchangeable.forall₂_singleton h nofun]
    exact .null
  | present hg =>
    cases h with
    | cons h hs =>
      cases hs
      exact .present (h.givenBy hg)

end Operand

/-- The keys that an instruction has. -/
def Instruction.keys : List String := ["op", "d", "s1", "s2", "s3"]

theorem Instruction.ofJson?_object_iff {fields : List (Option String × Json)}
    (h : fields.all (·.1.isSome) = true) : ofJson? outer (.object fields) = some i ↔
      (once? fields "op").bind (·.bind Json.text?) = some i.op ∧
      (once? fields "d").bind (Json.optional? (Operand.ofJson? (outer + 1))) = some i.dest ∧
      (once? fields "s1").bind (Json.optional? (Operand.ofJson? (outer + 1))) = some i.source1 ∧
      (once? fields "s2").bind (Json.optional? (Operand.ofJson? (outer + 1))) = some i.source2 ∧
      (once? fields "s3").bind (Json.optional? (Operand.ofJson? (outer + 1))) = some i.source3 := by
  rw [ofJson?, Json.record?, if_pos h]
  simp only [List.mapM_cons, List.mapM_nil, Option.bind_eq_bind, Option.pure_def,
    Option.bind_assoc, Option.bind_some, Option.bind_eq_some_iff, Option.some.injEq]
  constructor
  · rintro ⟨op, hop, d, hd, s1, h1, s2, h2, s3, h3, value, rfl, text, ht, dest, hdest, source1,
      hs1, source2, hs2, source3, hs3, rfl⟩
    exact ⟨⟨_, hop, value, rfl, ht⟩, ⟨d, hd, hdest⟩, ⟨s1, h1, hs1⟩, ⟨s2, h2, hs2⟩, ⟨s3, h3, hs3⟩⟩
  · rintro ⟨⟨_, hop, value, rfl, ht⟩, ⟨d, hd, hdest⟩, ⟨s1, h1, hs1⟩, ⟨s2, h2, hs2⟩, ⟨s3, h3, hs3⟩⟩
    exact ⟨_, hop, d, hd, s1, h1, s2, h2, s3, h3, value, rfl, _, ht, _, hdest, _, hs1, _, hs2, _,
      hs3, rfl⟩

namespace Entry

/-- What an object says as an entry of code. -/
inductive Given (fields : List (Option String × Json)) : Entry → Prop
  | comment : fields = [(some "comment", .ofText text)] → Given fields (.comment text)
  | instruction {i : Instruction} : valuesOf "op" fields = [.ofText i.op] →
      Optionally Operand.GivenBy (valuesOf "d" fields) i.dest →
      Optionally Operand.GivenBy (valuesOf "s1" fields) i.source1 →
      Optionally Operand.GivenBy (valuesOf "s2" fields) i.source2 →
      Optionally Operand.GivenBy (valuesOf "s3" fields) i.source3 →
      Given fields (.instruction i)

theorem comment?_object_eq_some_iff :
    comment? (.object fields) = some text ↔ fields = [(some "comment", .ofText text)] := by
  constructor
  · intro h
    rw [comment?.eq_def] at h
    split at h
    · next he =>
      cases he
      cases h
      rfl
    · next he => cases he
    · cases h
  · rintro rfl
    rfl

theorem instruction_ofJson?_iff
    (h : (Json.object fields).isHoldable (nestingLimit - outer) = true) {i : Instruction} :
    Instruction.ofJson? outer (.object fields) = some i ↔ Given fields (.instruction i) := by
  obtain ⟨_, hf⟩ := Json.isHoldable_object_iff.1 h
  have hk : fields.all (·.1.isSome) = true :=
    List.all_eq_true.2 fun field hm => (hf field hm).1
  have ho : ∀ key (o : Option Operand),
      (once? fields key).bind (Json.optional? (Operand.ofJson? (outer + 1))) = some o ↔
        Optionally Operand.GivenBy (valuesOf key fields) o := by
    intro key o
    refine Json.once?_bind_optional?_eq_some_iff rfl fun value hv => ?_
    exact Operand.ofJson?_eq_some_iff (hf _ (Json.mem_valuesOf.1 hv)).2
  rw [Instruction.ofJson?_object_iff hk, Json.once?_bind_eq_some_iff Json.text?_eq_some_iff,
    ho, ho, ho, ho]
  constructor
  · rintro ⟨⟨_, hop, rfl⟩, hd, h1, h2, h3⟩
    exact .instruction hop hd h1 h2 h3
  · intro hg
    cases hg with
    | instruction hop hd h1 h2 h3 => exact ⟨⟨_, hop, rfl⟩, hd, h1, h2, h3⟩

theorem ofJson?_of_not_isHoldable (outer : Nat) (fields : List (Option String × Json))
    (h : (Json.object fields).isHoldable (nestingLimit - outer) = false) :
    ofJson? outer (.object fields) = none := by
  rw [ofJson?, h]
  rfl

theorem ofJson?_object_iff (outer : Nat) (fields : List (Option String × Json))
    (h : (Json.object fields).isHoldable (nestingLimit - outer) = true) (e : Entry) :
    ofJson? outer (.object fields) = some e ↔ Given fields e := by
  rw [ofJson?, if_pos h]
  cases hc : comment? (.object fields) with
  | some text =>
    have hf := comment?_object_eq_some_iff.1 hc
    constructor
    · intro he
      cases he
      exact .comment hf
    · intro hg
      cases hg with
      | comment hf' =>
        cases hf.symm.trans hf'
        rfl
      | instruction hop =>
        -- A lone comment has no `op`.
        rw [hf] at hop
        cases hop
  | none =>
    rw [Option.map_eq_some_iff]
    constructor
    · rintro ⟨i, hi, rfl⟩
      exact (instruction_ofJson?_iff h).1 hi
    · intro hg
      cases e with
      | comment text =>
        cases hg with
        | comment hf => rw [comment?_object_eq_some_iff.2 hf] at hc; cases hc
      | instruction i => exact ⟨i, (instruction_ofJson?_iff h).2 hg, rfl⟩

/-- The same is said by objects that give the same operands, the same op and the same comment. -/
theorem Given.congr (hc : comment? (.object fields) = comment? (.object fields'))
    (hop : ∀ text, valuesOf "op" fields = [.ofText text] → valuesOf "op" fields' = [.ofText text])
    (ho : ∀ key ∈ Instruction.keys, ∀ o, Optionally Operand.GivenBy (valuesOf key fields) o →
      Optionally Operand.GivenBy (valuesOf key fields') o)
    (h : Given fields e) : Given fields' e := by
  cases h with
  | comment hf =>
    rw [comment?_object_eq_some_iff.2 hf] at hc
    exact .comment (comment?_object_eq_some_iff.1 hc.symm)
  | instruction h hd h1 h2 h3 =>
    exact .instruction (hop _ h) (ho "d" (by simp [Instruction.keys]) _ hd)
      (ho "s1" (by simp [Instruction.keys]) _ h1) (ho "s2" (by simp [Instruction.keys]) _ h2)
      (ho "s3" (by simp [Instruction.keys]) _ h3)

theorem comment?_object_perm (h : fields.Perm fields') :
    comment? (.object fields) = comment? (.object fields') := by
  apply Option.ext
  intro text
  rw [comment?_object_eq_some_iff, comment?_object_eq_some_iff]
  constructor
  · rintro rfl
    exact (List.singleton_perm.1 h).symm
  · rintro rfl
    exact List.perm_singleton.1 h

theorem Given.perm (hp : fields.Perm fields') (h : Given fields e) : Given fields' e := by
  have hs : SameOn Instruction.keys fields fields' := Json.sameOn_of_perm hp
  refine h.congr (comment?_object_perm hp) ?_ ?_
  · intro text hop
    exact hs.eq_singleton (by simp [Instruction.keys]) hop
  · intro key hk o ho
    exact ho.perm (hs key hk)

theorem Given.of_forall₂ (hc : comment? (.object fields) = comment? (.object fields'))
    (hf : ∀ key ∈ Instruction.keys,
      List.Forall₂ Operand.Interchangeable (valuesOf key fields) (valuesOf key fields'))
    (h : Given fields e) : Given fields' e := by
  refine h.congr hc ?_ ?_
  · intro text hop
    have hop' := hf "op" (by simp [Instruction.keys])
    rw [hop] at hop'
    exact Operand.Interchangeable.forall₂_singleton hop' nofun
  · intro key hk o ho
    exact Operand.optionally_of_forall₂ (hf key hk) ho

theorem ofJson?_congr
    (hh : (Json.object fields).isHoldable (nestingLimit - outer) =
      (Json.object fields').isHoldable (nestingLimit - outer))
    (h : ∀ e, Given fields e ↔ Given fields' e) :
    ofJson? outer (.object fields) = ofJson? outer (.object fields') :=
  Json.decode_congr (ofJson?_of_not_isHoldable outer) (ofJson?_object_iff outer) hh h

end Entry

/-- What can be held is decoded to what it says, as an entry and as an operand, and what cannot be
held to nothing. So neither the order of keys nor the values of other keys make a difference, as
long as they can be held. -/
theorem Entry.decodes_to_given (outer : Nat) (fields : List (Option String × Json)) :
    ((Json.object fields).isHoldable (nestingLimit - outer) = false →
      Entry.ofJson? outer (.object fields) = none ∧
      Operand.ofJson? outer (.object fields) = none) ∧
    ((Json.object fields).isHoldable (nestingLimit - outer) = true →
      (∀ e, Entry.ofJson? outer (.object fields) = some e ↔ Entry.Given fields e) ∧
      (∀ o, Operand.ofJson? outer (.object fields) = some o ↔ Operand.Given fields o)) ∧
    (∀ fields', fields.Perm fields' →
      Entry.ofJson? outer (.object fields) = Entry.ofJson? outer (.object fields') ∧
      Operand.ofJson? outer (.object fields) = Operand.ofJson? outer (.object fields')) ∧
    (∀ fields', (Json.object fields).isHoldable (nestingLimit - outer) =
        (Json.object fields').isHoldable (nestingLimit - outer) →
      (Entry.comment? (.object fields) = Entry.comment? (.object fields') →
        (∀ key ∈ Instruction.keys,
          List.Forall₂ Operand.Interchangeable (valuesOf key fields) (valuesOf key fields')) →
        Entry.ofJson? outer (.object fields) = Entry.ofJson? outer (.object fields')) ∧
      (SameOn Operand.keys fields fields' →
        Operand.ofJson? outer (.object fields) = Operand.ofJson? outer (.object fields'))) := by
  refine ⟨?_, ?_, ?_, ?_⟩
  · intro hn
    exact ⟨Entry.ofJson?_of_not_isHoldable outer fields hn,
      Operand.ofJson?_of_not_isHoldable outer fields hn⟩
  · intro hh
    exact ⟨Entry.ofJson?_object_iff outer fields hh, Operand.ofJson?_object_iff outer fields hh⟩
  · intro fields' hp
    have hh := Json.isHoldable_object_perm hp (nestingLimit - outer)
    exact ⟨Entry.ofJson?_congr hh fun e => ⟨.perm hp, .perm hp.symm⟩,
      Operand.ofJson?_congr (Json.sameOn_of_perm hp) hh⟩
  · intro fields' hh
    refine ⟨fun hc hf => ?_, fun hs => Operand.ofJson?_congr hs hh⟩
    have hf' : ∀ key ∈ Instruction.keys,
        List.Forall₂ Operand.Interchangeable (valuesOf key fields') (valuesOf key fields) :=
      fun key hk => (hf key hk).flip.imp fun _ _ h => Operand.Interchangeable.symm h
    exact Entry.ofJson?_congr hh fun e => ⟨.of_forall₂ hc hf, .of_forall₂ hc.symm hf'⟩

theorem Entry.decodes_to_given_reversed :
    let fields : List (Option String × Json) :=
      [(some "note", .number "0.5"), (some "op", .ofText "MOV"), (some "note", .null),
        (some "d", .object [(some "raw", .ofText "a"), (some "address", .number "7"),
          (some "raw", .ofText "b"), (some "name", .ofText "temp")]),
        (some "s1", .object [(some "name", .null), (some "raw", .ofText "1.0")]),
        (some "s3", .null)]
    let i : Instruction :=
      ⟨"MOV", some (.register "temp" 7 none), some (.literal "1.0"), none, none⟩
    Entry.ofJson? 2 (.object fields) = some (.instruction i) ∧
      Entry.ofJson? 2 (.object fields.reverse) = some (.instruction i) := by
  intro fields i
  have hd : Operand.Given [(some "raw", .ofText "a"), (some "address", .number "7"),
      (some "raw", .ofText "b"), (some "name", .ofText "temp")] (.register "temp" 7 none) :=
    .register (by simp [valuesOf]) rfl rfl ⟨"7", rfl, by decide +kernel⟩ .absent
  have hg : Entry.Given fields (.instruction i) :=
    .instruction rfl (.present ⟨_, rfl, hd⟩) (.present ⟨_, rfl, .literal rfl⟩) .absent .null
  obtain ⟨_, hdecode, horder, _⟩ := Entry.decodes_to_given 2 fields
  have he := ((hdecode (by decide +kernel)).1 _).2 hg
  exact ⟨he, (horder _ (List.reverse_perm _).symm).1.symm.trans he⟩

/-- A value that nests some levels deep. -/
def Json.nested : Nat → Json
  | 0 => .null
  | n + 1 => .array [nested n]

theorem Json.isHoldable_nested (n levels : Nat) :
    (nested n).isHoldable levels = decide (n ≤ levels) := by
  induction n generalizing levels with
  | zero => simp [nested, isHoldable]
  | succ n ih =>
    simp only [nested, isHoldable, areHoldable, ih, Bool.and_true, ← Bool.decide_and]
    exact decide_eq_decide.2 (by omega)

/-- The value of a key that says nothing can keep an entry and an operand from being decoded. -/
theorem Entry.given_not_decoded :
    let ret : Entry := .instruction ⟨"RET", none, none, none, none⟩
    let large : List (Option String × Json) :=
      [(some "op", .ofText "RET"), (some "note", .number "1e999")]
    let unpaired : List (Option String × Json) :=
      [(some "op", .ofText "RET"), (some "note", .string none)]
    let deep : List (Option String × Json) :=
      [(some "op", .ofText "RET"), (some "note", .nested 125)]
    let operand : List (Option String × Json) :=
      [(some "raw", .ofText "1.0"), (some "note", .number "1e999")]
    (Entry.Given large ret ∧ Entry.ofJson? 2 (.object large) = none) ∧
    (Entry.Given unpaired ret ∧ Entry.ofJson? 2 (.object unpaired) = none) ∧
    (Entry.Given deep ret ∧ Entry.ofJson? 2 (.object deep) = none) ∧
    Operand.Given operand (.literal "1.0") ∧ Operand.ofJson? 3 (.object operand) = none := by
  intro ret large unpaired deep operand
  have hnumber (levels : Nat) : (Json.number "1e999").isHoldable levels = false := by
    rw [Json.isHoldable]
    decide +kernel
  have hnested : (Json.nested 125).isHoldable (nestingLimit - 2 - 1) = false :=
    Json.isHoldable_nested _ _
  refine ⟨⟨.instruction rfl .absent .absent .absent .absent, ?_⟩,
    ⟨.instruction rfl .absent .absent .absent .absent, ?_⟩,
    ⟨.instruction rfl .absent .absent .absent .absent, ?_⟩, .literal rfl, ?_⟩
  · apply Entry.ofJson?_of_not_isHoldable
    exact Json.isHoldable_object_of_mem (List.mem_of_getElem? (i := 1) rfl) (hnumber _)
  · apply Entry.ofJson?_of_not_isHoldable
    exact Json.isHoldable_object_of_mem (List.mem_of_getElem? (i := 1) rfl) rfl
  · apply Entry.ofJson?_of_not_isHoldable
    exact Json.isHoldable_object_of_mem (List.mem_of_getElem? (i := 1) rfl) hnested
  · apply Operand.ofJson?_of_not_isHoldable
    exact Json.isHoldable_object_of_mem (List.mem_of_getElem? (i := 1) rfl) (hnumber _)

end Lanewise
