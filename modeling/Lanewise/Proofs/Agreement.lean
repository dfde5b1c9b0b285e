import Lanewise.Proofs.Execution
import Lanewise.Proofs.Resolution
import Lanewise.Proofs.Snapshot

namespace Lanewise
set_option autoImplicit true

namespace Buffer

/-- The buffer as a memory of the elements of arrays. -/
def memory (b : Buffer sizes) : Memory := fun e =>
  if hasArraySuffix e.array then b.element e else 0.0

/-- Whether a memory has what a buffer has in the elements of its arrays. -/
def Mirrors (b : Buffer sizes) (m : Memory) : Prop :=
  ∀ e : Element, e.Proper sizes → b.element e = m e

theorem mirrors_memory (b : Buffer sizes) : b.Mirrors b.memory := by
  intro e he
  rw [memory, if_pos he.hasSuffix]

theorem Mirrors.assign {b : Buffer sizes} (hfits : sizes.Fits) (h : b.Mirrors m)
    (ht : Element.Proper sizes t) (v : Float32) : (b.assign t v).Mirrors (Function.update m t v) := by
  intro e he
  rw [b.element_assign hfits ht he, Function.update_apply, h e he]

theorem Mirrors.storeAll {b : Buffer sizes} {values : List (Element × Float32)}
    (hfits : sizes.Fits) (h : b.Mirrors m) (hv : ∀ p ∈ values, Element.Proper sizes p.1) :
    (values.foldl (fun b p => b.assign p.1 p.2) b).Mirrors (storeAll m values) := by
  induction values generalizing b m with
  | nil => exact h
  | cons p values ih =>
    rw [List.forall_mem_cons] at hv
    exact ih (h.assign hfits hv.1 p.2) hv.2

theorem Mirrors.value {b : Buffer sizes} (h : b.Mirrors m) {a : Atom}
    (ha : ∀ e, a = .element e → e.Proper sizes) : a.value b = a.read literalValue m := by
  cases a with
  | element e => exact h e (ha e rfl)
  | literal | const => rw [Atom.value, Atom.read]

end Buffer

/-- What an assignment does to a buffer. -/
def Statement.apply (sampler : Sampler) (b : Buffer sizes) : Statement → Buffer sizes
  | .assign target value => b.assign target (value.eval sampler (Atom.value b))
  | _ => b

/-- Whether a statement assigns within arrays. -/
def Statement.Tidy (sizes : Capacities) (s : Statement) : Prop :=
  (∃ target value, s = .assign target value) ∧ ∀ e, .element e ∈ s.atoms → e.Proper sizes

theorem Buffer.Mirrors.foldl {b : Buffer sizes} {block : List Statement} (sampler : Sampler)
    (hfits : sizes.Fits) (h : b.Mirrors m) (hs : ∀ s ∈ block, s.Tidy sizes) :
    (block.foldl (Statement.apply sampler) b).Mirrors
      (block.foldl (Statement.update sampler literalValue) m) := by
  induction block generalizing b m with
  | nil => exact h
  | cons s block ih =>
    rw [List.forall_mem_cons] at hs
    apply ih ?_ hs.2
    obtain ⟨⟨target, value, rfl⟩, hp⟩ := hs.1
    have hvalue : value.eval sampler (Atom.value b) =
        value.eval sampler (Atom.read literalValue m) := by
      apply Expr.eval_congr
      intro a ha
      apply h.value
      intro e he
      exact hp e (List.mem_cons_of_mem _ (he ▸ ha))
    rw [Statement.apply, Statement.update, hvalue]
    exact h.assign hfits (hp target List.mem_cons_self) _

theorem Statement.map_action_eq {block : List Statement} (sampler : Sampler)
    (hs : ∀ s ∈ block, s.Tidy sizes) :
    block.map (Statement.action sampler) =
      (block.map fun s (b : Buffer sizes) => s.apply sampler b).map .step := by
  rw [List.map_map]
  apply List.map_congr_left
  intro s hm
  obtain ⟨⟨target, value, rfl⟩, _⟩ := hs s hm
  rfl

/-- Whether buffers have the same in every section but scratch. -/
def AgreeOffScratch (b b' : Buffer sizes) : Prop :=
  ∀ r : Region, r ≠ .scratch → b.region r = b'.region r

/-- Whether an element is one of an array other than scratch. -/
structure Element.Clean (e : Element) : Prop where
  hasSuffix : hasArraySuffix e.array
  offScratch : e.OffScratch

theorem Element.Clean.ofName?_ne {e : Element} (h : e.Clean) :
    Region.ofName? e.array ≠ some .scratch := by
  intro hr
  apply h.offScratch
  apply arrays_eq_of_storageName_eq h.hasSuffix (hasArraySuffix_arrayName _)
  exact (Region.name_eq_of_ofName? hr).symm.trans
    (Region.name_eq_of_ofName? (Region.ofName?_array .scratch))

theorem Buffer.read_memory (b : Buffer sizes) {a : Atom}
    (ha : ∀ e, a = .element e → hasArraySuffix e.array) :
    a.read literalValue b.memory = a.value b := by
  cases a with
  | element e => exact if_pos (ha e rfl)
  | literal | const => rw [Atom.value, Atom.read]

namespace AgreeOffScratch

variable {sizes : Capacities} {b b' : Buffer sizes}

theorem element_eq (h : AgreeOffScratch b b') (he : Region.ofName? e.array ≠ some .scratch) :
    b.element e = b'.element e := by
  rw [Buffer.element, Buffer.element]
  split
  · rename_i r hr
    have hne : r ≠ .scratch := by
      intro hs
      subst hs
      exact he hr
    rw [h r hne]
  · rfl

theorem memory_eq (h : AgreeOffScratch b b') {e : Element} (he : e.OffScratch) :
    b.memory e = b'.memory e := by
  rw [Buffer.memory, Buffer.memory]
  split
  · rename_i hs
    exact h.element_eq (Element.Clean.ofName?_ne ⟨hs, he⟩)
  · rfl

theorem value_eq (h : AgreeOffScratch b b') {a : Atom} (ha : ∀ e, a = .element e → e.Clean) :
    a.value b = a.value b' := by
  cases a with
  | element e => exact h.element_eq (ha e rfl).ofName?_ne
  | literal | const => rfl

theorem of_element (h : ∀ e : Element, e.Proper sizes → e.OffScratch → b.element e = b'.element e) :
    AgreeOffScratch b b' := by
  intro r hr
  apply List.ext_getElem?
  intro i
  rw [b.getElem?_region, b'.getElem?_region]
  split
  · rename_i hi
    have hp : Element.Proper sizes ⟨r.array, i⟩ :=
      ⟨⟨r, r.ofName?_array, hi⟩, hasArraySuffix_arrayName r.name⟩
    have ho : Element.OffScratch ⟨r.array, i⟩ := by
      intro ha
      have hs := congrArg Region.ofName? ha
      rw [Region.ofName?_array, Region.ofName?_array] at hs
      exact hr (Option.some.inj hs)
    have he := h _ hp ho
    simp only [Buffer.element, Region.ofName?_array, Buffer.getElem?_region, if_pos hi,
      Option.getD_some] at he
    rw [he]
  · rfl

end AgreeOffScratch

/-- Whether a write reads and writes arrays. -/
def Write.InArrays (w : Write) : Prop :=
  hasArraySuffix w.target.array ∧ ∀ e ∈ w.value.elements, hasArraySuffix e.array

/-- Whether a write reads and writes arrays other than scratch. -/
def Write.Clean (w : Write) : Prop := w.target.Clean ∧ ∀ e ∈ w.value.elements, e.Clean

theorem Write.Clean.inArrays {w : Write} (h : w.Clean) : w.InArrays :=
  ⟨h.1.hasSuffix, fun e he => (h.2 e he).hasSuffix⟩

theorem mem_copies (h : s ∈ copies saved k) :
    ∃ n, ∃ x ∈ saved, s = .assign (scratchElement n) (.leaf (.element x)) := by
  obtain ⟨p, hp, rfl⟩ := List.mem_map.1 h
  exact ⟨p.2, p.1, List.fst_mem_of_mem_zipIdx hp, rfl⟩

theorem redirect_eq_element (h : redirect saved a = .element e) :
    a = .element e ∨ ∃ n, e = scratchElement n := by
  cases a with
  | element x =>
    rw [redirect] at h
    split at h
    · rename_i n _
      cases h
      exact .inr ⟨n, rfl⟩
    · exact .inl h
  | literal | const => cases h

theorem hasArraySuffix_scratchElement (n : Nat) : hasArraySuffix (scratchElement n).array :=
  hasArraySuffix_arrayName _

theorem sequentialize_tidy (hw : ∀ w ∈ writes, Write.InArrays w)
    (hv : ∀ s ∈ sequentialize writes, ∀ a ∈ s.atoms, a.Valid sizes) :
    ∀ s ∈ sequentialize writes, s.Tidy sizes := by
  have hsuffix : ∀ s ∈ sequentialize writes, ∀ e, .element e ∈ s.atoms → hasArraySuffix e.array := by
    intro s hs
    rw [sequentialize_eq, List.mem_append] at hs
    rcases hs with hs | hs
    · obtain ⟨n, x, hx, rfl⟩ := mem_copies hs
      obtain ⟨⟨w, hm, rfl⟩, _⟩ := overlaps_subset (mem_hazards.1 hx)
      intro e he
      rcases List.mem_cons.1 he with he | he
      · cases he
        exact hasArraySuffix_scratchElement n
      · cases List.mem_singleton.1 he
        exact (hw w hm).1
    · obtain ⟨w, hm, rfl⟩ := List.mem_map.1 hs
      intro e he
      rcases List.mem_cons.1 he with he | he
      · cases he
        exact (hw w hm).1
      · rw [Expr.leaves_map] at he
        obtain ⟨a, ha, he⟩ := List.mem_map.1 he
        obtain rfl | ⟨n, rfl⟩ := redirect_eq_element he
        · exact (hw w hm).2 e (Expr.mem_elements.2 ha)
        · exact hasArraySuffix_scratchElement n
  intro s hs
  exact ⟨sequentialize_assigns hs, fun e hm => ⟨hv s hs _ hm, hsuffix s hs e hm⟩⟩

theorem target_proper (hw : ∀ w ∈ writes, Write.InArrays w)
    (hv : ∀ s ∈ sequentialize writes, ∀ a ∈ s.atoms, a.Valid sizes) (hm : w ∈ writes) :
    w.target.Proper sizes := by
  have hs : .assign w.target (w.value.map (redirect (hazards writes))) ∈ sequentialize writes := by
    rw [sequentialize_eq]
    exact List.mem_append_right _ (List.mem_map_of_mem hm)
  exact (sequentialize_tidy hw hv _ hs).2 w.target List.mem_cons_self

/-- Sequentialized writes do outside scratch what storing their values at once does. -/
theorem AgreeOffScratch.sequentialize {b b' : Buffer sizes} {writes : List Write}
    (hfits : sizes.Fits) (h : AgreeOffScratch b b') (sampler : Sampler)
    (hw : ∀ w ∈ writes, Write.Clean w)
    (hv : ∀ s ∈ sequentialize writes, ∀ a ∈ s.atoms, a.Valid sizes) :
    AgreeOffScratch
      ((writeValues sampler literalValue b.memory writes).foldl (fun b p => b.assign p.1 p.2) b)
      ((sequentialize writes).foldl (Statement.apply sampler) b') := by
  have harrays : ∀ w ∈ writes, w.InArrays := fun w hm => (hw w hm).inArrays
  have ht := sequentialize_tidy harrays hv
  have hproper : ∀ p ∈ writeValues sampler literalValue b.memory writes, p.1.Proper sizes := by
    intro p hp
    obtain ⟨w, hm, rfl⟩ := List.mem_map.1 hp
    exact target_proper harrays hv hm
  have hoff : ∀ w ∈ writes, w.OffScratch := by
    intro w hm
    exact ⟨(hw w hm).1.offScratch, fun e he => ((hw w hm).2 e he).offScratch⟩
  apply of_element
  intro e hp he
  rw [b.mirrors_memory.storeAll hfits hproper e hp,
    b'.mirrors_memory.foldl sampler hfits ht e hp]
  exact (update_sequentialize sampler literalValue hoff (fun x hx => (h.memory_eq hx).symm) e he).symm

end Lanewise
