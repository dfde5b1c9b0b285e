import Lanewise.Hazard
import Mathlib.Logic.Function.Basic

namespace Lanewise
set_option autoImplicit true

namespace Expr

theorem eval_map (f : α → β) (e : Expr α) (sampler : Sampler) (v : β → Float32) :
    (e.map f).eval sampler v = e.eval sampler fun a => v (f a) := by
  induction e with
  | leaf a => rfl
  | unary fn x ih => simp only [map, eval, ih]
  | binary fn a b iha ihb => simp only [map, eval, iha, ihb]
  | select c n o ihc ihn iho => simp only [map, eval, ihc, ihn, iho]
  | sample u v lod n ihu ihv ihl => simp only [map, eval, ihu, ihv, ihl]

theorem leaves_map (f : α → β) (e : Expr α) : (e.map f).leaves = e.leaves.map f := by
  induction e with
  | leaf a => rfl
  | unary fn x ih => exact ih
  | binary fn a b iha ihb => simp only [map, leaves, iha, ihb, List.map_append]
  | select c n o ihc ihn iho => simp only [map, leaves, ihc, ihn, iho, List.map_append]
  | sample u v lod n ihu ihv ihl => simp only [map, leaves, ihu, ihv, ihl, List.map_append]

theorem eval_congr {v v' : α → Float32} (e : Expr α) (sampler : Sampler)
    (h : ∀ a ∈ e.leaves, v a = v' a) : e.eval sampler v = e.eval sampler v' := by
  induction e with
  | leaf a => exact h a (List.mem_singleton_self a)
  | unary fn x ih => rw [eval, eval, ih h]
  | binary fn a b iha ihb =>
    simp only [leaves, List.forall_mem_append] at h
    rw [eval, eval, iha h.1, ihb h.2]
  | select c n o ihc ihn iho =>
    simp only [leaves, List.forall_mem_append] at h
    rw [eval, eval, ihc h.1.1, ihn h.1.2, iho h.2]
  | sample u v lod n ihu ihv ihl =>
    simp only [leaves, List.forall_mem_append] at h
    rw [eval, eval, ihu h.1.1, ihv h.1.2, ihl h.2]

theorem mem_elements {e : Expr Atom} : x ∈ e.elements ↔ .element x ∈ e.leaves := by
  rw [elements, List.mem_filterMap]
  constructor
  · intro ⟨a, ha, hx⟩
    cases a with
    | element y =>
      cases hx
      exact ha
    | literal | const => cases hx
  · intro h
    exact ⟨_, h, rfl⟩

end Expr

/-- A memory in which every element has a value. -/
abbrev Memory := Element → Float32

/-- The value of an atom in a memory, given the values of literals. -/
def Atom.read (literal : String → Float32) (m : Memory) : Atom → Float32
  | .element e => m e
  | .literal text => literal text
  | .const value => value

/-- What an assignment does to a memory. -/
def Statement.update (sampler : Sampler) (literal : String → Float32) (m : Memory) :
    Statement → Memory
  | .assign target value => Function.update m target (value.eval sampler (Atom.read literal m))
  | _ => m

/-- The values that writes have in a memory. -/
def writeValues (sampler : Sampler) (literal : String → Float32) (m : Memory) (writes : List Write) :
    List (Element × Float32) :=
  writes.map fun w => (w.target, w.value.eval sampler (Atom.read literal m))

/-- Stores values one after the other. -/
def storeAll (m : Memory) (values : List (Element × Float32)) : Memory :=
  values.foldl (fun m v => Function.update m v.1 v.2) m

theorem storeAll_writeValues_cons (sampler : Sampler) (literal : String → Float32) (m stored : Memory)
    (w : Write) (writes : List Write) :
    storeAll stored (writeValues sampler literal m (w :: writes)) =
      storeAll (Function.update stored w.target (w.value.eval sampler (Atom.read literal m)))
        (writeValues sampler literal m writes) :=
  rfl

/-- Whether an element lies outside the array that copies are saved in. -/
def Element.OffScratch (e : Element) : Prop := e.array ≠ Region.scratch.array

/-- Whether a write leaves the array for copies alone. -/
def Write.OffScratch (w : Write) : Prop :=
  w.target.OffScratch ∧ ∀ e ∈ w.value.elements, e.OffScratch

instance (e : Element) : Decidable e.OffScratch :=
  inferInstanceAs (Decidable (e.array ≠ Region.scratch.array))

instance (w : Write) : Decidable w.OffScratch :=
  inferInstanceAs (Decidable (w.target.OffScratch ∧ ∀ e ∈ w.value.elements, e.OffScratch))

theorem Element.OffScratch.ne (h : e.OffScratch) (n : Nat) : e ≠ scratchElement n := by
  intro he
  subst he
  exact h rfl

theorem scratchElement_ne (h : n ≠ k) : scratchElement n ≠ scratchElement k := by
  intro he
  exact h (congrArg Element.index he)

/-- Assignments that copy elements to scratch, from an index on. -/
def copies (saved : List Element) (k : Nat) : List Statement :=
  (saved.zipIdx k).map fun s => .assign (scratchElement s.2) (.leaf (.element s.1))

theorem copies_cons (x : Element) (saved : List Element) (k : Nat) :
    copies (x :: saved) k = .assign (scratchElement k) (.leaf (.element x)) :: copies saved (k + 1) :=
  rfl

theorem sequentialize_eq (writes : List Write) : sequentialize writes =
    copies (hazards writes) 0 ++
      writes.map fun w => .assign w.target (w.value.map (redirect (hazards writes))) :=
  rfl

/-- Copying elements to scratch keeps what is none of the copies. -/
theorem update_copies_of_ne (sampler : Sampler) (literal : String → Float32) (saved : List Element)
    (m : Memory) (he : ∀ n < saved.length, e ≠ scratchElement (k + n)) :
    (copies saved k).foldl (Statement.update sampler literal) m e = m e := by
  induction saved generalizing k m with
  | nil => rfl
  | cons x saved ih =>
    have hk : e ≠ scratchElement k := he 0 (Nat.zero_lt_succ _)
    have hrest : ∀ n < saved.length, e ≠ scratchElement (k + 1 + n) := by
      intro n hn
      rw [Nat.add_assoc, Nat.add_comm 1 n]
      exact he (n + 1) (Nat.succ_lt_succ hn)
    rw [copies_cons, List.foldl_cons, ih _ hrest, Statement.update, Function.update_of_ne hk]

/-- A copy has the value that its element had before, if no earlier copy has overwritten that. -/
theorem update_copies_at (sampler : Sampler) (literal : String → Float32) {saved : List Element}
    (m : Memory) (hn : saved[n]? = some e) (he : ∀ j < n, e ≠ scratchElement (k + j)) :
    (copies saved k).foldl (Statement.update sampler literal) m (scratchElement (k + n)) = m e := by
  induction saved generalizing k m n with
  | nil => cases hn
  | cons x saved ih =>
    rw [copies_cons, List.foldl_cons]
    cases n with
    | zero =>
      cases hn
      have hlater : ∀ n < saved.length, scratchElement (k + 0) ≠ scratchElement (k + 1 + n) := by
        intro n _
        exact scratchElement_ne (by omega)
      rw [update_copies_of_ne sampler literal saved _ hlater, Nat.add_zero, Statement.update,
        Function.update_self]
      rfl
    | succ n =>
      rw [List.getElem?_cons_succ] at hn
      have hk : e ≠ scratchElement k := he 0 (Nat.zero_lt_succ n)
      have hrest : ∀ j < n, e ≠ scratchElement (k + 1 + j) := by
        intro j hj
        rw [Nat.add_assoc, Nat.add_comm 1 j]
        exact he (j + 1) (Nat.succ_lt_succ hj)
      rw [Nat.add_comm n 1, ← Nat.add_assoc, ih _ hn hrest, Statement.update,
        Function.update_of_ne hk]

theorem overlaps_subset (h : e ∈ overlaps writes) :
    (∃ w ∈ writes, w.target = e) ∧ ∃ w ∈ writes, e ∈ w.value.elements := by
  induction writes with
  | nil => cases h
  | cons w later ih =>
    have hlater : e ∈ overlaps later →
        (∃ v ∈ w :: later, v.target = e) ∧ ∃ v ∈ w :: later, e ∈ v.value.elements := by
      intro he
      obtain ⟨⟨v, hv, ht⟩, u, hu, hr⟩ := ih he
      exact ⟨⟨v, List.mem_cons_of_mem w hv, ht⟩, u, List.mem_cons_of_mem w hu, hr⟩
    rw [overlaps] at h
    split at h
    · rename_i ha
      rcases List.mem_cons.1 h with rfl | h
      · obtain ⟨v, hv, hr⟩ := List.any_eq_true.1 ha
        exact ⟨⟨w, List.mem_cons_self, rfl⟩, v, List.mem_cons_of_mem w hv, List.contains_iff_mem.1 hr⟩
      · exact hlater h
    · exact hlater h

theorem mem_overlaps_cons (h : e ∈ overlaps later) : e ∈ overlaps (w :: later) := by
  rw [overlaps]
  split
  · exact List.mem_cons_of_mem w.target h
  · exact h

theorem target_mem_overlaps (hv : v ∈ later) (h : w.target ∈ v.value.elements) :
    w.target ∈ overlaps (w :: later) := by
  have ha : later.any (fun v => v.value.elements.contains w.target) = true :=
    List.any_eq_true.2 ⟨v, hv, List.contains_iff_mem.2 h⟩
  rw [overlaps, if_pos ha]
  exact List.mem_cons_self

/-- What a write overwrites and a later one reads is an overlap. -/
theorem pairwise_overlaps (writes : List Write) :
    writes.Pairwise fun w v => w.target ∈ v.value.elements → w.target ∈ overlaps writes := by
  induction writes with
  | nil => exact .nil
  | cons w later ih =>
    refine .cons (fun v hv h => target_mem_overlaps hv h) ?_
    exact ih.imp fun h hv => mem_overlaps_cons (h hv)

theorem mem_hazards : e ∈ hazards writes ↔ e ∈ overlaps writes := by
  rw [hazards, List.mem_eraseDups]

theorem redirect_read {literal : String → Float32} {m m' : Memory} (a : Atom)
    (hcopy : ∀ n e, a = .element e → saved[n]? = some e → m' (scratchElement n) = m e)
    (hkeep : ∀ e, a = .element e → e ∉ saved → m' e = m e) :
    (redirect saved a).read literal m' = a.read literal m := by
  cases a with
  | element x =>
    rw [redirect]
    split
    · rename_i n hn
      have hx : saved[n]? = some x := by
        obtain ⟨hl, hx, _⟩ := List.findIdx?_eq_some_iff_getElem.1 hn
        rw [List.getElem?_eq_getElem hl, eq_of_beq hx]
      exact hcopy n x rfl hx
    · rename_i hn
      exact hkeep x rfl (List.idxOf?_eq_none_iff.1 hn)
  | literal | const => rfl

/-- Whether a write leaves the copies alone that another write reads, or stores in them only what
they hold. -/
def Write.KeepsCopies (saved : List Element) (w v : Write) : Prop :=
  ∀ n < saved.length, w.target = scratchElement n →
    ∀ x ∈ v.value.elements, saved[n]? = some x → w.value = .leaf (.element x)

instance (saved : List Element) : DecidableRel (Write.KeepsCopies saved) := fun w v =>
  inferInstanceAs (Decidable (∀ n < saved.length, w.target = scratchElement n →
    ∀ x ∈ v.value.elements, saved[n]? = some x → w.value = .leaf (.element x)))

/-- Writes in sequence leave an element with the value that it gets if all of them are computed at
first. What a write reads is either unchanged when its turn comes, or it has a copy and no earlier
write changes the copy. -/
theorem update_writes (sampler : Sampler) (literal : String → Float32) {writes : List Write}
    {m m' stored : Memory}
    (hcopy : ∀ w ∈ writes, ∀ n, ∀ x ∈ w.value.elements, saved[n]? = some x →
      m' (scratchElement n) = m x)
    (hkeep : ∀ w ∈ writes, ∀ x ∈ w.value.elements, x ∉ saved → m' x = m x)
    (hsaved : writes.Pairwise fun w v => w.target ∈ v.value.elements → w.target ∈ saved)
    (hclear : writes.Pairwise (Write.KeepsCopies saved))
    (hagree : (∀ w ∈ writes, w.target ≠ e) → m' e = stored e) :
    (writes.map fun w => Statement.assign w.target (w.value.map (redirect saved))).foldl
        (Statement.update sampler literal) m' e =
      storeAll stored (writeValues sampler literal m writes) e := by
  induction writes generalizing m' stored with
  | nil => exact hagree (List.forall_mem_nil _)
  | cons w writes ih =>
    rw [List.forall_mem_cons] at hcopy hkeep
    obtain ⟨hfirst, hsaved⟩ := List.pairwise_cons.1 hsaved
    obtain ⟨happart, hclear⟩ := List.pairwise_cons.1 hclear
    have hvalue : (w.value.map (redirect saved)).eval sampler (Atom.read literal m') =
        w.value.eval sampler (Atom.read literal m) := by
      rw [Expr.eval_map]
      apply Expr.eval_congr
      intro a ha
      apply redirect_read a
      · intro n x hx hn
        exact hcopy.1 n x (Expr.mem_elements.2 (hx ▸ ha)) hn
      · intro x hx
        exact hkeep.1 x (Expr.mem_elements.2 (hx ▸ ha))
    rw [List.map_cons, List.foldl_cons, Statement.update, hvalue, storeAll_writeValues_cons]
    apply ih
    · intro v hv n x hx hn
      by_cases ht : w.target = scratchElement n
      · have hplace : n < saved.length := (List.getElem?_eq_some_iff.1 hn).1
        rw [← ht, Function.update_self, happart v hv n hplace ht x hx hn]
        rfl
      · rw [Function.update_of_ne (Ne.symm ht)]
        exact hcopy.2 v hv n x hx hn
    · intro v hv x hx hns
      have hne : x ≠ w.target := by
        intro hxw
        subst hxw
        exact hns (hfirst v hv hx)
      rw [Function.update_of_ne hne]
      exact hkeep.2 v hv x hx hns
    · exact hsaved
    · exact hclear
    · intro hrest
      by_cases he : e = w.target
      · subst he
        rw [Function.update_self, Function.update_self]
      · rw [Function.update_of_ne he, Function.update_of_ne he]
        exact hagree (List.forall_mem_cons.2 ⟨Ne.symm he, hrest⟩)

/-- Whether the copies that writes need keep out of the way of what the writes themselves use of
scratch. -/
structure ClearOfCopies (writes : List Write) : Prop where
  /-- No element is saved only after another copy has overwritten it. -/
  saved_apart : ∀ n < (hazards writes).length, ∀ j < n,
    (hazards writes)[n]? ≠ some (scratchElement j)
  /-- What is read in place is none of the copies. -/
  read_apart : ∀ w ∈ writes, ∀ n < (hazards writes).length,
    scratchElement n ∈ w.value.elements → scratchElement n ∈ hazards writes
  /-- No write spoils a copy that a later one reads. -/
  written_apart : writes.Pairwise (Write.KeepsCopies (hazards writes))

instance (writes : List Write) : Decidable (ClearOfCopies writes) :=
  decidable_of_iff
    ((∀ n < (hazards writes).length, ∀ j < n, (hazards writes)[n]? ≠ some (scratchElement j)) ∧
      (∀ w ∈ writes, ∀ n < (hazards writes).length,
        scratchElement n ∈ w.value.elements → scratchElement n ∈ hazards writes) ∧
      writes.Pairwise (Write.KeepsCopies (hazards writes)))
    ⟨fun ⟨hs, hr, hw⟩ => ⟨hs, hr, hw⟩, fun h => ⟨h.saved_apart, h.read_apart, h.written_apart⟩⟩

/-- Sequentialized writes have the effect of writing all values at once, provided that copies and
writes keep apart: on every element that is written, and on every other one but the copies. -/
theorem ClearOfCopies.update_eq (hc : ClearOfCopies writes) (sampler : Sampler)
    (literal : String → Float32) {m m' : Memory}
    (hread : ∀ w ∈ writes, ∀ x ∈ w.value.elements, m' x = m x)
    (he : (∃ w ∈ writes, w.target = e) ∨
      m' e = m e ∧ ∀ n < (hazards writes).length, e ≠ scratchElement n) :
    (sequentialize writes).foldl (Statement.update sampler literal) m' e =
      storeAll m (writeValues sampler literal m writes) e := by
  have hplace : ∀ n x, (hazards writes)[n]? = some x → n < (hazards writes).length :=
    fun n x hn => (List.getElem?_eq_some_iff.1 hn).1
  have hcopied : ∀ n x, (hazards writes)[n]? = some x →
      (copies (hazards writes) 0).foldl (Statement.update sampler literal) m' (scratchElement n) =
        m x := by
    intro n x hn
    have hx : m' x = m x := by
      obtain ⟨_, w, hw, hr⟩ := overlaps_subset (mem_hazards.1 (List.mem_of_getElem? hn))
      exact hread w hw x hr
    have happart : ∀ j < n, x ≠ scratchElement (0 + j) := by
      intro j hj hxj
      rw [Nat.zero_add] at hxj
      subst hxj
      exact hc.saved_apart n (hplace n _ hn) j hj hn
    have hat := update_copies_at sampler literal m' hn happart
    rw [Nat.zero_add] at hat
    rw [hat, hx]
  have hkept : ∀ x, (∀ n < (hazards writes).length, x ≠ scratchElement n) →
      (copies (hazards writes) 0).foldl (Statement.update sampler literal) m' x = m' x := by
    intro x hx
    apply update_copies_of_ne
    intro n hn
    rw [Nat.zero_add]
    exact hx n hn
  rw [sequentialize_eq, List.foldl_append]
  apply update_writes
  · intro w _ n x _ hn
    exact hcopied n x hn
  · intro w hw x hx hns
    rw [hkept x ?_, hread w hw x hx]
    intro n hn hxn
    subst hxn
    exact hns (hc.read_apart w hw n hn hx)
  · exact (pairwise_overlaps writes).imp fun h hv => mem_hazards.2 (h hv)
  · exact hc.written_apart
  · intro htargets
    rcases he with ⟨w, hw, ht⟩ | ⟨hagree, hne⟩
    · exact absurd ht (htargets w hw)
    · rw [hkept e hne, hagree]

/-- Copies are out of the way of writes that use scratch only behind them. -/
theorem ClearOfCopies.of_ne
    (hw : ∀ w ∈ writes, ∀ n < (hazards writes).length, w.target ≠ scratchElement n ∧
      scratchElement n ∉ w.value.elements) : ClearOfCopies writes where
  saved_apart := by
    intro n hn j hj hx
    obtain ⟨⟨w, hm, ht⟩, _⟩ := overlaps_subset (mem_hazards.1 (List.mem_of_getElem? hx))
    exact (hw w hm j (Nat.lt_trans hj hn)).1 ht
  read_apart := by
    intro w hm n hn hr
    exact absurd hr (hw w hm n hn).2
  written_apart := by
    apply List.pairwise_of_forall_mem_list
    intro w hm v _ n hn ht
    exact absurd ht (hw w hm n hn).1

theorem ClearOfCopies.of_offScratch (hw : ∀ w ∈ writes, w.OffScratch) : ClearOfCopies writes := by
  apply of_ne
  intro w hm n _
  exact ⟨(hw w hm).1.ne n, fun hr => ((hw w hm).2 _ hr).ne n rfl⟩

/-- Sequentialized writes have the effect of writing all values at once. Nothing outside scratch
depends on what scratch held before. -/
theorem update_sequentialize (sampler : Sampler) (literal : String → Float32) {writes : List Write}
    {m m' : Memory} (hw : ∀ w ∈ writes, w.OffScratch)
    (hagree : ∀ e : Element, e.OffScratch → m' e = m e) (e : Element) (he : e.OffScratch) :
    (sequentialize writes).foldl (Statement.update sampler literal) m' e =
      storeAll m (writeValues sampler literal m writes) e := by
  apply (ClearOfCopies.of_offScratch hw).update_eq
  · intro w hm x hx
    exact hagree x ((hw w hm).2 x hx)
  · exact .inr ⟨hagree e he, fun n _ => he.ne n⟩

theorem sequentialize_assigns (h : s ∈ sequentialize writes) :
    ∃ target value, s = .assign target value := by
  rw [sequentialize_eq, List.mem_append] at h
  rcases h with h | h
  · obtain ⟨p, _, rfl⟩ := List.mem_map.1 h
    exact ⟨_, _, rfl⟩
  · obtain ⟨w, _, rfl⟩ := List.mem_map.1 h
    exact ⟨_, _, rfl⟩

/-- Writes that leave scratch alone become assignments that have, one after the other, the effect of
computing all values first and storing them in order. -/
theorem sequentialize_acts_at_once (writes : List Write) (hw : ∀ w ∈ writes, w.OffScratch)
    (sampler : Sampler) (literal : String → Float32) (m : Memory) :
    (∀ s ∈ sequentialize writes, ∃ target value, s = .assign target value) ∧
    ∀ e : Element, e.OffScratch →
      (sequentialize writes).foldl (Statement.update sampler literal) m e =
        storeAll m (writeValues sampler literal m writes) e := by
  refine ⟨fun s hs => sequentialize_assigns hs, ?_⟩
  intro e he
  exact update_sequentialize sampler literal hw (fun _ _ => rfl) e he

/-- One element is written twice and read by every write, once inside a texture lookup. -/
theorem sequentialize_acts_at_once_rewritten :
    let a : Element := ⟨"temp_f32", 0⟩
    let b : Element := ⟨"uniform_f32", 5⟩
    let writes : List Write := [⟨a, .leaf (.element b)⟩,
      ⟨b, .binary .add (.leaf (.element a)) (.unary .abs (.leaf (.element b)))⟩,
      ⟨a, .sample (.leaf (.element a)) (.unary .sin (.leaf (.element b))) (.leaf (.literal "k")) 2⟩]
    (∀ w ∈ writes, w.OffScratch) ∧ hazards writes = [a, b] ∧
    ∀ (sampler : Sampler) (literal : String → Float32) (m : Memory),
      (sequentialize writes).foldl (Statement.update sampler literal) m a =
        (sampler (m a) (m b).sin (literal "k")).channel 2 ∧
      (sequentialize writes).foldl (Statement.update sampler literal) m b = m a + (m b).abs := by
  intro a b writes
  have hw : ∀ w ∈ writes, w.OffScratch := by decide +kernel
  refine ⟨hw, by decide +kernel, fun sampler literal m => ?_⟩
  obtain ⟨_, h⟩ := sequentialize_acts_at_once writes hw sampler literal m
  rw [h a (by decide +kernel), h b (by decide +kernel)]
  exact ⟨rfl, rfl⟩

end Lanewise
