import Lanewise.Program
import Lanewise.Proofs.Memory

namespace Lanewise
set_option autoImplicit true

/-- Every index below the total belongs to exactly one section. -/
theorem Capacities.Fits.existsUnique_region {sizes : Capacities} (hfits : sizes.Fits)
    (h : k < sizes.total) : ∃! r, sizes.offset r ≤ k ∧ k < sizes.offset r + sizes.of r := by
  simp only [hfits.total_eq, hfits.offset_eq] at h ⊢
  obtain ⟨r, i, hi, rfl⟩ := exists_region_of_lt_sum h
  refine ⟨r, ⟨Nat.le_add_right _ _, Nat.add_lt_add_left hi _⟩, ?_⟩
  rintro r' ⟨hle, hlt⟩
  by_contra hne
  have hd := sizes.before_disjoint hne
  omega

namespace Buffer

theorem ext_get {b b' : Buffer sizes} (h : ∀ k < sizes.total, b.get k = b'.get k) : b = b' := by
  obtain ⟨cells⟩ := b
  obtain ⟨cells'⟩ := b'
  congr 1
  apply Vector.ext
  intro k hk
  simpa [get, hk] using h k hk

/-- Stores values one behind the other in a section, from an index on. -/
def storeFrom (b : Buffer sizes) (r : Region) (first : Nat) (values : List Float32) :
    Buffer sizes :=
  match values with
  | [] => b
  | value :: values => (b.set (sizes.cell r first) value).storeFrom r (first + 1) values

theorem foldl_zipIdx_eq_storeFrom (b : Buffer sizes) (r : Region) (start n : Nat)
    (values : List Float32) :
    (values.zipIdx n).foldl (fun b (value, i) => b.set (sizes.cell r (start + i)) value) b =
      b.storeFrom r (start + n) values := by
  induction values generalizing b n with
  | nil => rfl
  | cons value values ih =>
    rw [List.zipIdx_cons, List.foldl_cons, ih, storeFrom]
    rfl

theorem get_storeFrom_of_ne (b : Buffer sizes) {values : List Float32}
    (h : ∀ i < values.length, sizes.cell r (first + i) ≠ k) :
    (b.storeFrom r first values).get k = b.get k := by
  induction values generalizing b first with
  | nil => rfl
  | cons value values ih =>
    rw [storeFrom, ih, get_set_of_ne]
    · exact h 0 (Nat.zero_lt_succ _)
    · intro i hi
      rw [Nat.add_right_comm]
      exact h (i + 1) (Nat.succ_lt_succ hi)

theorem get_storeFrom (hfits : sizes.Fits) (b : Buffer sizes) {values : List Float32}
    (hv : values[i]? = some value) (h : first + values.length ≤ sizes.of r) :
    (b.storeFrom r first values).get (sizes.cell r (first + i)) = value := by
  induction values generalizing b first i with
  | nil => cases hv
  | cons head values ih =>
    rw [List.length_cons] at h
    rw [storeFrom]
    cases i with
    | zero =>
      cases hv
      rw [get_storeFrom_of_ne]
      · exact b.get_set_self (hfits.cell_lt_total (by omega)) _
      · intro i hi hc
        have hi := (hfits.cell_inj (by omega) (by omega) hc).2
        omega
    | succ i =>
      have hi : first + (i + 1) = first + 1 + i := by omega
      rw [hi]
      exact ih _ hv (by omega)

theorem write_eq_storeFrom (h : sizes.holds r) (b : Buffer sizes) (start : Nat)
    (data : List Float32) (limit : Nat) : b.write r start data limit =
      b.storeFrom r start (data.take (writeCount sizes r start data limit)) := by
  rw [write, if_pos h]
  exact b.foldl_zipIdx_eq_storeFrom r start 0 _

/-- No sum or difference that a write needs leaves the range from zero to the size of the section. -/
theorem writeCount_bounds (sizes : Capacities) (r : Region) (start : Nat) (data : List Float32)
    (limit : Nat) : writeCount sizes r start data limit ≤ data.length ∧
      (sizes.of r ≤ start → writeCount sizes r start data limit = 0) ∧
      (start < sizes.of r → start + writeCount sizes r start data limit ≤ sizes.of r) := by
  unfold writeCount
  omega

/-- Whether an absolute index is one of `count` elements of a section from `start` on. -/
def Reaches (sizes : Capacities) (r : Region) (start count k : Nat) : Prop :=
  ∃ i < count, start + i < sizes.of r ∧ sizes.cell r (start + i) = k

theorem get_write (hfits : sizes.Fits) (b : Buffer sizes) (hv : data[i]? = some value)
    (hi : i < limit) (hc : start + i < sizes.of r) :
    (b.write r start data limit).get (sizes.cell r (start + i)) = value := by
  have hlen : i < data.length := (List.getElem?_eq_some_iff.1 hv).1
  obtain ⟨_, _, hend⟩ := writeCount_bounds sizes r start data limit
  have hcount : i < writeCount sizes r start data limit := by
    unfold writeCount
    omega
  rw [write_eq_storeFrom (hfits.holds r)]
  apply get_storeFrom hfits
  · rwa [List.getElem?_take_of_lt hcount]
  · rw [List.length_take]
    omega

theorem get_write_of_not_reaches (b : Buffer sizes)
    (h : ¬ Reaches sizes r start (min data.length limit) k) :
    (b.write r start data limit).get k = b.get k := by
  by_cases hr : sizes.holds r
  · rw [write_eq_storeFrom hr]
    apply get_storeFrom_of_ne
    intro i hi hk
    rw [List.length_take, writeCount] at hi
    exact h ⟨i, by omega, by omega, hk⟩
  · rw [write, if_neg hr]

/-- What a write puts into the elements that it reaches does not depend on what was there. -/
theorem exists_get_write (hfits : sizes.Fits) (h : Reaches sizes r start (min data.length limit) k) :
    ∃ value, ∀ b : Buffer sizes, (b.write r start data limit).get k = value := by
  obtain ⟨i, hi, hc, rfl⟩ := h
  have hlen : i < data.length := by omega
  exact ⟨data[i], fun b => b.get_write hfits (List.getElem?_eq_getElem hlen) (by omega) hc⟩

theorem write_comm (hfits : sizes.Fits) (b : Buffer sizes)
    (h : ∀ k, Reaches sizes r start (min data.length limit) k →
      ¬ Reaches sizes r' start' (min data'.length limit') k) :
    (b.write r start data limit).write r' start' data' limit' =
      (b.write r' start' data' limit').write r start data limit := by
  apply ext_get
  intro k _
  by_cases hk : Reaches sizes r start (min data.length limit) k
  · obtain ⟨value, hvalue⟩ := exists_get_write hfits hk
    rw [get_write_of_not_reaches _ (h k hk), hvalue, hvalue]
  · rw [get_write_of_not_reaches _ hk]
    by_cases hk' : Reaches sizes r' start' (min data'.length limit') k
    · obtain ⟨value, hvalue⟩ := exists_get_write hfits hk'
      rw [hvalue, hvalue]
    · rw [get_write_of_not_reaches _ hk', get_write_of_not_reaches _ hk',
        get_write_of_not_reaches _ hk]

theorem getElem?_region_write_of_ne (hfits : sizes.Fits) (b : Buffer sizes)
    (h : ∀ i < min data.length limit, ¬ (r' = r ∧ j = start + i)) :
    ((b.write r start data limit).region r')[j]? = (b.region r')[j]? := by
  rw [getElem?_region, getElem?_region]
  split
  · rename_i hj
    rw [get_write_of_not_reaches]
    rintro ⟨i, hi, hc, hk⟩
    obtain ⟨rfl, rfl⟩ := hfits.cell_inj hc hj hk
    exact h i hi ⟨rfl, rfl⟩
  · rfl

end Buffer

/-- The elements of a list that have their indices in a range, when the first one has index `n`. -/
theorem map_filter_zipIdx (l : List α) (n start size : Nat) :
    ((l.zipIdx n).filter fun x => start ≤ x.2 ∧ x.2 < start + size).map Prod.fst =
      (l.drop (start - n)).take (start + size - max start n) := by
  induction l generalizing n with
  | nil => simp
  | cons a l ih =>
    rw [List.zipIdx_cons]
    by_cases hfront : n < start
    · have hdrop : start - n = start - (n + 1) + 1 := by omega
      have hmax : max start n = max start (n + 1) := by omega
      rw [List.filter_cons_of_neg (by simp; omega), ih, hdrop, hmax, List.drop_succ_cons]
    · have hdrop : start - n = 0 := by omega
      have hdrop' : start - (n + 1) = 0 := by omega
      by_cases hbehind : start + size ≤ n
      · have htake : start + size - max start n = 0 := by omega
        have htake' : start + size - max start (n + 1) = 0 := by omega
        rw [List.filter_cons_of_neg (by simp; omega), ih, htake, htake', List.take_zero,
          List.take_zero]
      · have htake : start + size - max start n = start + size - max start (n + 1) + 1 := by omega
        rw [List.filter_cons_of_pos (by simp; omega), List.map_cons, ih, hdrop, hdrop', htake,
          List.drop_zero, List.drop_zero, List.take_succ_cons]

theorem Buffer.length_region (b : Buffer sizes) (r : Region) : (b.region r).length = sizes.of r := by
  simp [region]

theorem Buffer.readBounds_le (h : length < indexLimit) (start size : Nat) :
    (readBounds length start size).1 ≤ (readBounds length start size).2 ∧
      (readBounds length start size).2 ≤ length := by
  simp only [readBounds, saturatingAdd]
  omega

/-- Cutting the bounds of a read off loses no element. -/
theorem Buffer.slice_eq (b : Buffer sizes) (h : sizes.of r < indexLimit) (start size : Nat) :
    ((b.region r).take (readBounds (sizes.of r) start size).2).drop
        (readBounds (sizes.of r) start size).1 =
      ((b.region r).zipIdx.filter fun x => start ≤ x.2 ∧ x.2 < start + size).map Prod.fst := by
  have hlength := b.length_region r
  have hvalues : ((b.region r).zipIdx.filter fun x => start ≤ x.2 ∧ x.2 < start + size).map Prod.fst =
      ((b.region r).drop start).take size := by
    rw [map_filter_zipIdx, Nat.max_zero, Nat.add_sub_cancel_left]
    rfl
  rw [hvalues, List.drop_take]
  rcases Nat.le_total start (sizes.of r) with hs | hs
  · have hfirst : (readBounds (sizes.of r) start size).1 = start := Nat.min_eq_left hs
    rw [hfirst, List.take_eq_take_iff, List.length_drop, hlength]
    simp only [readBounds, saturatingAdd]
    omega
  · have hfirst : (readBounds (sizes.of r) start size).1 = sizes.of r := Nat.min_eq_right hs
    rw [hfirst, List.drop_eq_nil_of_le (Nat.le_of_eq hlength), List.drop_eq_nil_of_le (hlength ▸ hs),
      List.take_nil, List.take_nil]

theorem Buffer.read_eq (hfits : sizes.Fits) (b : Buffer sizes) (r : Region) (start size : Nat) :
    b.read r start size =
      ((b.region r).zipIdx.filter fun x => start ≤ x.2 ∧ x.2 < start + size).map Prod.fst := by
  rw [read, if_pos (hfits.holds r)]
  exact b.slice_eq (hfits.of_lt r) start size

def Span.Holds (span : Span) (i : Nat) : Prop := span.start ≤ i ∧ i < span.start + span.size

theorem Qualifier.region_injective {q q' : Qualifier} (h : q.region = q'.region) : q = q' := by
  cases q <;> cases q' <;> first | rfl | cases h

namespace Program

theorem setData_of_none {p : Program} (h : p.interface.get? q name = none) (data : List Float32) :
    p.setData q name data = p := by
  rw [setData, h]

theorem setData_of_some {p : Program} (h : p.interface.get? q name = some span)
    (data : List Float32) : p.setData q name data =
      { p with buffer := p.buffer.write q.region span.start data span.size } := by
  rw [setData, h]

theorem interface_setData (p : Program) (q : Qualifier) (name : String) (data : List Float32) :
    (p.setData q name data).interface = p.interface := by
  rw [setData]
  split <;> rfl

/-- Writing to variables that share no element can be done in either order. -/
theorem setData_comm (p : Program) (hfits : p.options.capacities.Fits) (data data' : List Float32)
    (h : ∀ span span', p.interface.get? q name = some span →
      p.interface.get? q' name' = some span' → q ≠ q' ∨ ∀ i, span.Holds i → ¬ span'.Holds i) :
    (p.setData q name data).setData q' name' data' =
      (p.setData q' name' data').setData q name data := by
  cases hs : p.interface.get? q name with
  | none =>
    have hnone : (p.setData q' name' data').interface.get? q name = none := by
      rw [interface_setData, hs]
    rw [setData_of_none hs, setData_of_none hnone]
  | some span =>
    cases hs' : p.interface.get? q' name' with
    | none =>
      have hnone : (p.setData q name data).interface.get? q' name' = none := by
        rw [interface_setData, hs']
      rw [setData_of_none hs', setData_of_none hnone]
    | some span' =>
      have hset (b : Buffer p.options.capacities) : setData { p with buffer := b } q name data =
          { p with buffer := b.write q.region span.start data span.size } :=
        setData_of_some (p := { p with buffer := b }) hs data
      have hset' (b : Buffer p.options.capacities) : setData { p with buffer := b } q' name' data' =
          { p with buffer := b.write q'.region span'.start data' span'.size } :=
        setData_of_some (p := { p with buffer := b }) hs' data'
      rw [setData_of_some hs, setData_of_some hs', hset, hset', Buffer.write_comm hfits]
      rintro k ⟨i, hi, hc, rfl⟩ ⟨j, hj, hc', hk⟩
      obtain ⟨hr, he⟩ := hfits.cell_inj hc' hc hk
      rcases h span span' hs hs' with hq | hd
      · exact hq (Qualifier.region_injective hr.symm)
      · exact hd (span.start + i) ⟨by omega, by omega⟩ ⟨by omega, by omega⟩

/-- In a layout that fits, writing to a variable gives it the data, as far as its size and its section
go, and changes nothing else. Reading a range of a section gives the elements of the range that there
are. So writes to variables that share no element commute, and no index of the buffer is in two
sections. A layout fits exactly if every section can be taken out of the buffer. -/
theorem setData_changes_variable (p : Program) :
    (∀ q name data, p.interface.get? q name = none → p.setData q name data = p) ∧
    (p.options.capacities.Fits →
      (∀ q name data span, p.interface.get? q name = some span →
        let sizes := p.options.capacities
        let count := Buffer.writeCount sizes q.region span.start data span.size
        (∃ b : Buffer sizes, p.setData q name data = { p with buffer := b } ∧
          (∀ i value, data[i]? = some value → i < span.size → span.start + i < sizes.of q.region →
            (b.region q.region)[span.start + i]? = some value) ∧
          ∀ r j, (∀ i < min data.length span.size, ¬ (r = q.region ∧ j = span.start + i)) →
            (b.region r)[j]? = (p.buffer.region r)[j]?) ∧
        count ≤ data.length ∧ (sizes.of q.region ≤ span.start → count = 0) ∧
        (span.start < sizes.of q.region → span.start + count ≤ sizes.of q.region) ∧
        sizes.offset q.region + sizes.of q.region ≤ sizes.total ∧ sizes.total < indexLimit) ∧
      (∀ r start size, p.read r start size = ((p.buffer.region r).zipIdx.filter
        fun x => start ≤ x.2 ∧ x.2 < start + size).map Prod.fst) ∧
      (∀ q name data q' name' data', (∀ span span', p.interface.get? q name = some span →
          p.interface.get? q' name' = some span' → q ≠ q' ∨ ∀ i, span.Holds i → ¬ span'.Holds i) →
        (p.setData q name data).setData q' name' data' =
          (p.setData q' name' data').setData q name data) ∧
      ∀ k < p.options.capacities.total, ∃! r, p.options.capacities.offset r ≤ k ∧
        k < p.options.capacities.offset r + p.options.capacities.of r) ∧
    ((∀ r, p.options.capacities.of r < indexLimit) →
      (p.options.capacities.Fits ↔ ∀ r, p.options.capacities.holds r)) := by
  refine ⟨fun q name data h => setData_of_none h data, ?_, Capacities.fits_iff_holds⟩
  intro hfits
  refine ⟨?_, p.buffer.read_eq hfits, ?_, fun k => hfits.existsUnique_region⟩
  · intro q name data span h sizes count
    obtain ⟨hlength, hbehind, hbefore⟩ :=
      Buffer.writeCount_bounds sizes q.region span.start data span.size
    refine ⟨⟨_, setData_of_some h data, ?_, ?_⟩, hlength, hbehind, hbefore,
      hfits.offset_add_le_total _, sizes.total_lt⟩
    · intro i value hv hi hc
      rw [Buffer.getElem?_region, if_pos hc, p.buffer.get_write hfits hv hi hc]
    · intro r j hj
      exact p.buffer.getElem?_region_write_of_ne hfits hj
  · intro q name data q' name' data' h
    exact p.setData_comm hfits data data' h

/-- A variable that runs over the end of its section, one that starts behind every section, and one
of the same name in the section that follows. -/
theorem setData_changes_variable_at_end :
    let far := 18446744073709551615
    let p : Program :=
      { options := { capacities := { uniforms := 4 } }
        interface := ⟨[("edge", ⟨2, 8⟩), ("far", ⟨far, far⟩)], [("edge", ⟨0, 1⟩)], []⟩ }
    p.options.capacities.Fits ∧
    (∃ b : Buffer p.options.capacities,
      p.setData .uniform "edge" [1.0, 2.0, 3.0] = { p with buffer := b } ∧
      (b.region .uniform)[3]? = some (2.0 : Float32) ∧
      (b.region .attribute)[0]? = (p.buffer.region .attribute)[0]?) ∧
    (∃ b : Buffer p.options.capacities, p.setData .uniform "far" [1.0] = { p with buffer := b } ∧
      ∀ r, ∀ j < far, (b.region r)[j]? = (p.buffer.region r)[j]?) ∧
    (p.setData .uniform "edge" [1.0, 2.0, 3.0]).setData .attribute "edge" [4.0] =
      (p.setData .attribute "edge" [4.0]).setData .uniform "edge" [1.0, 2.0, 3.0] := by
  intro far p
  have hedge : p.interface.get? .uniform "edge" = some ⟨2, 8⟩ := rfl
  have hfar : p.interface.get? .uniform "far" = some ⟨far, far⟩ := rfl
  have hfits : p.options.capacities.Fits := by decide
  obtain ⟨hset, _, hcomm, _⟩ := (setData_changes_variable p).2.1 hfits
  refine ⟨hfits, ?_, ?_, ?_⟩
  · obtain ⟨⟨b, hb, hin, hout⟩, _⟩ := hset .uniform "edge" [1.0, 2.0, 3.0] ⟨2, 8⟩ hedge
    refine ⟨b, hb, hin 1 2.0 rfl (by decide) (by decide), hout .attribute 0 ?_⟩
    rintro i _ ⟨hr, _⟩
    cases hr
  · obtain ⟨⟨b, hb, _, hout⟩, _⟩ := hset .uniform "far" [1.0] ⟨far, far⟩ hfar
    refine ⟨b, hb, fun r j hj => hout r j ?_⟩
    rintro i _ ⟨_, rfl⟩
    exact absurd hj (Nat.not_lt.2 (Nat.le_add_right far i))
  · exact hcomm .uniform "edge" _ .attribute "edge" _ fun _ _ _ _ => .inl (nomatch ·)

/-- Layouts that do not fit: a section does not lie in the buffer and what is written to it is lost,
what is written to a uniform turns up in the result, and an index belongs to two sections. -/
theorem setData_misses_variable :
    let lost : Program :=
      { options := { capacities := ⟨18446744073709551615, 1, 0, 0, 0, 0⟩ }
        interface := ⟨[("tint", ⟨0, 3⟩)], [], []⟩ }
    let spilled : Program :=
      { options := { capacities := ⟨3, 18446744073709551614, 0, 7, 0, 0⟩ }
        interface := ⟨[("tint", ⟨0, 3⟩)], [], []⟩ }
    let shared : Capacities := ⟨9223372036854775808, 9223372036854775808, 5, 0, 0, 0⟩
    (lost.options.capacities.total = 0 ∧ lost.options.capacities.holds .uniform = false ∧
      lost.setData .uniform "tint" [1.0, 2.0, 3.0] = lost) ∧
    (spilled.options.capacities.holds .uniform ∧ spilled.options.capacities.holds .result ∧
      spilled.read .result 0 7 = [0.0, 0.0, 0.0, 0.0, 0.0, 0.0, 0.0] ∧
      (spilled.setData .uniform "tint" [1.0, 2.0, 3.0]).read .result 0 7 =
        [2.0, 3.0, 0.0, 0.0, 0.0, 0.0, 0.0]) ∧
    shared.total = 5 ∧ ¬ ∃! r, shared.offset r ≤ 0 ∧ 0 < shared.offset r + shared.of r := by
  intro lost spilled shared
  have htint : lost.interface.get? .uniform "tint" = some ⟨0, 3⟩ := rfl
  refine ⟨⟨by decide, by decide, ?_⟩, by decide +kernel, by decide, ?_⟩
  · rw [setData_of_some htint, Buffer.write, if_neg (by decide)]
  · rintro ⟨r, _, hr⟩
    have hu : Region.uniform = r := hr .uniform (by decide)
    have hv : Region.varying = r := hr .varying (by decide)
    cases hu.trans hv.symm

end Program

end Lanewise
