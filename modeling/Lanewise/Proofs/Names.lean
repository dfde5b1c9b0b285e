import Lanewise.Symbol.Table
import Mathlib.Data.List.Nodup

namespace Lanewise
set_option autoImplicit true

namespace SymbolTable

/-- Changes the declarations of every name, and drops the names that have none left. -/
def prune (f : List Symbol → List Symbol) (names : List (String × List Symbol)) :
    List (String × List Symbol) :=
  (names.map fun entry => (entry.1, f entry.2)).filter fun entry => !entry.2.isEmpty

theorem depth_popScope (table : SymbolTable) : table.popScope.depth = table.depth - 1 := rfl

theorem names_popScope (table : SymbolTable) :
    table.popScope.names = prune (List.dropWhile (·.depth == table.depth)) table.names := rfl

theorem keys_prune_sublist (f : List Symbol → List Symbol) (names : List (String × List Symbol)) :
    ((prune f names).map Prod.fst).Sublist (names.map Prod.fst) := by
  have h := (List.filter_sublist (l := names.map fun entry => (entry.1, f entry.2))
    (p := fun entry => !entry.2.isEmpty)).map Prod.fst
  rwa [List.map_map] at h

theorem lookup_eq_none_of_notMem {names : List (String × List Symbol)}
    (h : name ∉ names.map Prod.fst) : names.lookup name = none := by
  apply List.lookup_eq_none_iff.2
  intro entry he
  have hne : name ≠ entry.1 := fun hn => h (hn ▸ List.mem_map_of_mem he)
  exact bne_iff_ne.2 hne

theorem lookup_cons_of_ne (h : name ≠ key) (symbols : List Symbol)
    (names : List (String × List Symbol)) :
    List.lookup name ((key, symbols) :: names) = names.lookup name := by
  have hb : (name == key) = false := beq_false_of_ne h
  rw [List.lookup_cons, hb]

theorem prune_cons (f : List Symbol → List Symbol) (entry : String × List Symbol)
    (names : List (String × List Symbol)) : prune f (entry :: names) =
      if f entry.2 = [] then prune f names else (entry.1, f entry.2) :: prune f names := by
  by_cases he : f entry.2 = []
  · simp [prune, he]
  · simp [prune, he]

theorem prune_push (hf : f [] = []) (hs : ∀ symbols, f (s :: symbols) = f symbols)
    (names : List (String × List Symbol)) : prune f (push s names) = prune f names := by
  induction names with
  | nil =>
    have he : f [s] = [] := (hs []).trans hf
    rw [push, prune_cons, if_pos he]
  | cons entry names ih =>
    rw [push]
    by_cases hk : entry.1 = s.name
    · rw [if_pos hk, prune_cons, prune_cons, hs]
    · rw [if_neg hk, prune_cons, prune_cons, ih]

theorem prune_prune (hf : f [] = []) (hg : ∀ symbols, f (g symbols) = f symbols)
    (names : List (String × List Symbol)) : prune f (prune g names) = prune f names := by
  induction names with
  | nil => rfl
  | cons entry names ih =>
    rw [prune_cons g, prune_cons f entry]
    by_cases he : g entry.2 = []
    · have hfe : f entry.2 = [] := by rw [← hg, he, hf]
      rw [if_pos he, if_pos hfe, ih]
    · rw [if_neg he, prune_cons, hg, ih]

theorem prune_congr {names : List (String × List Symbol)}
    (h : ∀ entry ∈ names, f entry.2 = g entry.2) : prune f names = prune g names := by
  induction names with
  | nil => rfl
  | cons entry names ih =>
    rw [List.forall_mem_cons] at h
    rw [prune_cons, prune_cons, h.1, ih h.2]

/-- A name without declarations left is as good as unknown, as long as no name stands twice. -/
theorem getD_lookup_prune {names : List (String × List Symbol)} (hf : f [] = [])
    (hn : (names.map Prod.fst).Nodup) (name : String) :
    ((prune f names).lookup name).getD [] = f ((names.lookup name).getD []) := by
  induction names with
  | nil => exact hf.symm
  | cons entry names ih =>
    obtain ⟨key, symbols⟩ := entry
    rw [List.map_cons, List.nodup_cons] at hn
    rw [prune_cons]
    by_cases hk : name = key
    · subst hk
      rw [List.lookup_cons_self]
      split
      · rename_i he
        have hm : name ∉ (prune f names).map Prod.fst :=
          fun hm => hn.1 ((keys_prune_sublist f names).subset hm)
        rw [lookup_eq_none_of_notMem hm]
        exact he.symm
      · rw [List.lookup_cons_self]
        rfl
    · rw [lookup_cons_of_ne hk]
      split
      · exact ih hn.2
      · rw [lookup_cons_of_ne hk]
        exact ih hn.2

theorem getD_lookup_push (s : Symbol) (names : List (String × List Symbol)) (name : String) :
    ((push s names).lookup name).getD [] =
      if s.name = name then s :: (names.lookup name).getD [] else (names.lookup name).getD [] := by
  induction names with
  | nil =>
    rw [push]
    by_cases hn : s.name = name
    · subst hn
      rw [if_pos rfl, List.lookup_cons_self]
      rfl
    · rw [if_neg hn, lookup_cons_of_ne (Ne.symm hn)]
  | cons entry names ih =>
    obtain ⟨key, symbols⟩ := entry
    rw [push]
    by_cases hk : key = s.name
    · subst hk
      rw [if_pos rfl]
      by_cases hn : s.name = name
      · subst hn
        rw [if_pos rfl, List.lookup_cons_self, List.lookup_cons_self]
        rfl
      · rw [if_neg hn, lookup_cons_of_ne (Ne.symm hn), lookup_cons_of_ne (Ne.symm hn)]
    · rw [if_neg hk]
      by_cases hn : name = key
      · subst hn
        rw [if_neg (Ne.symm hk), List.lookup_cons_self, List.lookup_cons_self]
      · rw [lookup_cons_of_ne hn, lookup_cons_of_ne hn]
        exact ih

theorem mem_keys_push {s : Symbol} {names : List (String × List Symbol)} :
    name ∈ (push s names).map Prod.fst ↔ name = s.name ∨ name ∈ names.map Prod.fst := by
  induction names with
  | nil => simp [push]
  | cons entry names ih =>
    by_cases hk : entry.1 = s.name
    · simp [push, hk]
    · simp only [push, if_neg hk, List.map_cons, List.mem_cons, ih]
      exact or_left_comm

/-- What the table maintains of its names: each of them stands once and has a declaration. -/
structure Tidy (table : SymbolTable) : Prop where
  nodup : (table.names.map Prod.fst).Nodup
  nonempty : ∀ entry ∈ table.names, entry.2 ≠ []

theorem tidy_empty : Tidy {} where
  nodup := List.nodup_nil
  nonempty := List.forall_mem_nil _

theorem nodup_keys_push {s : Symbol} {names : List (String × List Symbol)}
    (h : (names.map Prod.fst).Nodup) : ((push s names).map Prod.fst).Nodup := by
  induction names with
  | nil => exact List.nodup_singleton _
  | cons entry names ih =>
    rw [List.map_cons, List.nodup_cons] at h
    by_cases hk : entry.1 = s.name
    · simp only [push, if_pos hk, List.map_cons, List.nodup_cons]
      exact h
    · simp only [push, if_neg hk, List.map_cons, List.nodup_cons, mem_keys_push, not_or]
      exact ⟨⟨hk, h.1⟩, ih h.2⟩

theorem nonempty_push {s : Symbol} {names : List (String × List Symbol)}
    (h : ∀ entry ∈ names, entry.2 ≠ []) : ∀ entry ∈ push s names, entry.2 ≠ [] := by
  induction names with
  | nil =>
    intro entry he
    rw [List.mem_singleton.1 he]
    exact List.cons_ne_nil _ _
  | cons first names ih =>
    rw [List.forall_mem_cons] at h
    by_cases hk : first.1 = s.name
    · simp only [push, if_pos hk]
      exact List.forall_mem_cons.2 ⟨List.cons_ne_nil _ _, h.2⟩
    · simp only [push, if_neg hk]
      exact List.forall_mem_cons.2 ⟨h.1, ih h.2⟩

theorem Tidy.add {table : SymbolTable} (h : table.Tidy) (s : Symbol) : (table.add s).Tidy where
  nodup := nodup_keys_push h.nodup
  nonempty := nonempty_push h.nonempty

theorem Tidy.popScope {table : SymbolTable} (h : table.Tidy) : table.popScope.Tidy where
  nodup := h.nodup.sublist (keys_prune_sublist _ table.names)
  nonempty := by
    intro entry he
    have hp := (List.mem_filter.1 he).2
    intro hn
    rw [hn] at hp
    cases hp

theorem declarations_add (table : SymbolTable) (s : Symbol) (name : String) :
    (table.add s).declarations name =
      if s.name = name then table.place s :: table.declarations name
      else table.declarations name :=
  getD_lookup_push (table.place s) table.names name

theorem Tidy.declarations_popScope {table : SymbolTable} (h : table.Tidy) (name : String) :
    table.popScope.declarations name =
      (table.declarations name).dropWhile (·.depth == table.depth) :=
  getD_lookup_prune rfl h.nodup name

theorem Tidy.declarations_eq {table : SymbolTable} (h : table.Tidy) (he : entry ∈ table.names) :
    table.declarations entry.1 = entry.2 := by
  obtain ⟨before, after, hsplit⟩ := List.append_of_mem he
  have hn := h.nodup
  rw [hsplit, List.map_append, List.map_cons] at hn
  have hb : ∀ p ∈ before, (entry.1 != p.1) = true := by
    intro p hp
    have hne := (List.nodup_append.1 hn).2.2 p.1 (List.mem_map_of_mem hp) entry.1 List.mem_cons_self
    exact bne_iff_ne.2 (Ne.symm hne)
  have hl : table.names.lookup entry.1 = some entry.2 :=
    List.lookup_eq_some_iff.2 ⟨before, after, hsplit, hb⟩
  rw [declarations, hl]
  rfl

theorem Tidy.mem_keys_iff {table : SymbolTable} (h : table.Tidy) :
    name ∈ table.names.map Prod.fst ↔ table.declarations name ≠ [] := by
  constructor
  · intro hm
    obtain ⟨entry, he, hk⟩ := List.mem_map.1 hm
    rw [← hk, h.declarations_eq he]
    exact h.nonempty entry he
  · intro hd
    by_contra hm
    apply hd
    rw [declarations, lookup_eq_none_of_notMem hm]
    rfl

theorem Tidy.prune_eq_self {table : SymbolTable} (h : table.Tidy)
    (hf : ∀ entry ∈ table.names, f entry.2 = entry.2) : prune f table.names = table.names := by
  have hmap : (table.names.map fun entry => (entry.1, f entry.2)) = table.names := by
    have hid : (table.names.map fun entry => (entry.1, f entry.2)) = table.names.map id := by
      apply List.map_congr_left
      intro entry he
      rw [hf entry he]
      rfl
    rw [hid, List.map_id]
  rw [prune, hmap]
  apply List.filter_eq_self.2
  intro entry he
  simpa using h.nonempty entry he

end SymbolTable

end Lanewise
