import Lanewise.Proofs.Scopes

namespace Lanewise
set_option autoImplicit true

/-- Operations that leave every scope which they enter, and no other. -/
inductive Bracketed : List ScopeOp → Prop
  | empty : Bracketed []
  | declare {op : ScopeOp} {s : Symbol} : op.symbol? = some s → Bracketed ops →
      Bracketed (op :: ops)
  | scope {body : List ScopeOp} : Bracketed body → Bracketed ops →
      Bracketed (.enter :: (body ++ .leave :: ops))

/-- The declarations of the scopes down to a depth. -/
def upTo (d : Nat) (symbols : List Symbol) : List Symbol := symbols.filter (·.depth ≤ d)

theorem upTo_cons_of_lt {s : Symbol} (h : d < s.depth) (symbols : List Symbol) :
    upTo d (s :: symbols) = upTo d symbols :=
  List.filter_cons_of_neg (by simpa using h)

theorem upTo_eq_self {symbols : List Symbol} (h : ∀ s ∈ symbols, s.depth ≤ d) :
    upTo d symbols = symbols := by
  apply List.filter_eq_self.2
  intro s hs
  exact decide_eq_true (h s hs)

theorem upTo_dropWhile {depth : Nat} (h : d < depth) (symbols : List Symbol) :
    upTo d (symbols.dropWhile (·.depth == depth)) = upTo d symbols := by
  induction symbols with
  | nil => rfl
  | cons s symbols ih =>
    by_cases hs : s.depth = depth
    · rw [List.dropWhile_cons_of_pos (by simpa using hs), ih, upTo_cons_of_lt (hs ▸ h)]
    · rw [List.dropWhile_cons_of_neg (by simpa using hs)]

theorem dropWhile_eq_upTo {symbols : List Symbol}
    (hp : symbols.Pairwise fun newer older => older.depth ≤ newer.depth)
    (hb : ∀ s ∈ symbols, s.depth ≤ d + 1) :
    symbols.dropWhile (·.depth == d + 1) = upTo d symbols := by
  induction symbols with
  | nil => rfl
  | cons s symbols ih =>
    rw [List.pairwise_cons] at hp
    rw [List.forall_mem_cons] at hb
    by_cases hs : s.depth = d + 1
    · have hd : d < s.depth := hs ▸ Nat.lt_succ_self d
      rw [List.dropWhile_cons_of_pos (by simpa using hs), ih hp.2 hb.2, upTo_cons_of_lt hd]
    · rw [List.dropWhile_cons_of_neg (by simpa using hs)]
      have hle : s.depth ≤ d := by omega
      have hall : ∀ t ∈ s :: symbols, t.depth ≤ d :=
        List.forall_mem_cons.2 ⟨hle, fun t ht => Nat.le_trans (hp.1 t ht) hle⟩
      exact (upTo_eq_self hall).symm

theorem Scopes.pairwise_stamped (scopes : List (List Symbol)) :
    (stamped scopes).Pairwise fun newer older => older.depth ≤ newer.depth := by
  induction scopes with
  | nil => exact .nil
  | cons scope outer ih =>
    rw [stamped, List.pairwise_append, List.pairwise_map]
    have hscope : scope.Pairwise fun newer older =>
        (older.atDepth outer.length).depth ≤ (newer.atDepth outer.length).depth :=
      List.pairwise_of_forall fun _ _ => Nat.le_refl _
    refine ⟨hscope, ih, ?_⟩
    intro newer hn older ho
    obtain ⟨s, _, rfl⟩ := List.mem_map.1 hn
    exact Nat.le_of_lt (depth_lt_of_mem_stamped ho)

namespace SymbolTable

theorem Represents.pairwise_depth {table : SymbolTable} (h : table.Represents scopes)
    (he : entry ∈ table.names) :
    entry.2.Pairwise fun newer older => older.depth ≤ newer.depth := by
  rw [← h.declarations_eq he, h.declarations_eq_filter]
  exact (Scopes.pairwise_stamped scopes.toList).filter _

theorem Represents.depth_le {table : SymbolTable} (h : table.Represents scopes)
    (he : entry ∈ table.names) : ∀ s ∈ entry.2, s.depth ≤ table.depth := by
  intro s hs
  rw [← h.declarations_eq he, h.declarations_eq_filter] at hs
  have hlt := Scopes.depth_lt_of_mem_stamped (List.mem_of_mem_filter hs)
  rw [h.depth_eq]
  exact Nat.le_of_lt_succ hlt

theorem Represents.prune_upTo {table : SymbolTable} (h : table.Represents scopes) :
    prune (upTo table.depth) table.names = table.names :=
  h.prune_eq_self fun _ he => upTo_eq_self (h.depth_le he)

theorem Represents.names_popScope_eq {table : SymbolTable} (h : table.Represents scopes)
    (hd : table.depth = d + 1) : table.popScope.names = prune (upTo d) table.names := by
  rw [names_popScope, hd]
  apply prune_congr
  intro entry he
  exact dropWhile_eq_upTo (h.pairwise_depth he) (hd ▸ h.depth_le he)

end SymbolTable

open SymbolTable

theorem Bracketed.keeps {ops : List ScopeOp} {table : SymbolTable} (h : Bracketed ops)
    (hd : d < table.depth) : (ops.foldl apply table).depth = table.depth ∧
      prune (upTo d) (ops.foldl apply table).names = prune (upTo d) table.names := by
  induction h generalizing table with
  | empty => exact ⟨rfl, rfl⟩
  | @declare ops op s hs _ ih =>
    rw [List.foldl_cons, table.apply_of_symbol? hs]
    have hadd : prune (upTo d) (table.add s).names = prune (upTo d) table.names :=
      prune_push rfl (upTo_cons_of_lt hd) table.names
    rw [← hadd]
    exact ih hd
  | @scope ops body _ _ ihBody ih =>
    rw [List.foldl_cons, List.foldl_append, List.foldl_cons]
    have hinside : d < table.pushScope.depth := Nat.lt_succ_of_lt hd
    obtain ⟨hdepth, hnames⟩ := ihBody hinside
    -- the scope that closes here lies deeper than `d`, so its declarations were pruned anyway
    let deep := body.foldl apply table.pushScope
    have hleft : deep.popScope.depth = table.depth := by
      rw [depth_popScope, hdepth]
      rfl
    have hpop : prune (upTo d) deep.popScope.names = prune (upTo d) table.names := by
      have hlt : d < deep.depth := hdepth ▸ hinside
      rw [names_popScope, prune_prune rfl (upTo_dropWhile hlt)]
      exact hnames
    rw [← hleft, ← hpop]
    exact ih (hleft ▸ hd)

/-- Leaving a scope brings back the table that it was entered from. -/
theorem SymbolTable.popScope_foldl_pushScope (ops inside : List ScopeOp) (h : Bracketed inside) :
    let table := ops.foldl SymbolTable.apply {}
    (inside.foldl SymbolTable.apply table.pushScope).popScope = table := by
  intro table
  have hbefore : table.Represents (ops.foldl Scopes.apply {}) := Represents.empty.foldl ops
  have hafter := hbefore.enter.foldl inside
  have hinside : table.depth < table.pushScope.depth := Nat.lt_succ_self table.depth
  obtain ⟨hdepth, hkept⟩ := h.keeps hinside
  let deep := inside.foldl SymbolTable.apply table.pushScope
  have hnames : deep.popScope.names = table.names :=
    calc deep.popScope.names
      _ = prune (upTo table.depth) deep.names := hafter.names_popScope_eq hdepth
      _ = prune (upTo table.depth) table.names := hkept
      _ = table.names := hbefore.prune_upTo
  have hleft : deep.popScope.depth = table.depth := by
    rw [depth_popScope, hdepth]
    rfl
  calc deep.popScope
    _ = ⟨deep.popScope.names, deep.popScope.depth⟩ := rfl
    _ = ⟨table.names, table.depth⟩ := by rw [hnames, hleft]
    _ = table := rfl

theorem SymbolTable.popScope_foldl_pushScope_shadowed :
    let ops : List ScopeOp := [.addVariable "v" (some "float"), .enter,
      .addFunction "v" none [], .addType "t" ⟨"t", ["v"]⟩]
    let inside : List ScopeOp := [.addType "v" ⟨"v", []⟩, .addVariable "v" none, .enter,
      .add { name := "v", meaning := .func [], type := none, shownName := "u" }, .leave,
      .addVariable "w" none, .enter, .leave]
    let table := ops.foldl SymbolTable.apply {}
    Bracketed inside ∧ (inside.foldl SymbolTable.apply table.pushScope).popScope = table := by
  intro ops inside table
  have h : Bracketed inside :=
    .declare rfl (.declare rfl (.scope (.declare rfl .empty) (.declare rfl (.scope .empty .empty))))
  exact ⟨h, SymbolTable.popScope_foldl_pushScope ops inside h⟩

end Lanewise
