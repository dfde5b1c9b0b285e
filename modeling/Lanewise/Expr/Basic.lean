import Lanewise.Expr.Function

namespace Lanewise

/-- A scalar expression over leaves of any kind. -/
inductive Expr (α : Type) where
  | leaf (a : α)
  | unary (fn : UnaryFn) (x : Expr α)
  | binary (fn : BinaryFn) (a b : Expr α)
  | select (cond negative otherwise : Expr α)
  | sample (u v lod : Expr α) (channel : Nat)
  deriving DecidableEq, Repr

/-- The four channels that a texture lookup gives. -/
structure Texel where
  x : Float32
  y : Float32
  z : Float32
  w : Float32

/-- There are four channels; any other one reads as zero. -/
def Texel.channel (t : Texel) : Nat → Float32
  | 0 => t.x
  | 1 => t.y
  | 2 => t.z
  | 3 => t.w
  | _ => 0.0

/-- The texture function of the host, from the two coordinates and the level of detail. -/
abbrev Sampler := Float32 → Float32 → Float32 → Texel

namespace Expr

variable {α β : Type}

def map (f : α → β) : Expr α → Expr β
  | .leaf a => .leaf (f a)
  | .unary fn x => .unary fn (x.map f)
  | .binary fn a b => .binary fn (a.map f) (b.map f)
  | .select cond negative otherwise => .select (cond.map f) (negative.map f) (otherwise.map f)
  | .sample u v lod channel => .sample (u.map f) (v.map f) (lod.map f) channel

/-- Like `map`, stopping at the first leaf from the left that fails. -/
def tryMap {ε : Type} (f : α → Except ε β) : Expr α → Except ε (Expr β)
  | .leaf a => return .leaf (← f a)
  | .unary fn x => return .unary fn (← x.tryMap f)
  | .binary fn a b => return .binary fn (← a.tryMap f) (← b.tryMap f)
  | .select cond negative otherwise =>
    return .select (← cond.tryMap f) (← negative.tryMap f) (← otherwise.tryMap f)
  | .sample u v lod channel =>
    return .sample (← u.tryMap f) (← v.tryMap f) (← lod.tryMap f) channel

/-- The leaves from left to right. -/
def leaves : Expr α → List α
  | .leaf a => [a]
  | .unary _ x => x.leaves
  | .binary _ a b => a.leaves ++ b.leaves
  | .select cond negative otherwise => cond.leaves ++ negative.leaves ++ otherwise.leaves
  | .sample u v lod _ => u.leaves ++ v.leaves ++ lod.leaves

/-- Sets the channel of the outermost texture lookups; those inside their arguments keep theirs. -/
def withChannel (n : Nat) : Expr α → Expr α
  | .leaf a => .leaf a
  | .unary fn x => .unary fn (x.withChannel n)
  | .binary fn a b => .binary fn (a.withChannel n) (b.withChannel n)
  | .select cond negative otherwise =>
    .select (cond.withChannel n) (negative.withChannel n) (otherwise.withChannel n)
  | .sample u v lod _ => .sample u v lod n

/-- The value of an expression under an assignment of values to its leaves. -/
def eval (sampler : Sampler) (value : α → Float32) : Expr α → Float32
  | .leaf a => value a
  | .unary fn x => fn.apply (x.eval sampler value)
  | .binary fn a b => fn.apply (a.eval sampler value) (b.eval sampler value)
  | .select cond negative otherwise =>
    if cond.eval sampler value < 0.0 then negative.eval sampler value
    else otherwise.eval sampler value
  | .sample u v lod channel =>
    (sampler (u.eval sampler value) (v.eval sampler value) (lod.eval sampler value)).channel channel

end Expr

end Lanewise
