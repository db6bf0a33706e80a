/-!
# How much of a search is left

A search keeps a stack of counters, one for each entity on its path, and the depth of the stack is
bounded.  Every step lowers one counter and may change those above it at will.

**Order.**  `Effort n` are the vectors of `n` counters, compared from the bottom of the stack.  The
order is well-founded, whatever numbers appear (`Effort.wellFounded`).

**Stacks.**  `Effort.ofList` pads a list of counters, bottom first, with zeros.
`Effort.ofList_append_lt` says that lowering a counter inside the bound lowers the vector, whatever
stands above it before and after.
-/

namespace Federation

/-- Vectors of counters. -/
def Effort : Nat → Type
  | 0 => Unit
  | n + 1 => Nat × Effort n

namespace Effort

/-- The order of vectors: the first counter that differs decides. -/
def Lt : {n : Nat} → Effort n → Effort n → Prop
  | 0, _, _ => False
  | _ + 1, a, b => Prod.Lex (· < ·) Lt a b

/-- There is no endless descent. -/
theorem wellFounded : {n : Nat} → WellFounded (@Lt n)
  | 0 => ⟨fun _ => ⟨_, fun _ h => h.elim⟩⟩
  | n + 1 => (Prod.lex Nat.lt_wfRel ⟨Lt, wellFounded (n := n)⟩).wf

instance (n : Nat) : WellFoundedRelation (Effort n) := ⟨Lt, wellFounded⟩

/-- A list of counters as a vector, padded with zeros or cut off. -/
def ofList : (n : Nat) → List Nat → Effort n
  | 0, _ => ()
  | n + 1, [] => (0, ofList n [])
  | n + 1, c :: rest => (c, ofList n rest)

/-- Zeros at the end do not count. -/
theorem ofList_append_zero : (n : Nat) → (counters : List Nat) →
    ofList n (counters ++ [0]) = ofList n counters
  | 0, _ => rfl
  | _ + 1, [] => rfl
  | n + 1, c :: rest => congrArg (Prod.mk c) (ofList_append_zero n rest)

/-- A counter inside the bound is lowered. -/
theorem ofList_append_lt : (n : Nat) → (bottom : List Nat) → {low high : Nat} →
    (above above' : List Nat) → bottom.length < n → low < high →
    Lt (ofList n (bottom ++ low :: above)) (ofList n (bottom ++ high :: above'))
  | _ + 1, [], _, _, _, _, _, lower => Prod.Lex.left _ _ lower
  | n + 1, c :: rest, _, _, above, above', inside, lower =>
    Prod.Lex.right c (ofList_append_lt n rest above above' (by simpa using inside) lower)

end Effort

end Federation
