/-!
# Positions

A position says where an element stands among its siblings: the first has
position one, the next two, and so on. Positions are held in one machine word,
so counting stops at `Position.limit` instead of wrapping round to zero. That
is why both `next` and `previous?` have to say what happens at an end: the
successor of the last position is that position again, and nothing precedes
the first one.

Raw numbers come in as words, where the single value that names no position is
zero. `ZeroComponent` records which component of a number held it.

## Main definitions

* `Position`: A positive count that fits in a word.
* `Position.next`: The following position, saturating at the limit.
* `Position.previous?`: The preceding position, if there is one.
* `Position.ofWord?`: The position a raw word names.
* `ElementClass`: The five classes of numbered elements.
* `ZeroComponent`: The reason a raw number is refused.

## Theorems

* `Position.val_next`: What the successor holds.
* `Position.next_of_lt`: Below the limit the successor adds one.
* `Position.previous?_next`: Below the limit, stepping forth and back returns.
-/

namespace Manuscript

/-- The classes of elements that carry a number. -/
inductive ElementClass where
  | part
  | sect
  | subsect
  | paragraph
  | formalItem
deriving DecidableEq, Repr

namespace ElementClass

/-- The word by which messages and reports refer to the class. -/
def name : ElementClass → String
  | part => "part"
  | sect => "section"
  | subsect => "subsection"
  | paragraph => "paragraph"
  | formalItem => "formal item"

end ElementClass

/-- A component of a raw number was zero, so it names no position. -/
structure ZeroComponent where
  /-- The class of element the component counts. -/
  component : ElementClass
deriving DecidableEq, Repr

namespace ZeroComponent

/-- The refused value. Words are never negative, so only zero is refused. -/
def value (_ : ZeroComponent) : Nat := 0

/-- The sentence that reports the refusal. -/
def message (e : ZeroComponent) : String :=
  e.component.name ++ " number must be positive, got " ++ toString e.value

end ZeroComponent

/-- The place of an element among its siblings, counted from one. -/
structure Position where
  /-- The count. -/
  val : Nat
  /-- Counting starts at one. -/
  pos : 0 < val
  /-- A position fits in a word. -/
  le_limit : val ≤ 4294967295
deriving DecidableEq, Repr

namespace Position

/-- The last position there is, the greatest word. -/
def limit : Nat := 4294967295

/-- The position of a first element. -/
def first : Position := ⟨1, by decide, by decide⟩

instance : Inhabited Position := ⟨first⟩

instance : Ord Position := ⟨compareOn Position.val⟩

/-- The position after this one. The last position is followed by itself. -/
def next (p : Position) : Position :=
  if h : p.val < limit then ⟨p.val + 1, Nat.succ_pos _, h⟩ else p

/-- The position before this one; nothing precedes the first. -/
def previous? (p : Position) : Option Position :=
  if h : 1 < p.val then
    some ⟨p.val - 1, Nat.sub_pos_of_lt h, Nat.le_trans (Nat.sub_le _ _) p.le_limit⟩
  else none

/-- The position a word names, if it is not zero. -/
def ofWord? (w : UInt32) : Option Position :=
  if h : 0 < w.toNat then some ⟨w.toNat, h, Nat.le_of_lt_succ w.toNat_lt⟩ else none

/-- The position a word names, blaming `component` when it is zero. -/
def ofWord (component : ElementClass) (w : UInt32) : Except ZeroComponent Position :=
  match ofWord? w with
  | some p => .ok p
  | none => .error ⟨component⟩

/-- As `ofWord`, for a component that may be left out. -/
def ofWordIfAny (component : ElementClass) : Option UInt32 → Except ZeroComponent (Option Position)
  | none => .ok none
  | some w => (ofWord component w).map some

/-- The element of `items` that stands at this position. -/
def of? {α : Type} (p : Position) (items : List α) : Option α := items[p.val - 1]?

theorem ext {p q : Position} (h : p.val = q.val) : p = q := by
  cases p; cases q; cases h; rfl

theorem val_next (p : Position) : p.next.val = min (p.val + 1) limit := by
  have := p.le_limit
  unfold next limit
  split
  · show p.val + 1 = _
    omega
  · omega

theorem next_of_lt {p : Position} (h : p.val < limit) : p.next.val = p.val + 1 := by
  rw [val_next]
  unfold limit at *
  omega

theorem previous?_next {p : Position} (h : p.val < limit) : p.next.previous? = some p := by
  have hv := next_of_lt h
  have hp := p.pos
  unfold previous?
  rw [dif_pos (by omega)]
  exact congrArg some (ext (by show p.next.val - 1 = p.val; omega))

end Position

end Manuscript
