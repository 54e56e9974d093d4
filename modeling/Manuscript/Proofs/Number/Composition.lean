import Manuscript.Number.Item

/-!
# Composition of Numbers

A number is made in one of two ways. It is constructed at once from raw words,
any of which may be zero, or it is composed from the outermost component in,
where each step extends a number by a position. The two have to agree on every
shape that a number can have.

A constructor looks at its words in the order of the components and stops at
the first that is zero. `Constructs` says so of an answer and a list of
components, whatever the components are used for. A look at one word has this
property, and so has one computation after another for the one list after the
other, which is how every constructor is made.

The shapes are those of a scope, with or without a part and with or without a
subsection. `Scope.Composed` lists them with the steps that lead there, and
the number of an item only adds its position to one of them.

## Main definitions

* `Position.word`: A position as a raw word.
* `firstZero?`: The class of the first component that is zero.
* `Constructs`: An answer fails at the first component that is zero, and at nothing else.
* `Scope.Composed`: The scope that is composed step by step from raw words.

## Theorems

* `Constructs.bind`: One check after another checks both lists of components.
* `Scope.ofWords_eq_ok_iff`: A scope that is constructed is the one that is composed.
* `ItemNumber.ofWords_eq_ok_iff`: So is the number of an item.
* `ItemNumber.ofWords_composed`: Construction and composition agree.
-/

namespace Manuscript

/-! ### Answers that are no failure -/

theorem bind_eq_ok_iff {ε α β : Type} {answer : Except ε α} {next : α → Except ε β} {b : β} :
    (answer >>= next) = .ok b ↔ ∃ a, answer = .ok a ∧ next a = .ok b := by
  cases answer <;> simp [Bind.bind, Except.bind]

theorem map_eq_ok_iff {ε α β : Type} {answer : Except ε α} {f : α → β} {b : β} :
    answer.map f = .ok b ↔ ∃ a, answer = .ok a ∧ f a = b := by
  cases answer <;> simp [Except.map]

/-! ### Positions as words -/

namespace Position

/-- The position as a raw word. -/
def word (p : Position) : UInt32 := UInt32.ofNat p.val

theorem toNat_word (p : Position) : p.word.toNat = p.val :=
  UInt32.toNat_ofNat_of_lt' (Nat.lt_succ_of_le p.le_limit)

theorem ofWord?_eq_some_iff {w : UInt32} {p : Position} : ofWord? w = some p ↔ w = p.word := by
  rw [← UInt32.toNat_inj, toNat_word]
  unfold ofWord?
  split
  case isTrue h =>
    rw [Option.some.injEq]
    exact ⟨fun heq => congrArg val heq, fun heq => ext heq⟩
  case isFalse h =>
    refine ⟨fun heq => (Option.some_ne_none p heq.symm).elim, fun heq => ?_⟩
    exact absurd (heq ▸ p.pos) h

theorem ofWord_eq_ok_iff {c : ElementClass} {w : UInt32} {p : Position} :
    ofWord c w = .ok p ↔ w = p.word := by
  rw [← ofWord?_eq_some_iff, ofWord]
  cases ofWord? w <;> simp

theorem ofWord_eq_error_iff {c : ElementClass} {w : UInt32} {e : ZeroComponent} :
    ofWord c w = .error e ↔ w = 0 ∧ c = e.component := by
  have hzero : ofWord? w = none ↔ w = 0 := by
    rw [← UInt32.toNat_inj, ofWord?, dite_eq_right_iff]
    exact ⟨fun h => Nat.eq_zero_of_not_pos fun hpos => Option.some_ne_none _ (h hpos),
      fun h hpos => absurd h (Nat.ne_of_gt hpos)⟩
  rw [← hzero, ofWord]
  cases e
  cases ofWord? w <;> simp

theorem ofWordIfAny_eq_ok_iff {c : ElementClass} {w? : Option UInt32} {p? : Option Position} :
    ofWordIfAny c w? = .ok p? ↔ w? = p?.map word := by
  cases w? with
  | none => cases p? <;> simp [ofWordIfAny]
  | some w =>
      simp only [ofWordIfAny, map_eq_ok_iff, ofWord_eq_ok_iff]
      cases p? <;> simp

end Position

/-! ### Checks of components -/

/-- The class of the first component that is zero. -/
def firstZero? (components : List (ElementClass × UInt32)) : Option ElementClass :=
  (components.find? fun component => component.2 = 0).map Prod.fst

/-- An answer that depends on components being positive: it fails if one of them is zero, and the
    failure names the first that is. -/
structure Constructs {α : Type} (components : List (ElementClass × UInt32))
    (answer : Except ZeroComponent α) : Prop where
  ok_iff : (∃ n, answer = .ok n) ↔ ∀ component ∈ components, 1 ≤ component.2
  error_iff : ∀ e, answer = .error e ↔ firstZero? components = some e.component

theorem firstZero?_eq_none_iff {components : List (ElementClass × UInt32)} :
    firstZero? components = none ↔ ∀ component ∈ components, 1 ≤ component.2 := by
  rw [firstZero?, Option.map_eq_none_iff, List.find?_eq_none]
  refine forall_congr' fun component => forall_congr' fun _ => ?_
  rw [decide_eq_true_iff, ← UInt32.toNat_inj, UInt32.le_iff_toNat_le]
  exact Nat.pos_iff_ne_zero.symm

theorem firstZero?_append (components more : List (ElementClass × UInt32)) :
    firstZero? (components ++ more) = (firstZero? components).or (firstZero? more) := by
  rw [firstZero?, List.find?_append, Option.map_or]
  rfl

namespace Constructs

variable {α β : Type} {components more : List (ElementClass × UInt32)}

/-- Which failures there are decides when there is none. -/
theorem of_error_iff {answer : Except ZeroComponent α}
    (h : ∀ e, answer = .error e ↔ firstZero? components = some e.component) :
    Constructs components answer := by
  refine ⟨?_, h⟩
  rw [← firstZero?_eq_none_iff]
  cases answer with
  | ok n =>
      refine ⟨fun _ => ?_, fun _ => ⟨n, rfl⟩⟩
      cases hzero : firstZero? components with
      | none => rfl
      | some c => exact nomatch (h ⟨c⟩).mpr hzero
  | error e =>
      refine ⟨fun hok => (nomatch hok), fun hnone => ?_⟩
      exact absurd (hnone.symm.trans ((h e).mp rfl)) (Option.some_ne_none _).symm

theorem nothing (n : α) : Constructs [] (pure n) :=
  of_error_iff fun _ => ⟨fun h => (nomatch h), fun h => (nomatch h)⟩

theorem map {answer : Except ZeroComponent α} (h : Constructs components answer) (f : α → β) :
    Constructs components (answer.map f) := by
  refine of_error_iff fun e => ?_
  rw [← h.error_iff e]
  cases answer <;> simp [Except.map]

/-- What comes after a failure is not looked at. -/
theorem bind {answer : Except ZeroComponent α} {next : α → Except ZeroComponent β}
    (h : Constructs components answer) (hnext : ∀ n, Constructs more (next n)) :
    Constructs (components ++ more) (answer >>= next) := by
  refine of_error_iff fun e => ?_
  rw [firstZero?_append]
  cases answer with
  | ok n =>
      have hnone := firstZero?_eq_none_iff.mpr (h.ok_iff.mp ⟨n, rfl⟩)
      rw [hnone, Option.none_or]
      exact (hnext n).error_iff e
  | error f =>
      rw [(h.error_iff f).mp rfl, Option.some_or, Option.some.injEq]
      cases e
      cases f
      simp [Bind.bind, Except.bind]

theorem ofWord (c : ElementClass) (w : UInt32) : Constructs [(c, w)] (Position.ofWord c w) := by
  refine of_error_iff fun e => ?_
  rw [Position.ofWord_eq_error_iff, firstZero?, List.find?_singleton]
  by_cases hw : w = 0 <;> simp [hw]

theorem ofWordIfAny (c : ElementClass) (w? : Option UInt32) :
    Constructs (w?.map (c, ·)).toList (Position.ofWordIfAny c w?) := by
  cases w? with
  | none => exact nothing none
  | some w => exact (ofWord c w).map some

end Constructs

/-! ### Constructors -/

/-- The components that a section number is constructed from. -/
def SectionNumber.given (part? : Option UInt32) (word : UInt32) : List (ElementClass × UInt32) :=
  (part?.map (.part, ·)).toList ++ [(.sect, word)]

theorem SectionNumber.given_inj {part? other? : Option UInt32} {word other : UInt32} :
    given part? word = given other? other ↔ part? = other? ∧ word = other := by
  cases part? <;> cases other? <;> simp [given]

/-- The components that a scope is constructed from. -/
def Scope.given (part? : Option UInt32) (outer : UInt32) (inner? : Option UInt32) :
    List (ElementClass × UInt32) :=
  SectionNumber.given part? outer ++ (inner?.map (.subsect, ·)).toList

theorem PartNumber.constructs (word : UInt32) :
    Constructs [(.part, word)] (PartNumber.ofWord word) :=
  (Constructs.ofWord .part word).bind fun p => .nothing (PartNumber.mk p)

theorem SectionNumber.constructs (part? : Option UInt32) (word : UInt32) :
    Constructs (given part? word) (SectionNumber.ofWords part? word) :=
  (Constructs.ofWordIfAny .part part?).bind fun _ =>
    (Constructs.ofWord .sect word).bind fun _ => .nothing _

theorem SubsectionNumber.constructs (part? : Option UInt32) (outer inner : UInt32) :
    Constructs (SectionNumber.given part? outer ++ [(.subsect, inner)])
      (SubsectionNumber.ofWords part? outer inner) :=
  (SectionNumber.constructs part? outer).bind fun _ =>
    (Constructs.ofWord .subsect inner).bind fun _ => .nothing _

theorem Scope.constructs (part? : Option UInt32) (outer : UInt32) (inner? : Option UInt32) :
    Constructs (given part? outer inner?) (Scope.ofWords part? outer inner?) := by
  refine (SectionNumber.constructs part? outer).bind fun parent => ?_
  rw [← List.append_nil (inner?.map _).toList]
  refine (Constructs.ofWordIfAny .subsect inner?).bind fun place? => ?_
  cases place? with
  | none => exact .nothing _
  | some p => exact .nothing _

theorem ItemNumber.constructs (c : ItemClass) (part? : Option UInt32) (outer : UInt32)
    (inner? : Option UInt32) (place : UInt32) :
    Constructs (Scope.given part? outer inner? ++ [(c.element, place)])
      (ItemNumber.ofWords (c := c) part? outer inner? place) :=
  (Scope.constructs part? outer inner?).bind fun _ =>
    (Constructs.ofWord c.element place).bind fun _ => .nothing _

/-! ### Composition step by step -/

/-- The scope that is composed of the positions that raw words name. Each of its four shapes is
    reached by steps that add one component. -/
inductive Scope.Composed : Option UInt32 → UInt32 → Option UInt32 → Scope → Prop where
  | sect (s : Position) : Composed none s.word none (.ofSection ⟨none, s⟩)
  | partSection (p : PartNumber) (s : Position) :
      Composed (some p.position.word) s.word none (.ofSection (p.sectionAt s))
  | sectionSubsection (s i : Position) :
      Composed none s.word (some i.word) (.ofSubsection (SectionNumber.subsectionAt ⟨none, s⟩ i))
  | partSectionSubsection (p : PartNumber) (s i : Position) :
      Composed (some p.position.word) s.word (some i.word)
        (.ofSubsection ((p.sectionAt s).subsectionAt i))

/-- A scope is composed of its own components and of no others. -/
theorem Scope.composed_iff {part? inner? : Option UInt32} {outer : UInt32} {s : Scope} :
    Composed part? outer inner? s ↔
      part? = s.part?.map (·.position.word) ∧ outer = s.sectionNumber.position.word ∧
        inner? = s.subsection?.map Position.word := by
  constructor
  · intro h
    cases h <;> exact ⟨rfl, rfl, rfl⟩
  · rintro ⟨rfl, rfl, rfl⟩
    cases s with
    | ofSection n =>
        rcases n with ⟨part?, position⟩
        cases part? with
        | none => exact .sect position
        | some p => exact .partSection p position
    | ofSubsection n =>
        rcases n with ⟨⟨part?, position⟩, inner⟩
        cases part? with
        | none => exact .sectionSubsection position inner
        | some p => exact .partSectionSubsection p position inner

theorem SectionNumber.ofWords_eq_ok_iff {part? : Option UInt32} {word : UInt32}
    {n : SectionNumber} : SectionNumber.ofWords part? word = .ok n ↔
      part? = n.part?.map (·.position.word) ∧ word = n.position.word := by
  simp only [SectionNumber.ofWords, bind_eq_ok_iff, Position.ofWordIfAny_eq_ok_iff,
    Position.ofWord_eq_ok_iff]
  constructor
  · rintro ⟨q?, rfl, position, rfl, heq⟩
    cases heq
    exact ⟨(Option.map_map (fun p : PartNumber => p.position.word) PartNumber.mk q?).symm, rfl⟩
  · rintro ⟨rfl, rfl⟩
    refine ⟨n.part?.map PartNumber.position,
      (Option.map_map Position.word PartNumber.position n.part?).symm, n.position, rfl, ?_⟩
    have hsame : (n.part?.map PartNumber.position).map PartNumber.mk = n.part? := by
      cases n.part? <;> rfl
    exact congrArg (Except.ok <| SectionNumber.mk · n.position) hsame

theorem PartNumber.ofWord_eq_ok_iff {word : UInt32} {n : PartNumber} :
    PartNumber.ofWord word = .ok n ↔ word = n.position.word := by
  simp only [PartNumber.ofWord, bind_eq_ok_iff, Position.ofWord_eq_ok_iff]
  constructor
  · rintro ⟨position, rfl, heq⟩
    cases heq
    rfl
  · rintro rfl
    exact ⟨n.position, rfl, rfl⟩

theorem SubsectionNumber.ofWords_eq_ok_iff {part? : Option UInt32} {outer inner : UInt32}
    {n : SubsectionNumber} : SubsectionNumber.ofWords part? outer inner = .ok n ↔
      SectionNumber.ofWords part? outer = .ok n.parent ∧ inner = n.position.word := by
  simp only [SubsectionNumber.ofWords, bind_eq_ok_iff, Position.ofWord_eq_ok_iff]
  constructor
  · rintro ⟨parent, hparent, position, rfl, heq⟩
    cases heq
    exact ⟨hparent, rfl⟩
  · rintro ⟨hparent, rfl⟩
    exact ⟨n.parent, hparent, n.position, rfl, rfl⟩

theorem Scope.ofWords_eq_ok_iff {part? inner? : Option UInt32} {outer : UInt32} {s : Scope} :
    Scope.ofWords part? outer inner? = .ok s ↔ Composed part? outer inner? s := by
  simp only [Scope.ofWords, bind_eq_ok_iff, Position.ofWordIfAny_eq_ok_iff,
    SectionNumber.ofWords_eq_ok_iff, composed_iff]
  constructor
  · rintro ⟨parent, ⟨rfl, rfl⟩, place?, rfl, heq⟩
    cases place? <;> cases heq <;> exact ⟨rfl, rfl, rfl⟩
  · rintro ⟨rfl, rfl, rfl⟩
    refine ⟨s.sectionNumber, ⟨rfl, rfl⟩, s.subsection?, rfl, ?_⟩
    cases s <;> rfl

theorem ItemNumber.ofWords_eq_ok_iff {c : ItemClass} {part? inner? : Option UInt32}
    {outer place : UInt32} {n : ItemNumber c} :
    ItemNumber.ofWords part? outer inner? place = .ok n ↔
      Scope.Composed part? outer inner? n.scope ∧ place = n.position.word := by
  simp only [ItemNumber.ofWords, bind_eq_ok_iff, Scope.ofWords_eq_ok_iff,
    Position.ofWord_eq_ok_iff]
  constructor
  · rintro ⟨s, hs, position, rfl, heq⟩
    cases heq
    exact ⟨hs, rfl⟩
  · rintro ⟨hs, rfl⟩
    exact ⟨n.scope, hs, n.position, rfl, rfl⟩

/-- What is asked of the numbers of one class of items, where `extend` is the step from a scope to
    the number of an item in it. -/
structure ItemNumber.Agrees (c : ItemClass) (extend : Scope → Position → ItemNumber c) : Prop where
  /-- Construction fails at the first component that is zero, and at nothing else. -/
  constructs (part? : Option UInt32) (outer : UInt32) (inner? : Option UInt32) (place : UInt32) :
    Constructs (Scope.given part? outer inner? ++ [(c.element, place)])
      (ItemNumber.ofWords part? outer inner? place : Except ZeroComponent (ItemNumber c))
  /-- The number that is constructed is the one that is composed. -/
  ofWords_eq_ok_iff (part? : Option UInt32) (outer : UInt32) (inner? : Option UInt32)
      (place : UInt32) (n : ItemNumber c) :
    ItemNumber.ofWords part? outer inner? place = .ok n ↔
      ∃ s k, Scope.Composed part? outer inner? s ∧ place = Position.word k ∧ n = extend s k
  scope_extend (s : Scope) (k : Position) : (extend s k).scope = s
  position_extend (s : Scope) (k : Position) : (extend s k).position = k
  components_extend (s : Scope) (k : Position) : (extend s k).components = s.components ++ [k.val]
  extend_scope (n : ItemNumber c) : extend n.scope n.position = n

end Manuscript
