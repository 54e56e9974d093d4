import Manuscript.Number.Depth
import Manuscript.Number.Segment
import Manuscript.Proofs.Number.Composition
import Manuscript.Proofs.Number.Printed
import Manuscript.Proofs.Text.Blank
import Manuscript.Proofs.Text.Numeral
import Mathlib.Data.List.TakeDrop
import Mathlib.Data.List.TakeWhile

/-!
# Texts that Name Segments

Which texts name a segment, which segment it is, and why the others name none.
A text is judged in three steps. Without the blanks around it, it has to be
written as the document asks for, with numerals that fit in a word; nothing is
said of the text but that it is malformed if it is not. The words are then the
components that the number is constructed from, so a zero among them is
reported like any other: the first one is named.

`SegmentNumber.Written` is the grammar. It gives the components a text is
written with, and a text has them in one way only. So each of the three answers
has a condition of its own, and the conditions exclude each other.

Reading undoes printing, whatever blanks stand around the printed number. In
the other direction leading zeros get lost: a text that names a segment is its
printed number but for them.

## Main definitions

* `SegmentNumber.Written`: A text without blanks around it that is written like a segment.
* `SegmentNumber.given`: The components of a segment's number.
* `SegmentNumber.Answers`: What is answered to components.
* `SegmentNumber.Fits`: A segment of a document with or without parts.

## Theorems

* `SegmentNumber.readWords?_eq_one_iff`, `SegmentNumber.readWords?_eq_two_iff`: Which texts are one
  numeral, and which are two.
* `SegmentNumber.Written.exists_answers`: A text that is written like a segment gets the answer to
  its components.
* `SegmentNumber.read_padded`: A printed number names its segment.
* `SegmentNumber.text_of_read`: A text that names a segment is its printed number but for zeros and
  blanks.
* `SegmentNumber.read_iff`: When each of the answers is given.
-/

namespace Manuscript

namespace SegmentNumber

/-! ### The grammar -/

/-- Text that is written like a segment of a document with or without parts, and the components that
    its numerals stand for: one numeral, or two joined by a dot where there are parts. Any number of
    zeros may lead, and what a numeral counts has to fit in a word. -/
inductive Written : Bool → List Char → List (ElementClass × UInt32) → Prop where
  | sect {d : List Char} {n : UInt32} (hd : Numeral.IsDecimal d)
      (hn : Numeral.value d = n.toNat) : Written false d [(.sect, n)]
  | part {d : List Char} {n : UInt32} (hd : Numeral.IsDecimal d)
      (hn : Numeral.value d = n.toNat) : Written true d [(.part, n)]
  | sectionInPart {d e : List Char} {m n : UInt32} (hd : Numeral.IsDecimal d)
      (hm : Numeral.value d = m.toNat) (he : Numeral.IsDecimal e)
      (hn : Numeral.value e = n.toNat) : Written true (d ++ '.' :: e) [(.part, m), (.sect, n)]

/-- The components that the number of a segment is constructed from. -/
def given : SegmentNumber → List (ElementClass × UInt32)
  | ofPart n => [(.part, n.position.word)]
  | ofSection n => SectionNumber.given (n.part?.map (·.position.word)) n.position.word

/-! ### One numeral or two -/

theorem dot_not_mem {d : List Char} (h : Numeral.IsDecimal d) : '.' ∉ d := by
  intro hdot
  exact absurd (h.digits '.' hdot) (by decide)

theorem readWords?_of_not_mem {cs : List Char} (h : '.' ∉ cs) :
    readWords? cs = (Numeral.readWord? cs).map (·, none) := by
  have hall : ∀ c ∈ cs, decide (c ≠ '.') = true :=
    fun c hc => decide_eq_true fun heq => h (heq ▸ hc)
  have hspan : cs.span (· ≠ '.') = (cs, []) := by
    rw [List.span_eq_takeWhile_dropWhile, List.takeWhile_eq_self_iff.mpr hall,
      List.dropWhile_eq_nil_iff.mpr hall]
  rw [readWords?, hspan]

theorem readWords?_append_dot {d : List Char} (h : '.' ∉ d) (e : List Char) :
    readWords? (d ++ '.' :: e) =
      (Numeral.readWord? d).bind fun m => (Numeral.readWord? e).map fun n => (m, some n) := by
  have hall : ∀ c ∈ d, decide (c ≠ '.') = true :=
    fun c hc => decide_eq_true fun heq => h (heq ▸ hc)
  have hspan : (d ++ '.' :: e).span (· ≠ '.') = (d, '.' :: e) := by
    rw [List.span_eq_takeWhile_dropWhile, List.takeWhile_append_of_pos hall,
      List.dropWhile_append_of_pos hall, List.takeWhile_cons_of_neg (by simp),
      List.dropWhile_cons_of_neg (by simp), List.append_nil]
  rw [readWords?, hspan]
  simp only
  cases Numeral.readWord? d with
  | none => rfl
  | some m => cases Numeral.readWord? e <;> rfl

/-- A single numeral is read from digits. -/
theorem readWords?_eq_one_iff {cs : List Char} {m : UInt32} :
    readWords? cs = some (m, none) ↔ Numeral.IsDecimal cs ∧ Numeral.value cs = m.toNat := by
  rw [← Numeral.readWord?_eq_some_iff]
  by_cases hdot : '.' ∈ cs
  · -- Where there is a dot there are two numerals or none.
    rcases List.eq_append_cons_of_mem hdot with ⟨d, e, rfl, hd⟩
    have hnone : Numeral.readWord? (d ++ '.' :: e) ≠ some m :=
      fun h => dot_not_mem (Numeral.readWord?_eq_some_iff.mp h).1 hdot
    refine ⟨fun h => ?_, fun h => absurd h hnone⟩
    rw [readWords?_append_dot hd] at h
    rcases Option.bind_eq_some_iff.mp h with ⟨_, -, hpair⟩
    rcases Option.map_eq_some_iff.mp hpair with ⟨_, -, heq⟩
    cases heq
  · rw [readWords?_of_not_mem hdot]
    cases Numeral.readWord? cs <;> simp

/-- Two numerals are read from digits on both sides of a dot. -/
theorem readWords?_eq_two_iff {cs : List Char} {m n : UInt32} :
    readWords? cs = some (m, some n) ↔ ∃ d e, cs = d ++ '.' :: e ∧
      (Numeral.IsDecimal d ∧ Numeral.value d = m.toNat) ∧
        Numeral.IsDecimal e ∧ Numeral.value e = n.toNat := by
  simp only [← Numeral.readWord?_eq_some_iff]
  constructor
  · intro h
    by_cases hdot : '.' ∈ cs
    · rcases List.eq_append_cons_of_mem hdot with ⟨d, e, rfl, hd⟩
      rw [readWords?_append_dot hd] at h
      rcases Option.bind_eq_some_iff.mp h with ⟨_, hm, hpair⟩
      rcases Option.map_eq_some_iff.mp hpair with ⟨_, hn, heq⟩
      cases heq
      exact ⟨d, e, rfl, hm, hn⟩
    · rw [readWords?_of_not_mem hdot] at h
      rcases Option.map_eq_some_iff.mp h with ⟨_, -, heq⟩
      cases heq
  · rintro ⟨d, e, rfl, hm, hn⟩
    rw [readWords?_append_dot (dot_not_mem (Numeral.readWord?_eq_some_iff.mp hm).1), hm, hn]
    rfl

/-! ### Answers -/

/-- What is answered to a text that is written with certain components: the segment that they
    number, if none of them is zero. -/
structure Answers (components : List (ElementClass × UInt32))
    (answer : Except ZeroComponent SegmentNumber) : Prop extends Constructs components answer where
  eq_ok_iff : ∀ n, answer = .ok n ↔ n.given = components

theorem answers_ofPart (m : UInt32) :
    Answers [(.part, m)] ((PartNumber.ofWord m).map ofPart) where
  toConstructs := (PartNumber.constructs m).map ofPart
  eq_ok_iff n := by
    rw [map_eq_ok_iff]
    constructor
    · rintro ⟨p, hp, rfl⟩
      rw [given, ← PartNumber.ofWord_eq_ok_iff.mp hp]
    · intro h
      cases n with
      | ofPart p =>
          refine ⟨p, PartNumber.ofWord_eq_ok_iff.mpr ?_, rfl⟩
          simpa [given] using h.symm
      | ofSection n =>
          -- The last component of a section is of another class.
          rcases n with ⟨_ | _, _⟩ <;> cases h

theorem answers_ofSection (m? : Option UInt32) (n : UInt32) :
    Answers (SectionNumber.given m? n) ((SectionNumber.ofWords m? n).map ofSection) where
  toConstructs := (SectionNumber.constructs m? n).map ofSection
  eq_ok_iff s := by
    rw [map_eq_ok_iff]
    constructor
    · rintro ⟨s, hs, rfl⟩
      rcases SectionNumber.ofWords_eq_ok_iff.mp hs with ⟨rfl, rfl⟩
      rfl
    · intro h
      cases s with
      | ofPart p => cases m? <;> cases h
      | ofSection s =>
          rcases SectionNumber.given_inj.mp h with ⟨hpart, hword⟩
          exact ⟨s, SectionNumber.ofWords_eq_ok_iff.mpr ⟨hpart.symm, hword.symm⟩, rfl⟩

/-- The components that words are taken for. -/
def componentsOf (hasParts : Bool) : UInt32 × Option UInt32 → List (ElementClass × UInt32)
  | (n, none) => [(if hasParts then .part else .sect, n)]
  | (m, some n) => SectionNumber.given (some m) n

theorem Written.map_readWords? {hasParts : Bool} {t : List Char}
    {components : List (ElementClass × UInt32)} (h : Written hasParts t components) :
    (readWords? t).map (componentsOf hasParts) = some components := by
  cases h with
  | sect hd hn =>
      rw [readWords?_eq_one_iff.mpr ⟨hd, hn⟩]
      rfl
  | part hd hn =>
      rw [readWords?_eq_one_iff.mpr ⟨hd, hn⟩]
      rfl
  | sectionInPart hd hm he hn =>
      rw [readWords?_eq_two_iff.mpr ⟨_, _, rfl, ⟨hd, hm⟩, he, hn⟩]
      rfl

/-- A text is written with one list of components only. -/
theorem Written.unique {hasParts : Bool} {t : List Char}
    {components others : List (ElementClass × UInt32)} (h : Written hasParts t components)
    (hothers : Written hasParts t others) : components = others :=
  Option.some.inj (h.map_readWords?.symm.trans hothers.map_readWords?)

section Answer

variable {text : String} {hasParts : Bool} {components : List (ElementClass × UInt32)}

/-- A text that is written like a segment gets the answer to its components. -/
theorem Written.exists_answers (h : Written hasParts (Text.trim text.toList) components) :
    ∃ answer, Answers components answer ∧ read text hasParts = answer.mapError .zero := by
  generalize ht : Text.trim text.toList = t at h
  cases h with
  | @sect _ n hd hn =>
      refine ⟨_, answers_ofSection none n, ?_⟩
      simp only [read, ht, readWords?_eq_one_iff.mpr ⟨hd, hn⟩]
  | @part _ n hd hn =>
      refine ⟨_, answers_ofPart n, ?_⟩
      simp only [read, ht, readWords?_eq_one_iff.mpr ⟨hd, hn⟩]
  | @sectionInPart d e m n hd hm he hn =>
      refine ⟨_, answers_ofSection (some m) n, ?_⟩
      simp only [read, ht, readWords?_eq_two_iff.mpr ⟨d, e, rfl, ⟨hd, hm⟩, he, hn⟩]

/-- Every other text is malformed. -/
theorem read_of_not_written
    (h : ¬∃ components, Written hasParts (Text.trim text.toList) components) :
    read text hasParts = .error (.malformed text) := by
  unfold read
  split
  -- Words that would be taken for components come from a text that is written with them.
  case h_1 n hwords =>
    rcases readWords?_eq_one_iff.mp hwords with ⟨hd, hn⟩
    exact absurd ⟨_, Written.sect hd hn⟩ h
  case h_2 n hwords =>
    rcases readWords?_eq_one_iff.mp hwords with ⟨hd, hn⟩
    exact absurd ⟨_, Written.part hd hn⟩ h
  case h_3 m n hwords =>
    rcases readWords?_eq_two_iff.mp hwords with ⟨d, e, ht, ⟨hd, hm⟩, he, hn⟩
    rw [ht] at h
    exact absurd ⟨_, Written.sectionInPart hd hm he hn⟩ h
  case h_4 => rfl
  case h_5 => rfl

theorem read_eq_ok_iff {n : SegmentNumber} :
    read text hasParts = .ok n ↔ Written hasParts (Text.trim text.toList) n.given := by
  by_cases h : ∃ components, Written hasParts (Text.trim text.toList) components
  · rcases h with ⟨components, h⟩
    rcases h.exists_answers with ⟨answer, hanswer, hread⟩
    have hok : answer.mapError SegmentError.zero = .ok n ↔ answer = .ok n := by
      cases answer <;> simp [Except.mapError]
    rw [hread, hok, hanswer.eq_ok_iff]
    -- The text is written with these components and with no others.
    exact ⟨fun heq => heq ▸ h, fun hn => hn.unique h⟩
  · rw [read_of_not_written h]
    exact ⟨fun hok => (nomatch hok), fun hn => absurd ⟨_, hn⟩ h⟩

theorem read_eq_zero_iff {e : ZeroComponent} :
    read text hasParts = .error (.zero e) ↔
      ∃ components, Written hasParts (Text.trim text.toList) components ∧
        firstZero? components = some e.component := by
  by_cases h : ∃ components, Written hasParts (Text.trim text.toList) components
  · rcases h with ⟨components, h⟩
    rcases h.exists_answers with ⟨answer, hanswer, hread⟩
    have herror : answer.mapError SegmentError.zero = .error (.zero e) ↔ answer = .error e := by
      cases answer <;> simp [Except.mapError]
    rw [hread, herror, hanswer.error_iff]
    constructor
    · exact fun hzero => ⟨components, h, hzero⟩
    · rintro ⟨others, hothers, hzero⟩
      rwa [h.unique hothers]
  · rw [read_of_not_written h]
    refine ⟨fun herror => (nomatch herror), ?_⟩
    rintro ⟨components, hc, -⟩
    exact absurd ⟨components, hc⟩ h

theorem read_eq_malformed_iff {quoted : String} :
    read text hasParts = .error (.malformed quoted) ↔
      quoted = text ∧ ¬∃ components, Written hasParts (Text.trim text.toList) components := by
  by_cases h : ∃ components, Written hasParts (Text.trim text.toList) components
  · refine ⟨fun herror => ?_, fun hnone => absurd h hnone.2⟩
    rcases h with ⟨components, h⟩
    rcases h.exists_answers with ⟨answer, -, hread⟩
    rw [hread] at herror
    cases answer <;> cases herror
  · rw [read_of_not_written h]
    refine ⟨fun herror => ?_, fun hquoted => by rw [hquoted.1]⟩
    cases herror
    exact ⟨rfl, h⟩

theorem exists_read_eq_ok_iff :
    (∃ n, read text hasParts = .ok n) ↔
      ∃ components, Written hasParts (Text.trim text.toList) components ∧
        ∀ component ∈ components, 1 ≤ component.2 := by
  constructor
  · rintro ⟨n, hn⟩
    have h := read_eq_ok_iff.mp hn
    rcases h.exists_answers with ⟨answer, hanswer, -⟩
    exact ⟨n.given, h, hanswer.ok_iff.mp ⟨n, (hanswer.eq_ok_iff n).mpr rfl⟩⟩
  · rintro ⟨components, h, hpositive⟩
    rcases h.exists_answers with ⟨answer, hanswer, hread⟩
    rcases hanswer.ok_iff.mpr hpositive with ⟨n, rfl⟩
    exact ⟨n, hread⟩

end Answer

/-! ### Printing -/

/-- A segment of a document with parts, or of one without. A part and a section in a part need
    parts, and a section in no part needs that there are none. -/
def Fits (hasParts : Bool) : SegmentNumber → Prop
  | ofPart _ => hasParts = true
  | ofSection n => n.part?.isSome = hasParts

theorem map_given (n : SegmentNumber) : n.given.map (·.2.toNat) = n.components := by
  cases n with
  | ofPart p => exact congrArg (fun k => [k]) p.position.toNat_word
  | ofSection s =>
      rcases s with ⟨_ | p, s⟩
      · exact congrArg (fun k => [k]) s.toNat_word
      · exact congr (congrArg (fun k j => [k, j]) p.position.toNat_word) s.toNat_word

theorem given_pos (n : SegmentNumber) : ∀ component ∈ n.given, 0 < component.2.toNat := by
  intro component hc
  have hmem : component.2.toNat ∈ n.components := by
    rw [← map_given]
    exact List.mem_map_of_mem hc
  exact Hierarchical.components_pos n _ hmem

/-- A printed number is written like the segment. -/
theorem written_text {n : SegmentNumber} {hasParts : Bool} (h : n.Fits hasParts) :
    Written hasParts n.text.toList n.given := by
  have hvalue (p : Position) : Numeral.value (Nat.toDigits 10 p.val) = p.word.toNat := by
    rw [Numeral.value_toDigits, p.toNat_word]
  have hdecimal (p : Position) : Numeral.IsDecimal (Nat.toDigits 10 p.val) :=
    Numeral.isDecimal_toDigits p.val
  rw [text, toList_dotted]
  cases n with
  | ofPart p =>
      cases h
      show Written true (['.'].intercalate [Nat.toDigits 10 p.position.val]) _
      rw [List.intercalate_singleton]
      exact .part (hdecimal p.position) (hvalue p.position)
  | ofSection s =>
      rcases s with ⟨_ | p, s⟩
      · cases h
        show Written false (['.'].intercalate [Nat.toDigits 10 s.val]) _
        rw [List.intercalate_singleton]
        exact .sect (hdecimal s) (hvalue s)
      · cases h
        show Written true (['.'].intercalate
          [Nat.toDigits 10 p.position.val, Nat.toDigits 10 s.val]) _
        rw [List.intercalate_cons_cons, List.intercalate_singleton, List.append_assoc]
        exact .sectionInPart (hdecimal p.position) (hvalue p.position) (hdecimal s) (hvalue s)

theorem fits_of_written {n : SegmentNumber} {hasParts : Bool} {t : List Char}
    (h : Written hasParts t n.given) : n.Fits hasParts := by
  cases n with
  | ofPart p =>
      cases h
      rfl
  | ofSection s =>
      rcases s with ⟨_ | p, s⟩
      · cases h
        rfl
      · cases h
        rfl

namespace Written

variable {hasParts : Bool} {t : List Char} {components : List (ElementClass × UInt32)}

/-- There are no blanks, not even inside. -/
theorem isWord (h : Written hasParts t components) : Text.IsWord t := by
  have hdigits {d : List Char} (hd : Numeral.IsDecimal d) : Text.IsWord d :=
    fun c hc => isBlank_of_isDigit (hd.digits c hc)
  cases h with
  | sect hd _ => exact hdigits hd
  | part hd _ => exact hdigits hd
  | sectionInPart hd _ he _ =>
      intro c hc
      rcases List.mem_append.mp hc with hc | hc
      · exact hdigits hd c hc
      · rcases List.mem_cons.mp hc with rfl | hc
        · decide
        · exact hdigits he c hc

/-- Cut at its dots, the text falls into one numeral for each component. -/
theorem map_dropWhile_splitOn (h : Written hasParts t components)
    (hpos : ∀ component ∈ components, 0 < component.2.toNat) :
    (t.splitOn '.').map (·.dropWhile (· = '0')) =
      components.map (Nat.toDigits 10 ·.2.toNat) := by
  have hpiece {d : List Char} {n : UInt32} (hd : Numeral.IsDecimal d)
      (hn : Numeral.value d = n.toNat) (hn' : 0 < n.toNat) :
      d.dropWhile (· = '0') = Nat.toDigits 10 n.toNat := by
    rw [← hn] at hn' ⊢
    exact (Numeral.toDigits_value_eq_dropWhile hd hn').symm
  have hone {c : ElementClass} {d : List Char} {n : UInt32} (hd : Numeral.IsDecimal d)
      (hn : Numeral.value d = n.toNat) (hn' : 0 < n.toNat) :
      (d.splitOn '.').map (·.dropWhile (· = '0')) = [(c, n)].map (Nat.toDigits 10 ·.2.toNat) := by
    rw [List.splitOn_eq_singleton (dot_not_mem hd), List.map_singleton, List.map_singleton,
      hpiece hd hn hn']
  cases h with
  | sect hd hn => exact hone hd hn (hpos _ List.mem_cons_self)
  | part hd hn => exact hone hd hn (hpos _ List.mem_cons_self)
  | sectionInPart hd hm he hn =>
      rw [List.forall_mem_cons, List.forall_mem_singleton] at hpos
      rw [List.splitOn_append_cons_self_of_not_mem (dot_not_mem hd), List.map_cons,
        hpiece hd hm hpos.1, hone he hn hpos.2]
      rfl

end Written

/-- Blanks around a printed number do not count, and nothing else is needed to read it. -/
theorem read_padded {n : SegmentNumber} {hasParts : Bool} (h : n.Fits hasParts)
    {before after : List Char} (hbefore : Text.IsGap before) (hafter : Text.IsGap after) :
    read (String.ofList (before ++ n.text.toList ++ after)) hasParts = .ok n := by
  have hwritten := written_text h
  rw [read_eq_ok_iff, String.toList_ofList, (hwritten.isWord.isTrimmed hbefore hafter).trim_eq]
  exact hwritten

theorem read_printed {n : SegmentNumber} {hasParts : Bool} (h : n.Fits hasParts) :
    read n.text hasParts = .ok n := by
  have hnothing : Text.IsGap [] := fun _ hc => nomatch hc
  have hpadded := read_padded h hnothing hnothing
  rwa [List.append_nil, List.nil_append, String.ofList_toList] at hpadded

/-- A text that names a segment is its printed number, but for the blanks around it and the zeros in
    front of its components. -/
theorem text_of_read {text : String} {hasParts : Bool} {n : SegmentNumber}
    (h : read text hasParts = .ok n) :
    n.Fits hasParts ∧ ∃ t, Text.IsTrimmed text.toList t ∧
      n.text.toList = ['.'].intercalate ((t.splitOn '.').map (·.dropWhile (· = '0'))) := by
  have hwritten := read_eq_ok_iff.mp h
  refine ⟨fits_of_written hwritten, _, Text.isTrimmed_trim text.toList, ?_⟩
  rw [hwritten.map_dropWhile_splitOn n.given_pos, SegmentNumber.text, toList_dotted, ← map_given,
    List.map_map]
  rfl

/-- The three answers, each with its own condition. The text without the blanks around it is
    written with components or it is not. If it is and all of them are positive, the segment that
    they number is named; if one is zero, the first that is gets reported. If it is not, the text is
    quoted as it came, blanks included. -/
theorem read_iff (text : String) (hasParts : Bool) :
    ((∃ n, read text hasParts = .ok n) ↔
      ∃ t components, Text.IsTrimmed text.toList t ∧ Written hasParts t components ∧
        ∀ component ∈ components, 1 ≤ component.2) ∧
    (∀ n, read text hasParts = .ok n ↔
      ∃ t, Text.IsTrimmed text.toList t ∧ Written hasParts t n.given) ∧
    (∀ e, read text hasParts = .error (.zero e) ↔
      ∃ t components, Text.IsTrimmed text.toList t ∧ Written hasParts t components ∧
        firstZero? components = some e.component) ∧
    ∀ quoted, read text hasParts = .error (.malformed quoted) ↔
      quoted = text ∧
        ¬∃ t components, Text.IsTrimmed text.toList t ∧ Written hasParts t components := by
  simp only [← Text.trim_eq_iff, exists_and_left, exists_eq_left']
  exact ⟨exists_read_eq_ok_iff, fun _ => read_eq_ok_iff, fun _ => read_eq_zero_iff,
    fun _ => read_eq_malformed_iff⟩

end SegmentNumber

end Manuscript
