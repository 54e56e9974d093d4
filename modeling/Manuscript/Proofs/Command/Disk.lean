import Mathlib.Data.List.Infix
import Manuscript.Command.Workspace
import Manuscript.Proofs.Command.Path

/-!
# Files Beside Each Other

What the operations of saving do to a disk, for two paths of which one leads to
a file and the other to its temporary file.

A folder is there because of the files below it, so putting a file somewhere
could make a folder, and taking one away could end one. Neither happens where
another file of the same folder stays or comes: `SameFolders` holds between the
disks before and after each operation of saving. Walks depend on folders alone
as long as they get on, hence they lead to the same places before and after.

Where a walk does not get on, the fault also depends on whether a file is in the
way. The temporary file could be in the way only if the path of the file went
through it, and that is not so, because the folder that the two paths share is
a folder.

## Main definitions

* `Disk.SameFolders`: Two disks have the same folders.
* `Disk.Shares`: The path of a file and that of its temporary file lead to one folder.

## Theorems

* `Disk.sameFolders_insert`, `Disk.sameFolders_move`: Folders stay.
* `Disk.exists_shares`: Where a temporary file can be put, it shares the folder of the file.
* `Disk.Shares.fetch_insert`: The temporary file can change, and the file does not.
* `Disk.Shares.rename`: The temporary file takes the place of the file.
-/

namespace Manuscript

namespace Disk

variable {d d' : Disk} {path : String} {p q folder : Place}

/-! ### Files -/

@[simp]
theorem contents?_insert_self (d : Disk) (p : Place) (bytes : ByteArray) :
    (d.insert p bytes).contents? p = some bytes := by
  simp [insert, contents?]

theorem lookup_filter_ne (files : List (Place × ByteArray)) (h : q ≠ p) :
    (files.filter (·.1 != p)).lookup q = files.lookup q := by
  induction files with
  | nil => rfl
  | cons file rest ih =>
      rcases file with ⟨r, bytes⟩
      by_cases hr : r = p
      · have hq : (q == r) = false := beq_eq_false_iff_ne.mpr fun heq => h (heq.trans hr)
        rw [List.filter_cons_of_neg (by simp [hr]), ih, List.lookup_cons, hq]
      · rw [List.filter_cons_of_pos (by simp [hr]), List.lookup_cons, List.lookup_cons, ih]

theorem contents?_insert_of_ne (d : Disk) (bytes : ByteArray) (h : q ≠ p) :
    (d.insert p bytes).contents? q = d.contents? q := by
  have hq : (q == p) = false := beq_eq_false_iff_ne.mpr h
  rw [contents?, insert, List.lookup_cons, hq]
  exact lookup_filter_ne d.files h

theorem contents?_erase_self (d : Disk) (p : Place) : (d.erase p).contents? p = none := by
  rw [contents?, erase, List.lookup_eq_none_iff]
  intro file hfile
  have hne : file.1 ≠ p := by simpa using (List.mem_filter.mp hfile).2
  exact bne_iff_ne.mpr hne.symm

@[simp]
theorem insert_insert (d : Disk) (p : Place) (first second : ByteArray) :
    (d.insert p first).insert p second = d.insert p second := by
  simp [insert]

/-! ### Folders -/

/-- The places of the files. -/
def places (d : Disk) : List Place := d.files.map Prod.fst

theorem isFolder_iff : d.isFolder p = true ↔
    p.isFixed = true ∨ ∃ q ∈ d.places, q ≠ p ∧ p <:+ q := by
  simp [isFolder, places]

/-- A folder is in folders only. -/
theorem isFolder_of_suffix (h : d.isFolder p = true) (hq : q <:+ p) : d.isFolder q = true := by
  rcases isFolder_iff.mp h with hfixed | ⟨file, hfile, hne, hp⟩
  · refine isFolder_iff.mpr (.inl ?_)
    rw [Place.isFixed, Bool.or_eq_true] at hfixed ⊢
    rcases hfixed with hroot | hparents
    · -- Within the root there is only the folder the program runs in.
      rw [beq_iff_eq.mp hroot] at hq
      rcases List.suffix_cons_iff.mp hq with rfl | hnil
      · exact .inl rfl
      · rw [List.suffix_nil.mp hnil]
        exact .inr rfl
    · exact .inr (List.all_eq_true.mpr fun s hs => List.all_eq_true.mp hparents s (hq.subset hs))
  · refine isFolder_iff.mpr (.inr ⟨file, hfile, ?_, hq.trans hp⟩)
    rintro rfl
    exact hne (hp.eq_of_length_le hq.length_le).symm

/-- The disks have the same folders. -/
def SameFolders (d' d : Disk) : Prop := ∀ p, d'.isFolder p = d.isFolder p

/-- The folders stay if all that happens is that a file is put into a folder and other files of the
    folder go. -/
theorem sameFolders_of_places {name : String} (hfolder : d.isFolder folder = true)
    (hput : name :: folder ∈ d'.places)
    (hold : ∀ q ∈ d'.places, q = name :: folder ∨ q ∈ d.places)
    (hgone : ∀ q ∈ d.places, q ∈ d'.places ∨ ∃ other, q = other :: folder) :
    d'.SameFolders d := by
  intro p
  rw [Bool.eq_iff_iff]
  constructor
  · intro h
    rcases isFolder_iff.mp h with hfixed | ⟨q, hq, hne, hp⟩
    · exact isFolder_iff.mpr (.inl hfixed)
    · rcases hold q hq with rfl | hq
      · rcases List.suffix_cons_iff.mp hp with heq | hp
        · exact absurd heq.symm hne
        · exact isFolder_of_suffix hfolder hp
      · exact isFolder_iff.mpr (.inr ⟨q, hq, hne, hp⟩)
  · intro h
    rcases isFolder_iff.mp h with hfixed | ⟨q, hq, hne, hp⟩
    · exact isFolder_iff.mpr (.inl hfixed)
    · rcases hgone q hq with hq | ⟨other, rfl⟩
      · exact isFolder_iff.mpr (.inr ⟨q, hq, hne, hp⟩)
      · -- The file that was put into the folder keeps every folder above it.
        rcases List.suffix_cons_iff.mp hp with heq | hp
        · exact absurd heq.symm hne
        · refine isFolder_iff.mpr (.inr ⟨name :: folder, hput, ?_, hp.trans (List.suffix_cons ..)⟩)
          rintro rfl
          exact absurd hp.length_le (by simp)

theorem mem_places_insert {bytes : ByteArray} :
    q ∈ (d.insert p bytes).places ↔ q = p ∨ q ∈ d.places := by
  by_cases h : q = p
  · simp [insert, places, h]
  · simp [insert, places, h]

theorem mem_places_erase : q ∈ (d.erase p).places ↔ q ≠ p ∧ q ∈ d.places := by
  simp [erase, places, and_comm]

theorem sameFolders_insert {name : String} (hfolder : d.isFolder folder = true)
    (bytes : ByteArray) : (d.insert (name :: folder) bytes).SameFolders d :=
  sameFolders_of_places hfolder (mem_places_insert.mpr (.inl rfl))
    (fun _ hq => mem_places_insert.mp hq) fun _ hq => .inl (mem_places_insert.mpr (.inr hq))

theorem sameFolders_move {name other : String} (hfolder : d.isFolder folder = true)
    (bytes : ByteArray) : ((d.erase (other :: folder)).insert (name :: folder) bytes).SameFolders d := by
  refine sameFolders_of_places hfolder (mem_places_insert.mpr (.inl rfl)) ?_ ?_
  · intro q hq
    rcases mem_places_insert.mp hq with hq | hq
    · exact .inl hq
    · exact .inr (mem_places_erase.mp hq).2
  · intro q hq
    by_cases hother : q = other :: folder
    · exact .inr ⟨other, hother⟩
    · exact .inl (mem_places_insert.mpr (.inr (mem_places_erase.mpr ⟨hother, hq⟩)))

/-! ### Walks -/

/-- The place where the walk along a path starts. -/
def startOf (path : String) : Place := if Path.isAbsolute path then Place.root else []

/-- A path is refused as a text, whatever the disk, or it is walked from its start. -/
theorem walk_cases (path : String) :
    (∃ fault, ∀ (d : Disk) steps, d.walk path steps = .error fault) ∨
      ∀ (d : Disk) steps, d.walk path steps = steps.foldlM d.enter (startOf path) := by
  by_cases hnul : Path.hasNul path = true
  · exact .inl ⟨.nulInPath, fun d steps => by rw [walk, if_pos hnul]⟩
  · by_cases hsize : pathLimit < path.utf8ByteSize
    · exact .inl ⟨.nameTooLong, fun d steps => by rw [walk, if_neg hnul, if_pos hsize]⟩
    · exact .inr fun d steps => by rw [walk, if_neg hnul, if_neg hsize, startOf]

theorem enter_stays {step : String} (hp : d.isFolder p = true) (hstays : Path.stays step = true) :
    d.enter p step = .ok p := by
  have hsize : ¬nameLimit < step.utf8ByteSize := by
    rw [Path.stays, Bool.or_eq_true, decide_eq_true_iff, decide_eq_true_iff] at hstays
    rcases hstays with rfl | rfl <;> decide
  rw [enter, if_pos hp, if_neg hsize, if_pos hstays]

theorem foldlM_stays {steps : List String} (hp : d.isFolder p = true)
    (hstays : ∀ s ∈ steps, Path.stays s = true) : steps.foldlM d.enter p = .ok p := by
  induction steps with
  | nil => rfl
  | cons step rest ih =>
      rw [List.foldlM_cons, enter_stays hp (hstays step (by simp))]
      exact ih fun s hs => hstays s (by simp [hs])

theorem isFolder_of_enter {step : String} (h : d.enter p step = .ok q) : d.isFolder p = true := by
  by_cases hp : d.isFolder p = true
  · exact hp
  · rw [enter, if_neg hp] at h
    split at h
    · cases h
    · cases h

/-- A step from a folder leads to the same place on all disks on which it is one. -/
theorem enter_eq_of_isFolder {step : String} (hp : d.isFolder p = true)
    (hp' : d'.isFolder p = true) : d'.enter p step = d.enter p step := by
  rw [enter, enter, if_pos hp, if_pos hp']

theorem foldlM_enter_of_sameFolders (hsame : d'.SameFolders d) {steps : List String}
    (h : steps.foldlM d.enter p = .ok q) : steps.foldlM d'.enter p = .ok q := by
  induction steps generalizing p with
  | nil => exact h
  | cons step rest ih =>
      rw [List.foldlM_cons] at h ⊢
      cases hstep : d.enter p step with
      | error fault =>
          rw [hstep] at h
          cases h
      | ok r =>
          have hp := isFolder_of_enter hstep
          rw [enter_eq_of_isFolder hp ((hsame p).trans hp), hstep]
          rw [hstep] at h
          exact ih h

/-! ### The file and its temporary file -/

/-- The path and the path of its temporary file lead to one folder, and from there the one goes to
    the file, if it has a name for it, and the other to the temporary file. This is so on every
    disk with the same folders, unless the path is refused for its text. -/
structure Shares (d : Disk) (path : String) (folder : Place) (rest : List String) (name : String) :
    Prop where
  isFolder : d.isFolder folder = true
  isFile : d.isFolder (Path.temporaryName name :: folder) = false
  rest_eq : rest = [] ∨ ∃ after, rest = name :: after ∧ Path.stays name = false ∧ name ≠ ".." ∧
    ∀ s ∈ after, Path.stays s = true
  locate_temporary : ∀ d' : Disk, d'.SameFolders d →
    d'.locate (Path.temporary path) = .ok (Path.temporaryName name :: folder)
  locate_eq : (∃ fault, ∀ d' : Disk, d'.locate path = .error fault) ∨
    ∀ d' : Disk, d'.SameFolders d → d'.locate path = rest.foldlM d'.enter folder

theorem length_temporaryName (name : String) :
    (Path.temporaryName name).toList.length = name.toList.length + 5 := by
  simp [Path.temporaryName]

theorem temporaryName_ne (name : String) : Path.temporaryName name ≠ name := by
  intro h
  have hlength := length_temporaryName name
  rw [h] at hlength
  omega

/-- The temporary file has a name of its own and not one of those that lead elsewhere. -/
theorem enter_temporaryName {name : String} (h : d.enter folder (Path.temporaryName name) = .ok p) :
    p = Path.temporaryName name :: folder := by
  have hlength := length_temporaryName name
  have hne : ∀ s : String, s.toList.length < 5 → Path.temporaryName name ≠ s := by
    rintro s hs rfl
    omega
  have hstays : Path.stays (Path.temporaryName name) = false := by
    rw [Path.stays, decide_eq_false (hne "" (by decide)), decide_eq_false (hne "." (by decide))]
    rfl
  rw [enter, if_pos (isFolder_of_enter h), hstays, if_neg (hne ".." (by decide))] at h
  split at h
  · cases h
  · cases h
    rfl

theorem exists_shares (h : d.locateFile (Path.temporary path) = .ok p) :
    ∃ folder rest name, d.Shares path folder rest name ∧
      p = Path.temporaryName name :: folder := by
  rcases Path.exists_beside path with ⟨steps, rest, name, hbeside⟩
  rcases hbeside.steps_eq with ⟨still, hsteps, hstill⟩
  have hstart : startOf (Path.temporary path) = startOf path := by
    rw [startOf, startOf, hbeside.isAbsolute_eq]
  rw [locateFile] at h
  rcases walk_cases (Path.temporary path) with ⟨fault, hrefused⟩ | hwalk
  · rw [locate, hrefused] at h
    cases h
  rw [locate, hwalk, hbeside.temporary_eq, hstart, List.foldlM_append] at h
  cases hfolder : steps.foldlM d.enter (startOf path) with
  | error fault =>
      rw [hfolder] at h
      cases h
  | ok folder =>
      rw [hfolder] at h
      cases hlast : d.enter folder (Path.temporaryName name) with
      | error fault => simp [hlast, bind, Except.bind] at h
      | ok place =>
          have hplace := enter_temporaryName hlast
          have hisFolder := isFolder_of_enter hlast
          simp only [List.foldlM_cons, List.foldlM_nil, hlast, bind, Except.bind, pure,
            Except.pure] at h
          by_cases hfile : d.isFolder place = true
          · rw [if_pos hfile] at h
            cases h
          rw [if_neg hfile] at h
          obtain rfl : place = p := Except.ok.inj h
          refine ⟨folder, rest, name, ⟨hisFolder, ?_, hbeside.rest_eq, ?_, ?_⟩, hplace⟩
          · rw [← hplace]
            exact Bool.eq_false_iff.mpr hfile
          · intro d' hsame
            have hsteps' := foldlM_enter_of_sameFolders hsame hfolder
            rw [locate, hwalk, hbeside.temporary_eq, hstart, List.foldlM_append, hsteps']
            simp only [List.foldlM_cons, List.foldlM_nil, bind, Except.bind, pure, Except.pure]
            rw [enter_eq_of_isFolder hisFolder ((hsame folder).trans hisFolder), hlast, ← hplace]
          · rcases walk_cases path with ⟨fault, hrefused⟩ | hwalkPath
            · exact .inl ⟨fault, fun d' => hrefused d' _⟩
            · refine .inr fun d' hsame => ?_
              have hsteps' := foldlM_enter_of_sameFolders hsame hfolder
              have hstay := foldlM_stays ((hsame folder).trans hisFolder) hstill
              rw [locate, hwalkPath, hsteps, List.foldlM_append, List.foldlM_append, hsteps']
              simp only [bind, Except.bind, hstay]

theorem fetch_of_locate (hlocate : d.locate path = .ok p) {bytes : ByteArray}
    (hcontents : d.contents? p = some bytes) : d.fetch path = .ok bytes := by
  rw [fetch, hlocate]
  simp only [bind, Except.bind, hcontents]
  rfl

theorem fetch_congr (hlocate : d'.locate path = d.locate path)
    (h : ∀ p, d.locate path = .ok p →
      d'.contents? p = d.contents? p ∧ d'.isFolder p = d.isFolder p) :
    d'.fetch path = d.fetch path := by
  rw [fetch, fetch, hlocate]
  cases hp : d.locate path with
  | error fault => rfl
  | ok p =>
      rcases h p hp with ⟨hcontents, hfolder⟩
      simp only [bind, Except.bind, hcontents, hfolder]

/-- Steps that stay where they are lead to no other place, and where that is no folder the fault
    depends on the file that is there. -/
theorem foldlM_stays_cases {steps : List String} (hstays : ∀ s ∈ steps, Path.stays s = true)
    (hfolder : d'.isFolder p = d.isFolder p) (hcontents : d'.contents? p = d.contents? p) :
    steps.foldlM d'.enter p = steps.foldlM d.enter p ∧
      ∀ q, steps.foldlM d.enter p = .ok q → q = p := by
  by_cases hp : d.isFolder p = true
  · rw [foldlM_stays hp hstays, foldlM_stays (hfolder.trans hp) hstays]
    exact ⟨rfl, fun q hq => (Except.ok.inj hq).symm⟩
  · cases steps with
    | nil => exact ⟨rfl, fun q hq => (Except.ok.inj hq).symm⟩
    | cons step rest =>
        have hstep : d'.enter p step = d.enter p step := by
          rw [enter, enter, hfolder, hcontents, if_neg hp]
        rw [List.foldlM_cons, List.foldlM_cons, hstep]
        cases hnext : d.enter p step with
        | error fault =>
            refine ⟨rfl, fun q hq => ?_⟩
            cases hq
        | ok q => exact absurd (isFolder_of_enter hnext) hp

variable {rest : List String} {name : String}

namespace Shares

theorem sameFolders_insert (h : d.Shares path folder rest name) (bytes : ByteArray) :
    (d.insert (Path.temporaryName name :: folder) bytes).SameFolders d :=
  Disk.sameFolders_insert h.isFolder bytes

theorem temporary_ne_file (_ : d.Shares path folder rest name) :
    name :: folder ≠ Path.temporaryName name :: folder :=
  fun heq => temporaryName_ne name (List.cons.inj heq).1.symm

/-- The name of a file leads into the folder. -/
theorem enter_name (h : d.Shares path folder rest name) (hstays : Path.stays name = false)
    (hparent : name ≠ "..") :
    d.enter folder name =
      if nameLimit < name.utf8ByteSize then .error .nameTooLong else .ok (name :: folder) := by
  rw [enter, if_pos h.isFolder, hstays, if_neg hparent]
  rfl

/-- The temporary file can change, and the file stays as it is. -/
theorem fetch_insert (h : d.Shares path folder rest name) (bytes : ByteArray) :
    (d.insert (Path.temporaryName name :: folder) bytes).fetch path = d.fetch path := by
  have hsame := h.sameFolders_insert bytes
  have hcontents : ∀ q, q ≠ Path.temporaryName name :: folder →
      (d.insert (Path.temporaryName name :: folder) bytes).contents? q = d.contents? q :=
    fun q hq => contents?_insert_of_ne d bytes hq
  rcases h.locate_eq with ⟨fault, hrefused⟩ | hlocate
  · rw [fetch, fetch, hrefused, hrefused]
    rfl
  have hother := hlocate _ hsame
  have hthis := hlocate d fun _ => rfl
  rcases h.rest_eq with rfl | ⟨after, rfl, hstays, hparent, hafter⟩
  · refine fetch_congr (hother.trans hthis.symm) fun p hp => ?_
    obtain rfl : folder = p := Except.ok.inj (hthis.symm.trans hp)
    exact ⟨hcontents folder (List.ne_cons_self), hsame folder⟩
  · have hname := h.enter_name hstays hparent
    have hfile := hcontents (name :: folder) h.temporary_ne_file
    have hstep : (d.insert (Path.temporaryName name :: folder) bytes).enter folder name =
        d.enter folder name := enter_eq_of_isFolder h.isFolder ((hsame folder).trans h.isFolder)
    rcases foldlM_stays_cases hafter (hsame (name :: folder)) hfile with ⟨hwalk, hend⟩
    rw [List.foldlM_cons, hstep, hname] at hother
    rw [List.foldlM_cons, hname] at hthis
    by_cases hlong : nameLimit < name.utf8ByteSize
    · rw [if_pos hlong] at hother hthis
      rw [fetch, fetch, hother, hthis]
      rfl
    · rw [if_neg hlong] at hother hthis
      refine fetch_congr (hother.trans (hwalk.trans hthis.symm)) fun p hp => ?_
      obtain rfl := hend p (hthis.symm.trans hp)
      exact ⟨hfile, hsame _⟩

end Shares

/-- Where no slash is at the end of a path, nothing is dropped there. -/
theorem steps_eq_of_dropWhile {last : String} {before : List String}
    (hslash : (Path.steps path).getLast? ≠ some "")
    (hdrop : (Path.steps path).reverse.dropWhile (·.isEmpty) = last :: before) :
    Path.steps path = before.reverse ++ [last] := by
  have hsteps : (Path.steps path).reverse = last :: before := by
    rw [← hdrop]
    cases hreverse : (Path.steps path).reverse with
    | nil => rfl
    | cons step rest =>
        have hstep : step ≠ "" := by
          rintro rfl
          rw [List.getLast?_eq_head?_reverse, hreverse] at hslash
          exact hslash rfl
        rw [List.dropWhile_cons_of_neg]
        simpa using hstep
  rw [← List.reverse_reverse (Path.steps path), hsteps, List.reverse_cons]

/-- A path to where a file can be moved is a path to where no folder is. -/
theorem locate_of_locateTarget (h : d.locateTarget path = .ok q) :
    d.locate path = .ok q ∧ d.isFolder q = false := by
  rw [locateTarget] at h
  split at h
  · cases h
  · next last before hdrop =>
      rcases walk_cases path with ⟨fault, hrefused⟩ | hwalk
      · rw [hrefused] at h
        cases h
      rw [hwalk] at h
      cases hfolder : before.reverse.foldlM d.enter (startOf path) with
      | error fault =>
          rw [hfolder] at h
          cases h
      | ok folder =>
          cases hlast : d.enter folder last with
          | error fault =>
              simp only [hfolder, hlast, bind, Except.bind] at h
              cases h
          | ok place =>
              simp only [hfolder, hlast, bind, Except.bind] at h
              by_cases hdots : last = "." ∨ last = ".."
              · rw [if_pos hdots] at h
                cases h
              by_cases hslash : (Path.steps path).getLast? = some ""
              · rw [if_neg hdots, if_pos hslash] at h
                cases h
              by_cases hplace : d.isFolder place = true
              · rw [if_neg hdots, if_neg hslash, if_pos hplace] at h
                cases h
              rw [if_neg hdots, if_neg hslash, if_neg hplace] at h
              obtain rfl : place = q := Except.ok.inj h
              refine ⟨?_, Bool.eq_false_iff.mpr hplace⟩
              rw [locate, hwalk, steps_eq_of_dropWhile hslash hdrop, List.foldlM_append, hfolder]
              simp only [bind, Except.bind, List.foldlM_cons, List.foldlM_nil, hlast, pure,
                Except.pure]

namespace Shares

/-- Where no folder is at the end of the path, it is the file in the folder. -/
theorem file_of_locate (h : d.Shares path folder rest name) (hq : d.locate path = .ok q)
    (hfile : d.isFolder q = false) : q = name :: folder := by
  rcases h.locate_eq with ⟨fault, hrefused⟩ | hlocate
  · rw [hrefused] at hq
    cases hq
  rw [hlocate d fun _ => rfl] at hq
  rcases h.rest_eq with rfl | ⟨after, rfl, hstays, hparent, hafter⟩
  · obtain rfl : folder = q := Except.ok.inj hq
    rw [h.isFolder] at hfile
    cases hfile
  · rw [List.foldlM_cons, h.enter_name hstays hparent] at hq
    by_cases hlong : nameLimit < name.utf8ByteSize
    · rw [if_pos hlong] at hq
      cases hq
    · rw [if_neg hlong] at hq
      exact (foldlM_stays_cases hafter rfl rfl).2 q hq

/-- A disk with the same folders will do as well. -/
theorem of_sameFolders (h : d.Shares path folder rest name) (hsame : d'.SameFolders d) :
    d'.Shares path folder rest name := by
  refine ⟨(hsame folder).trans h.isFolder, (hsame _).trans h.isFile, h.rest_eq, ?_, ?_⟩
  · exact fun d'' hd'' => h.locate_temporary d'' fun p => (hd'' p).trans (hsame p)
  · rcases h.locate_eq with hrefused | hlocate
    · exact .inl hrefused
    · exact .inr fun d'' hd'' => hlocate d'' fun p => (hd'' p).trans (hsame p)

/-- A temporary file that takes the place of the file leaves its bytes there, and is gone. -/
theorem rename (h : d.Shares path folder rest name) {bytes : ByteArray}
    (hbytes : d.contents? (Path.temporaryName name :: folder) = some bytes)
    (hrename : d.rename (Path.temporary path) path = .ok d') :
    d'.fetch path = .ok bytes ∧ d'.fetch (Path.temporary path) = .error .notFound := by
  have htemporary := h.locate_temporary d fun _ => rfl
  rw [Disk.rename, fetch_of_locate htemporary hbytes, htemporary] at hrename
  cases htarget : d.locateTarget path with
  | error fault =>
      rw [htarget] at hrename
      cases hrename
  | ok q =>
      rw [htarget] at hrename
      rcases locate_of_locateTarget htarget with ⟨hlocate, hfile⟩
      obtain rfl := h.file_of_locate hlocate hfile
      obtain rfl := Except.ok.inj hrename
      have hsame : ((d.erase (Path.temporaryName name :: folder)).insert (name :: folder)
          bytes).SameFolders d := sameFolders_move h.isFolder bytes
      constructor
      · refine fetch_of_locate ?_ (contents?_insert_self _ _ _)
        rcases h.locate_eq with ⟨fault, hrefused⟩ | hwalk
        · rw [hrefused] at hlocate
          cases hlocate
        · rw [hwalk d fun _ => rfl] at hlocate
          rw [hwalk _ hsame]
          exact foldlM_enter_of_sameFolders hsame hlocate
      · have hgone : (((d.erase (Path.temporaryName name :: folder)).insert (name :: folder)
            bytes).contents? (Path.temporaryName name :: folder)) = none := by
          rw [contents?_insert_of_ne _ _ h.temporary_ne_file.symm]
          exact contents?_erase_self d _
        rw [fetch, h.locate_temporary _ hsame]
        simp only [bind, Except.bind, hgone, hsame _, h.isFile]
        rfl

end Shares

end Disk

end Manuscript
