import Manuscript.Command.Path

/-!
# Paths of Temporary Files

The temporary file of a file stands in the folder of that file. This is a
statement about the steps of two paths, since a path is walked step by step:
both go through the same steps to a folder, and after it the one path goes to
the temporary file, and the other one to the file.

The two paths do not share their text up to that point. Steps that stay where
they are may stand before the name of the file and after it, and they are not
taken over. A path without a name for a file leads to the folder itself.

## Main definitions

* `Path.Beside`: The steps that a path shares with the path of its temporary file.

## Theorems

* `Path.steps_intercalate`: Steps that are joined by slashes are read back.
* `Path.isAbsolute_iff`: Absolute paths by their steps.
* `Path.exists_beside`: The temporary file is beside the file.
-/

namespace Manuscript

namespace Path

/-! ### Steps -/

theorem stepsFrom_eq (step cs : List Char) :
    stepsFrom step cs = ((cs.splitOn '/').modifyHead (step.reverse ++ ·)).map String.ofList := by
  induction cs generalizing step with
  | nil => simp [stepsFrom]
  | cons c cs ih =>
      rw [stepsFrom, List.splitOn_cons_eq_if_modifyHead]
      by_cases hc : c = '/'
      · -- A step ends here, and nothing is known of the next one yet.
        have hid : (cs.splitOn '/').modifyHead (([] : List Char).reverse ++ ·) =
            cs.splitOn '/' := congrFun List.modifyHead_id _
        rw [if_pos hc, ih, hid, if_pos (by simpa using hc)]
        simp
      · rw [if_neg hc, ih, if_neg (by simpa using hc), List.modifyHead_modifyHead]
        simp [Function.comp_def]

theorem steps_eq (path : String) :
    steps path = (path.toList.splitOn '/').map String.ofList := by
  have hid : (path.toList.splitOn '/').modifyHead (([] : List Char).reverse ++ ·) =
      path.toList.splitOn '/' := congrFun List.modifyHead_id _
  rw [steps, stepsFrom_eq, hid]

/-- A text without slashes is one step. -/
theorem steps_of_not_mem {s : String} (h : '/' ∉ s.toList) : steps s = [s] := by
  rw [steps_eq, List.splitOn_eq_singleton h]
  simp

theorem steps_append_slash {path front rest : String}
    (h : path.toList = front.toList ++ '/' :: rest.toList) :
    steps path = steps front ++ steps rest := by
  rw [steps_eq, steps_eq, steps_eq, h, List.splitOn_append_cons_self, List.map_append]

theorem slash_not_mem_of_mem_stepsFrom {step cs : List Char} (hstep : '/' ∉ step) {s : String}
    (hs : s ∈ stepsFrom step cs) : '/' ∉ s.toList := by
  induction cs generalizing step with
  | nil =>
      rw [List.mem_singleton.mp hs]
      simpa using hstep
  | cons c cs ih =>
      rw [stepsFrom] at hs
      by_cases hc : c = '/'
      · rw [if_pos hc] at hs
        rcases List.mem_cons.mp hs with rfl | hs
        · simpa using hstep
        · exact ih List.not_mem_nil hs
      · rw [if_neg hc] at hs
        refine ih (fun hmem => ?_) hs
        rcases List.mem_cons.mp hmem with heq | hmem
        · exact hc heq.symm
        · exact hstep hmem

theorem slash_not_mem_of_mem_steps {path s : String} (hs : s ∈ steps path) : '/' ∉ s.toList :=
  slash_not_mem_of_mem_stepsFrom List.not_mem_nil hs

/-- Steps that are joined by slashes are read back. -/
theorem steps_intercalate {l : List String} (hne : l ≠ []) (h : ∀ s ∈ l, '/' ∉ s.toList) :
    steps ("/".intercalate l) = l := by
  have hpieces : ∀ piece ∈ l.map String.toList, '/' ∉ piece := by
    intro piece hpiece
    rcases List.mem_map.mp hpiece with ⟨s, hs, rfl⟩
    exact h s hs
  have hsplit := List.splitOn_intercalate '/' hpieces fun hnil => hne (List.map_eq_nil_iff.mp hnil)
  rw [steps_eq, String.toList_intercalate]
  refine (congrArg (List.map String.ofList) hsplit).trans ?_
  rw [List.map_map]
  simp [Function.comp_def]

/-- A path is absolute if its first step is empty, and there are others. -/
theorem isAbsolute_iff (path : String) :
    isAbsolute path = true ↔ ∃ rest, steps path = "" :: rest ∧ rest ≠ [] := by
  rw [isAbsolute, decide_eq_true_iff, steps_eq]
  cases path.toList with
  | nil => simp
  | cons c cs =>
      rcases List.exists_cons_of_ne_nil (List.splitOn_ne_nil '/' cs) with ⟨piece, rest, hcs⟩
      rw [List.splitOn_cons_eq_if_modifyHead, hcs]
      by_cases hc : c = '/'
      · simp [hc]
      · -- The first step starts with the character, so it is not empty.
        simp [hc]

/-! ### The temporary file -/

theorem slash_not_mem_temporaryName {name : String} (h : '/' ∉ name.toList) :
    '/' ∉ (temporaryName name).toList := by
  simp [temporaryName, h]

/-- The path and the path of its temporary file go through the same steps to a folder. The path may
    then go through steps that stay there, and through the rest, which is the name of the file and
    what stays behind it, or nothing. -/
structure Beside (path : String) (folder rest : List String) (name : String) : Prop where
  steps_eq : ∃ still, steps path = folder ++ still ++ rest ∧ ∀ s ∈ still, stays s = true
  temporary_eq : steps (temporary path) = folder ++ [temporaryName name]
  isAbsolute_eq : isAbsolute (temporary path) = isAbsolute path
  rest_eq : rest = [] ∨
    ∃ after, rest = name :: after ∧ stays name = false ∧ name ≠ ".." ∧ ∀ s ∈ after, stays s = true

theorem trimmed_append (steps : List String) :
    ∃ still, steps = (trimmed steps).reverse ++ still ∧ ∀ s ∈ still, stays s = true := by
  refine ⟨(steps.reverse.takeWhile stays).reverse, ?_, ?_⟩
  · rw [trimmed, ← List.reverse_append, List.takeWhile_append_dropWhile, List.reverse_reverse]
  · intro s hs
    exact List.all_eq_true.mp List.all_takeWhile s (List.mem_reverse.mp hs)

theorem exists_of_fileName? {path name : String} (h : fileName? path = some name) :
    ∃ before after, steps path = before ++ name :: after ∧ stays name = false ∧ name ≠ ".." ∧
      ∀ s ∈ after, stays s = true := by
  rw [fileName?, Option.filter_eq_some_iff, names, List.getLast?_filter,
    List.find?_eq_some_iff_append] at h
  rcases h with ⟨⟨hname, after, before, hsteps, hafter⟩, hparent⟩
  refine ⟨before.reverse, after.reverse, ?_, by simpa using hname, by simpa using hparent, ?_⟩
  · rw [← List.reverse_reverse (steps path), hsteps]
    simp
  · intro s hs
    simpa using hafter s (List.mem_reverse.mp hs)

/-- Steps that are joined before a temporary file are read back. -/
theorem steps_intercalate_temporaryName {folder : List String} {name : String}
    (hfolder : ∀ s ∈ folder, '/' ∉ s.toList) (hname : '/' ∉ name.toList) :
    steps ("/".intercalate (folder ++ [temporaryName name])) = folder ++ [temporaryName name] := by
  refine steps_intercalate (by simp) fun s hs => ?_
  rcases List.mem_append.mp hs with hs | hs
  · exact hfolder s hs
  · rw [List.mem_singleton.mp hs]
    exact slash_not_mem_temporaryName hname

theorem beside_of_fileName? {path name : String} (h : fileName? path = some name) :
    ∃ folder rest, Beside path folder rest name := by
  rcases exists_of_fileName? h with ⟨before, after, hsteps, hname, hparent, hafter⟩
  have hslash : ∀ s ∈ before ++ name :: after, '/' ∉ s.toList := by
    intro s hs
    rw [← hsteps] at hs
    exact slash_not_mem_of_mem_steps hs
  -- What stays behind the name is dropped with the name, and the steps before it are left.
  have htail : (trimmed (steps path)).tail.reverse = before := by
    rw [hsteps, trimmed, List.reverse_append, List.reverse_cons, List.append_assoc,
      List.dropWhile_append_of_pos (by simpa using hafter), List.singleton_append,
      List.dropWhile_cons_of_neg (by simp [hname])]
    simp
  have hslashName : '/' ∉ name.toList := hslash name (by simp)
  cases before with
  | nil =>
      have htemporary : temporary path = "/".intercalate ([] ++ [temporaryName name]) := by
        simp [temporary, h, htail]
      have hnames : steps (temporary path) = [] ++ [temporaryName name] := by
        rw [htemporary]
        exact steps_intercalate_temporaryName (List.forall_mem_nil _) hslashName
      refine ⟨[], name :: after, ⟨[], by simpa using hsteps, by simp⟩, hnames, ?_,
        .inr ⟨after, rfl, hname, hparent, hafter⟩⟩
      -- Both paths start with a name, so neither is absolute.
      have hne : name ≠ "" := by
        rintro rfl
        cases hname
      rw [Bool.eq_iff_iff, isAbsolute_iff, isAbsolute_iff, hnames, hsteps]
      simp [hne]
  | cons first inner =>
      rcases trimmed_append inner with ⟨still, hinner, hstill⟩
      have htemporary : temporary path =
          "/".intercalate (first :: (trimmed inner).reverse ++ [temporaryName name]) := by
        simp [temporary, h, htail]
      have hnames : steps (temporary path) =
          first :: (trimmed inner).reverse ++ [temporaryName name] := by
        rw [htemporary]
        refine steps_intercalate_temporaryName (fun s hs => ?_) hslashName
        -- The steps to the folder are among those before the name.
        have hbefore : s ∈ first :: inner := by
          rw [hinner]
          exact List.mem_append_left still hs
        exact hslash s (List.mem_append_left _ hbefore)
      refine ⟨first :: (trimmed inner).reverse, name :: after, ⟨still, ?_, hstill⟩, hnames, ?_,
        .inr ⟨after, rfl, hname, hparent, hafter⟩⟩
      · calc
          steps path = first :: inner ++ name :: after := hsteps
          _ = first :: ((trimmed inner).reverse ++ still) ++ name :: after := by rw [← hinner]
          _ = first :: (trimmed inner).reverse ++ still ++ name :: after := by simp
      · rw [Bool.eq_iff_iff, isAbsolute_iff, isAbsolute_iff, hnames, hsteps]
        simp [and_assoc]

theorem beside_of_no_fileName {path : String} (h : fileName? path = none) :
    ∃ folder, Beside path folder [] "report" := by
  have hslash : '/' ∉ (temporaryName "report").toList := by decide
  have hlast : steps (temporaryName "report") = [temporaryName "report"] := steps_of_not_mem hslash
  rcases List.eq_nil_or_concat path.toList with hnil | ⟨front, c, hpath⟩
  · obtain rfl : path = "" := String.toList_eq_nil_iff.mp hnil
    have htemporary : temporary "" = temporaryName "report" := by decide
    refine ⟨[], ⟨[""], rfl, by simp [stays]⟩, ?_, ?_, .inl rfl⟩
    · rw [htemporary]
      exact hlast
    · rw [htemporary]
      rfl
  · have hstart : ∀ rest, (path.toList ++ rest).head? = path.toList.head? := by
      intro rest
      rw [hpath, List.concat_eq_append]
      cases front with
      | nil => rfl
      | cons _ _ => rfl
    by_cases hc : c = '/'
    · have htext : (temporary path).toList =
          (String.ofList front).toList ++ '/' :: (temporaryName "report").toList := by
        simp [temporary, h, hpath, hc]
      have hfront : path.toList = (String.ofList front).toList ++ '/' :: "".toList := by
        simp [hpath, hc]
      refine ⟨steps (String.ofList front), ⟨[""], ?_, by simp [stays]⟩, ?_, ?_, .inl rfl⟩
      · rw [steps_append_slash hfront, steps_of_not_mem (s := "") (by simp)]
        simp
      · rw [steps_append_slash htext, hlast]
      · have : (temporary path).toList = path.toList ++ (temporaryName "report").toList := by
          simp [htext, hpath, hc]
        rw [isAbsolute, isAbsolute, this, hstart]
    · have htext : (temporary path).toList =
          path.toList ++ '/' :: (temporaryName "report").toList := by
        simp [temporary, h, hpath, hc]
      refine ⟨steps path, ⟨[], by simp, by simp⟩, ?_, ?_, .inl rfl⟩
      · rw [steps_append_slash htext, hlast]
      · rw [isAbsolute, isAbsolute, htext, hstart]

/-- The temporary file is beside the file. -/
theorem exists_beside (path : String) : ∃ folder rest name, Beside path folder rest name := by
  cases h : fileName? path with
  | some name =>
      rcases beside_of_fileName? h with ⟨folder, rest, hbeside⟩
      exact ⟨folder, rest, name, hbeside⟩
  | none =>
      rcases beside_of_no_fileName h with ⟨folder, hbeside⟩
      exact ⟨folder, [], "report", hbeside⟩

end Path

end Manuscript
