import Manuscript.Proofs.Command.Disk

/-!
# Commands That Fail and Commands That Save

A command leaves nothing half done. What it prints is printed at its end, after
everything that can fail, and a report is saved in steps of which only the last
one touches the file it is for.

The steps of saving go over into each other through what they leave on the disk.
After the first one the temporary file is there, and from then on it is all that
has changed, whatever the writing left in it. So the file is as it was as long as
the last step has not been taken, and the last step cannot fail half-way.

A workspace may refuse any of the steps, and the writing at any point of the
text. The theorems hold for all workspaces, hence for every place at which a
command can fail.

## Main definitions

* `Workspace.load`: The document of a file.
* `Workspace.printing`: A workspace after something was printed.

## Theorems

* `Workspace.exists_draft_of_load`: A document that was loaded is a draft that was numbered.
* `Workspace.run_of_text`: A command that does not save prints its text.
* `Workspace.save_cases`: What a report that is saved leaves behind.
* `Workspace.run_allOrNothing`: A command has its whole result or none.
-/

namespace Manuscript

/-- The file that an action saves a report to. -/
def Action.target? : Action → Option String
  | report _ target? => target?
  | _ => none

namespace Workspace

open Surroundings

variable {w : Workspace} {c : Command} {d : Document}

/-! ### One operation after another -/

theorem run_bind {α β : Type} (x : ExceptT Failure (StateM Workspace) α)
    (f : α → ExceptT Failure (StateM Workspace) β) (w : Workspace) :
    (x >>= f).run.run w =
      match x.run.run w with
      | (.ok a, after) => (f a).run.run after
      | (.error failure, after) => (.error failure, after) := by
  rw [ExceptT.run_bind, StateT.run_bind]
  rcases x.run.run w with ⟨failure | a, after⟩
  · rfl
  · rfl

/-- What succeeds went on after its first operation had succeeded. -/
theorem exists_of_run_bind_ok {α β : Type} {x : ExceptT Failure (StateM Workspace) α}
    {f : α → ExceptT Failure (StateM Workspace) β} {b : β} {after : Workspace}
    (h : (x >>= f).run.run w = (.ok b, after)) :
    ∃ a between, x.run.run w = (.ok a, between) ∧ (f a).run.run between = (.ok b, after) := by
  rw [run_bind] at h
  rcases hx : x.run.run w with ⟨failure | a, between⟩
  · rw [hx] at h
    cases h
  · rw [hx] at h
    exact ⟨a, between, rfl, h⟩

theorem run_attempt {α : Type} (operation : StateM Workspace (Except FileFault α))
    (w : Workspace) :
    (attempt operation).run.run w = ((operation w).1.mapError .file, (operation w).2) := rfl

/-- A change is made, or it is not, except for what a refusal leaves. -/
theorem run_change (operation : FileOperation) (after : Disk → Except FileFault Disk)
    (refused : Refusal → Disk → Except FileFault Disk) (w : Workspace) :
    (∃ failure disk,
      (attempt (change operation after refused)).run.run w = (.error failure, { w with disk }) ∧
        (disk = w.disk ∨ ∃ refusal, refused refusal w.disk = .ok disk)) ∨
      ∃ disk, (attempt (change operation after refused)).run.run w = (.ok (), { w with disk }) ∧
        after w.disk = .ok disk := by
  rw [run_attempt, change]
  cases w.disk.refusal? operation with
  | some refusal =>
      cases hrefused : refused refusal w.disk with
      | error _ => exact .inl ⟨.file refusal.fault, w.disk, by simp only [hrefused]; rfl, .inl rfl⟩
      | ok disk =>
          exact .inl ⟨.file refusal.fault, disk, by simp only [hrefused]; rfl,
            .inr ⟨refusal, hrefused⟩⟩
  | none =>
      cases hafter : after w.disk with
      | error fault => exact .inl ⟨.file fault, w.disk, rfl, .inl rfl⟩
      | ok disk => exact .inr ⟨disk, rfl, rfl⟩

/-- A change that a refusal does not spoil is made, or nothing changes. -/
theorem run_change_whole (operation : FileOperation) (after : Disk → Except FileFault Disk)
    (w : Workspace) :
    (∃ failure,
      (attempt (change operation after fun _ d => .ok d)).run.run w = (.error failure, w)) ∨
      ∃ disk, (attempt (change operation after fun _ d => .ok d)).run.run w =
          (.ok (), { w with disk }) ∧ after w.disk = .ok disk := by
  rcases run_change operation after (fun _ d => .ok d) w with ⟨failure, disk, hrun, hdisk⟩ | hdone
  · have hsame : disk = w.disk := by
      rcases hdisk with hdisk | ⟨_, hdisk⟩
      · exact hdisk
      · exact (Except.ok.inj hdisk).symm
    rw [hsame] at hrun
    exact .inl ⟨failure, hrun⟩
  · exact .inr hdone

/-! ### Loading -/

/-- Whatever comes of it, nothing changes. -/
def Quiet {α : Type} (x : ExceptT Failure (StateM Workspace) α) : Prop :=
  ∀ w, (x.run.run w).2 = w

namespace Quiet

variable {α β : Type}

theorem bind {x : ExceptT Failure (StateM Workspace) α}
    {f : α → ExceptT Failure (StateM Workspace) β} (hx : Quiet x) (hf : ∀ a, Quiet (f a)) :
    Quiet (x >>= f) := by
  intro w
  have hafter := hx w
  rw [run_bind]
  rcases hrun : x.run.run w with ⟨failure | a, after⟩
  · rw [hrun] at hafter
    exact hafter
  · rw [hrun] at hafter
    exact (hf a after).trans hafter

theorem conclude (result : Except Failure α) : Quiet (Surroundings.conclude result) :=
  fun _ => rfl

theorem ask (operation : FileOperation) (answer : Disk → Except FileFault α) :
    Quiet (attempt (Workspace.ask operation answer)) := by
  intro w
  rw [run_attempt, Workspace.ask]
  cases w.disk.refusal? operation with
  | some refusal => rfl
  | none => rfl

end Quiet

/-- The document of a file in a workspace. -/
def load (w : Workspace) (file : String) : Except Failure Document :=
  ((surroundings.load file).run.run w).1

theorem run_load (w : Workspace) (file : String) :
    (surroundings.load file).run.run w = (w.load file, w) := by
  have hquiet : Quiet (surroundings.load file) := by
    refine (Quiet.ask (.size file) (·.sizeOf file)).bind fun size => ?_
    refine (Quiet.conclude _).bind fun _ => ?_
    refine (Quiet.ask (.read file) (·.fetch file)).bind fun bytes => ?_
    exact (Quiet.conclude _).bind fun text => Quiet.conclude _
  exact Prod.ext rfl (hquiet w)

/-- The document of a file is a draft that was numbered. -/
theorem exists_draft_of_load {file : String} (h : w.load file = .ok d) :
    ∃ draft : Draft.Document, draft.enumerate = .ok d := by
  have hrun : (surroundings.load file).run.run w = (.ok d, w) := by rw [run_load, h]
  rcases exists_of_run_bind_ok hrun with ⟨_, _, -, hsize⟩
  rcases exists_of_run_bind_ok hsize with ⟨_, _, -, hread⟩
  rcases exists_of_run_bind_ok hread with ⟨_, _, -, hdecode⟩
  rcases exists_of_run_bind_ok hdecode with ⟨text, _, -, hconclude⟩
  have hdocument : documentOf text = .ok d := (Prod.mk.inj hconclude).1
  rw [documentOf] at hdocument
  cases hdraft : Draft.Document.read text with
  | error _ =>
      rw [hdraft] at hdocument
      cases hdocument
  | ok draft =>
      rw [hdraft] at hdocument
      have hresult : (draft.enumerate).mapError Failure.duplicate = .ok d := hdocument
      cases hnumbered : draft.enumerate with
      | error _ =>
          rw [hnumbered] at hresult
          cases hresult
      | ok doc =>
          rw [hnumbered] at hresult
          exact ⟨draft, hnumbered.trans (congrArg Except.ok (Except.ok.inj hresult))⟩

/-! ### What a command comes to -/

/-- The workspace after a result was printed. -/
def printing (w : Workspace) (text : String) : Workspace := { w with printed := w.printed ++ text }

theorem run_eq (w : Workspace) (colored : Bool) (c : Command) :
    w.run colored c =
      match w.load c.file with
      | .error failure => (.error failure, w)
      | .ok d =>
        match textOf colored d c.action with
        | .error failure => (.error failure, w)
        | .ok text =>
          match c.action.target? with
          | none => (.ok (), w.printing text)
          | some path =>
            match (surroundings.save path text).run.run w with
            | (.error failure, after) => (.error failure, after)
            | (.ok (), after) =>
              (.ok (), { after with printedAside := after.printedAside ++ savedLine colored path }) := by
  rw [run, Surroundings.run, run_bind, run_load]
  cases w.load c.file with
  | error failure => rfl
  | ok d =>
      rcases c with ⟨file, action, verbose⟩
      cases htext : textOf colored d action with
      | error failure =>
          simp only [htext, run_bind]
          rfl
      | ok text =>
          simp only [htext, run_bind]
          cases action with
          | report format target? =>
              cases target? with
              | none => rfl
              | some path =>
                  refine (run_bind (surroundings.save path text) _ w).trans ?_
                  simp only [Action.target?]
                  rcases (surroundings.save path text).run.run w with ⟨failure | _, after⟩
                  · rfl
                  · rfl
          | _ => rfl

/-- A command that does not save prints its text. -/
theorem run_of_text {colored : Bool} {text : String} (hload : w.load c.file = .ok d)
    (htext : textOf colored d c.action = .ok text) (htarget : c.action.target? = none) :
    w.run colored c = (.ok (), w.printing text) := by
  rw [run_eq, hload]
  simp only [htext, htarget]

/-! ### Saving -/

theorem run_create (w : Workspace) (path : String) :
    (∃ failure, (attempt (surroundings.create path)).run.run w = (.error failure, w)) ∨
      ∃ p, w.disk.locateFile path = .ok p ∧
        (attempt (surroundings.create path)).run.run w =
          (.ok (), { w with disk := w.disk.insert p .empty }) := by
  rcases run_change_whole (.create path) (·.create path) w with
    ⟨failure, hrun⟩ | ⟨disk, hrun, hcreate⟩
  · exact .inl ⟨failure, hrun⟩
  · rw [Disk.create] at hcreate
    cases hp : w.disk.locateFile path with
    | error fault =>
        rw [hp] at hcreate
        cases hcreate
    | ok p =>
        rw [hp] at hcreate
        obtain rfl := Except.ok.inj hcreate
        exact .inr ⟨p, rfl, hrun⟩

theorem write_eq_ok {before after : Disk} {path : String} {bytes : ByteArray} {p : Place}
    (hp : before.locate path = .ok p) (h : before.write path bytes = .ok after) :
    after = before.insert p bytes := by
  rw [Disk.write, hp] at h
  cases hfetch : before.fetch path with
  | error fault =>
      rw [hfetch] at h
      cases h
  | ok old =>
      rw [hfetch] at h
      exact (Except.ok.inj h).symm

/-- Text that is written is all there, or else nothing was written or anything is there. -/
theorem run_write {path : String} {p : Place} (hp : w.disk.locate path = .ok p) (text : String) :
    (∃ failure disk, (attempt (surroundings.write path text)).run.run w =
        (.error failure, { w with disk }) ∧
      (disk = w.disk ∨ ∃ bytes, disk = w.disk.insert p bytes)) ∨
      (attempt (surroundings.write path text)).run.run w =
        (.ok (), { w with disk := w.disk.insert p text.toUTF8 }) := by
  rcases run_change (.write path text) (·.write path text.toUTF8)
      (fun refusal d => d.write path refusal.remains) w with
    ⟨failure, disk, hrun, hdisk⟩ | ⟨disk, hrun, hwrite⟩
  · refine .inl ⟨failure, disk, hrun, ?_⟩
    rcases hdisk with hdisk | ⟨refusal, hdisk⟩
    · exact .inl hdisk
    · exact .inr ⟨refusal.remains, write_eq_ok hp hdisk⟩
  · rw [write_eq_ok hp hwrite] at hrun
    exact .inr hrun

theorem run_rename (w : Workspace) (source target : String) :
    (∃ failure, (attempt (surroundings.rename source target)).run.run w = (.error failure, w)) ∨
      ∃ disk, w.disk.rename source target = .ok disk ∧
        (attempt (surroundings.rename source target)).run.run w = (.ok (), { w with disk }) := by
  rcases run_change_whole (.rename source target) (·.rename source target) w with
    ⟨failure, hrun⟩ | ⟨disk, hrun, hrename⟩
  · exact .inl ⟨failure, hrun⟩
  · exact .inr ⟨disk, hrename, hrun⟩

/-- A report that is not saved leaves the file as it was. One that is saved is in the file, and its
    temporary file is gone. -/
theorem save_cases (w : Workspace) (path text : String) :
    (∃ failure disk,
      (surroundings.save path text).run.run w = (.error failure, { w with disk }) ∧
        disk.fetch path = w.disk.fetch path) ∨
      ∃ disk, (surroundings.save path text).run.run w = (.ok (), { w with disk }) ∧
        disk.fetch path = .ok text.toUTF8 ∧
        disk.fetch (Path.temporary path) = .error .notFound := by
  rw [save, run_bind]
  rcases run_create w (Path.temporary path) with ⟨failure, hcreate⟩ | ⟨p, hplace, hcreate⟩
  · exact .inl ⟨failure, w.disk, by rw [hcreate], rfl⟩
  rcases Disk.exists_shares hplace with ⟨folder, rest, name, hshares, rfl⟩
  simp only [hcreate, run_bind]
  -- From now on the temporary file is all that has changed, whatever is in it.
  have hcreated := hshares.locate_temporary _ (hshares.sameFolders_insert .empty)
  rcases run_write (w := { w with disk := w.disk.insert _ .empty }) hcreated text with
    ⟨failure, disk, hwrite, hdisk⟩ | hwrite
  · refine .inl ⟨failure, disk, by rw [hwrite], ?_⟩
    rcases hdisk with rfl | ⟨bytes, rfl⟩
    · exact hshares.fetch_insert .empty
    · simp only [Disk.insert_insert]
      exact hshares.fetch_insert bytes
  simp only [hwrite, Disk.insert_insert]
  have hwritten := hshares.sameFolders_insert text.toUTF8
  rcases run_rename { w with disk := w.disk.insert _ text.toUTF8 } (Path.temporary path) path with
    ⟨failure, hrename⟩ | ⟨disk, hdisk, hrename⟩
  · exact .inl ⟨failure, _, hrename, hshares.fetch_insert text.toUTF8⟩
  · exact .inr ⟨disk, hrename, (hshares.of_sameFolders hwritten).rename (by simp) hdisk⟩

/-! ### Commands as a whole -/

/-- A command fails before it does anything, or while it saves. -/
theorem run_eq_error {colored : Bool} {failure : Failure} {after : Workspace}
    (h : w.run colored c = (.error failure, after)) :
    after = w ∨ ∃ path disk, c.action.target? = some path ∧ after = { w with disk } ∧
      disk.fetch path = w.disk.fetch path := by
  rw [run_eq] at h
  cases hload : w.load c.file with
  | error _ =>
      simp only [hload] at h
      exact .inl (Prod.mk.inj h).2.symm
  | ok d =>
      cases htext : textOf colored d c.action with
      | error _ =>
          simp only [hload, htext] at h
          exact .inl (Prod.mk.inj h).2.symm
      | ok text =>
          cases htarget : c.action.target? with
          | none => simp [hload, htext, htarget] at h
          | some path =>
              simp only [hload, htext, htarget] at h
              rcases save_cases w path text with ⟨_, disk, hsave, hfile⟩ | ⟨disk, hsave, -⟩
              · simp only [hsave] at h
                exact .inr ⟨path, disk, rfl, (Prod.mk.inj h).2.symm, hfile⟩
              · simp [hsave] at h

/-- A command that saves its text has loaded a document, and the text is in the file. -/
theorem run_eq_ok {colored : Bool} {after : Workspace} {path : String}
    (htarget : c.action.target? = some path) (h : w.run colored c = (.ok (), after)) :
    ∃ d text, w.load c.file = .ok d ∧ textOf colored d c.action = .ok text ∧
      after.disk.fetch path = .ok text.toUTF8 ∧
      after.disk.fetch (Path.temporary path) = .error .notFound := by
  rw [run_eq] at h
  cases hload : w.load c.file with
  | error _ => simp [hload] at h
  | ok d =>
      cases htext : textOf colored d c.action with
      | error _ => simp [hload, htext] at h
      | ok text =>
          simp only [hload, htext, htarget] at h
          rcases save_cases w path text with ⟨_, disk, hsave, -⟩ | ⟨disk, hsave, hfile, hgone⟩
          · simp [hsave] at h
          · simp only [hsave] at h
            obtain rfl := (Prod.mk.inj h).2
            exact ⟨d, text, rfl, htext, hfile, hgone⟩

/-- A command that fails has printed nothing, and the file that its report was to be saved to is as
    it was before. If a report is saved, then the file holds what the command would have printed,
    and the temporary file is gone. -/
theorem run_allOrNothing (w : Workspace) (colored : Bool) (c : Command) :
    (∀ failure after, w.run colored c = (.error failure, after) →
      after.printed = w.printed ∧
        ∀ format path, c.action = .report format (some path) →
          after.disk.fetch path = w.disk.fetch path) ∧
      ∀ format path after, c.action = .report format (some path) →
        w.run colored c = (.ok (), after) →
          ∃ text,
            w.run colored { c with action := .report format none } = (.ok (), w.printing text) ∧
              after.disk.fetch path = .ok text.toUTF8 ∧
              after.disk.fetch (Path.temporary path) = .error .notFound := by
  constructor
  · intro failure after h
    rcases run_eq_error h with rfl | ⟨target, disk, htarget, rfl, hfile⟩
    · exact ⟨rfl, fun _ _ _ => rfl⟩
    · refine ⟨rfl, fun format path haction => ?_⟩
      rw [haction] at htarget
      obtain rfl : path = target := Option.some.inj htarget
      exact hfile
  · intro format path after haction h
    have htarget : c.action.target? = some path := by
      rw [haction]
      rfl
    rcases run_eq_ok htarget h with ⟨d, text, hload, htext, hfile, hgone⟩
    -- The text of a report does not depend on where it goes.
    have htext' : textOf colored d (.report format none) = .ok text := by
      rw [← htext, haction]
      rfl
    exact ⟨text, run_of_text hload htext' rfl, hfile, hgone⟩

/-- A draft and an older report. The disk may refuse any operation. -/
def shelf (refusal? : FileOperation → Option Refusal) : Workspace :=
  ⟨⟨[(["draft"], ("title: T\nsections:\n- title: S\n  content:\n  - paragraph:\n" ++
      "      content:\n      - text: x\n").toUTF8), (["report", "out"], "old".toUTF8)], refusal?⟩,
    "", ""⟩

/-- A full disk keeps the first line of a text. -/
def refusesText : FileOperation → Option Refusal
  | .write _ _ => some ⟨.other "No space left on device (os error 28)", "---\n".toUTF8⟩
  | _ => none

theorem run_shelf_allOrNothing :
    let c : Command := ⟨"draft", .report .yaml (some "out/report"), false⟩
    (∃ failure after, (shelf refusesText).run false c = (.error failure, after) ∧
      (after.disk.fetch "out/.report.tmp").toOption = some "---\n".toUTF8 ∧
        after.printed = "" ∧
        after.disk.fetch "out/report" = (shelf refusesText).disk.fetch "out/report") ∧
      ∃ after text, (shelf fun _ => none).run false c = (.ok (), after) ∧
        (shelf fun _ => none).run false { c with action := .report .yaml none } =
            (.ok (), (shelf fun _ => none).printing text) ∧
          after.disk.fetch "out/report" = .ok text.toUTF8 ∧
          after.disk.fetch (Path.temporary "out/report") = .error .notFound := by
  intro c
  constructor
  · have hfails : ((shelf refusesText).run false c).1.isOk = false := by decide +kernel
    have hpart : (((shelf refusesText).run false c).2.disk.fetch "out/.report.tmp").toOption =
        some "---\n".toUTF8 := by
      decide +kernel
    rcases hrun : (shelf refusesText).run false c with ⟨failure | _, after⟩
    · rw [hrun] at hpart
      rcases (run_allOrNothing (shelf refusesText) false c).1 failure after hrun with
        ⟨hprinted, hfile⟩
      exact ⟨failure, after, rfl, hpart, hprinted, hfile .yaml "out/report" rfl⟩
    · rw [hrun] at hfails
      cases hfails
  · have hsaves : ((shelf fun _ => none).run false c).1.isOk = true := by decide +kernel
    rcases hrun : (shelf fun _ => none).run false c with ⟨failure | _, after⟩
    · rw [hrun] at hsaves
      cases hsaves
    · rcases (run_allOrNothing (shelf fun _ => none) false c).2 .yaml "out/report" after rfl hrun
        with ⟨text, hprints, hfile, hgone⟩
      exact ⟨after, text, rfl, hprints, hfile, hgone⟩

end Workspace

end Manuscript
