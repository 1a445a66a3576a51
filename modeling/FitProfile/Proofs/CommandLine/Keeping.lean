import FitProfile.CommandLine.Run
import FitProfile.Proofs.CommandLine.Walking
/-!
# FitProfile.Proofs.CommandLine.Keeping -- what file operations keep

Making directories and writing files keeps all directories, and all files but those that are
written (`Keeps`). A text leads to the same path afterwards, so what an operation wrote to can
be told from the tree that it leaves. Operations one after the other keep what each of them
keeps, whether or not they come to their end.
-/

namespace FitProfile.CommandLine

open FitProfile.Outcome

namespace FileTree

variable {tree later last : FileTree} {written more : Path → Prop}

/-- A later tree in which all directories are still there, and all files that have not been
written to. -/
structure Keeps (tree later : FileTree) (written : Path → Prop) : Prop where
  working : later.working = tree.working
  directories : ∀ p, tree.get? p = some .directory → later.get? p = some .directory
  files : ∀ p content, tree.get? p = some (.file content) →
    later.get? p = some (.file content) ∨ written p

namespace Keeps

theorem refl (tree : FileTree) (written : Path → Prop) : Keeps tree tree written where
  working := rfl
  directories _ h := h
  files _ _ h := .inl h

theorem mono (h : Keeps tree later written) (hmore : ∀ p, written p → more p) :
    Keeps tree later more where
  working := h.working
  directories := h.directories
  files p content hfile := (h.files p content hfile).imp_right (hmore p)

theorem trans (h : Keeps tree later written) (h' : Keeps later last written) :
    Keeps tree last written where
  working := h'.working.trans h.working
  directories p hdirectory := h'.directories p (h.directories p hdirectory)
  files p content hfile := by
    rcases h.files p content hfile with hstill | hwritten
    · exact h'.files p content hstill
    · exact .inr hwritten

theorem way_eq (h : Keeps tree later written) (s : String) : later.way s = tree.way s := by
  unfold way
  rw [h.working]

/-- A text leads where it led before. -/
theorem leadsTo (h : Keeps tree later written) {s : String} {path : Path}
    (hleads : tree.LeadsTo s path) : later.LeadsTo s path := by
  obtain ⟨htext, hwalks⟩ := leadsTo_iff.mp hleads
  refine leadsTo_iff.mpr ⟨htext, ?_⟩
  rw [h.way_eq]
  exact hwalks.mono h.directories

end Keeps

/-! ## Single operations -/

/-- Putting something in the place of a text keeps all else. -/
theorem keeps_put {s : String} {place : Place} {entry : Entry} (h : tree.locate s = .ok place)
    (hat : entry = .directory ∨ tree.get? place.path ≠ some .directory) :
    Keeps tree (tree.put place.path entry) (· = place.path) where
  working := rfl
  directories p hdirectory := by
    by_cases hp : p = place.path
    · rcases hat with rfl | hat
      · rw [hp]
        exact get?_put_self tree place.path .directory
      · rw [hp] at hdirectory
        exact absurd hdirectory hat
    · exact get?_put_of_ne (fun _ _ hpath hq => directory_of_locate h hpath hq) hat hdirectory hp
  files p content hfile := by
    by_cases hp : p = place.path
    · exact .inr hp
    · exact .inl
        (get?_put_of_ne (fun _ _ hpath hq => directory_of_locate h hpath hq) hat hfile hp)

/-- Making a directory writes to no file. -/
theorem keeps_makeDirectory (tree : FileTree) (s : String) (written : Path → Prop) :
    Keeps tree (tree.makeDirectory s).1 written := by
  unfold makeDirectory
  cases hplace : tree.locate s with
  | error fault => exact .refl tree written
  | ok place =>
    dsimp only
    cases hnode : place.node with
    | some node => exact .refl tree written
    | none =>
      have hnone : tree.get? place.path = none := by
        rw [← node_of_locate hplace, hnode]
        rfl
      have hput : Keeps tree (tree.put place.path .directory) (· = place.path) :=
        keeps_put hplace (.inl rfl)
      refine ⟨rfl, hput.directories, ?_⟩
      intro p content hfile
      rcases hput.files p content hfile with hstill | rfl
      · exact .inl hstill
      · rw [hnone] at hfile
        cases hfile

/-- Making nested directories is making directories one after the other, so it keeps whatever
making one of them keeps. -/
theorem makeNested_of_steps {R : FileTree → FileTree → Prop} (hrefl : ∀ tree, R tree tree)
    (htrans : ∀ {tree later last}, R tree later → R later last → R tree last)
    (hstep : ∀ tree s, R tree (FileTree.makeDirectory tree s).1) (levels : Nat) (tree : FileTree)
    (cs : List Char) : R tree (tree.makeNested cs levels).1 := by
  induction levels generalizing tree cs with
  | zero => exact hrefl tree
  | succ levels ih =>
    unfold makeNested
    dsimp only
    split
    · exact hstep tree _
    · -- what has been made above stays, also when the directory itself cannot be made
      have habove := ih tree (Path.parent cs).1
      have hgo : ∀ above : FileTree, R tree above →
          R tree (if (Path.parent cs).2 = ['.'] then (above, none)
            else above.makeDirectory (String.ofList cs)).1 := by
        intro above hmade
        split
        · exact hmade
        · exact htrans hmade (hstep above _)
      split
      next heq =>
        rw [heq] at habove
        exact hgo _ habove
      next heq =>
        rw [heq] at habove
        exact hgo _ habove
      next => exact habove

theorem keeps_makeDirectories (tree : FileTree) (s : String) (written : Path → Prop) :
    Keeps tree (tree.makeDirectories s).1 written :=
  makeNested_of_steps (R := fun tree later => Keeps tree later written) (fun _ => .refl _ _)
    (fun h h' => h.trans h') (fun tree s => keeps_makeDirectory tree s written) _ tree _

theorem write_eq_ok {s text : String} : tree.write s text = .ok later ↔
    ∃ path, tree.LeadsTo s path ∧ tree.get? path ≠ some .directory ∧
      tree.put path (.file (.text text)) = later := by
  have hwrite : ∀ place, tree.locate s = .ok place → (tree.write s text = .ok later ↔
      tree.get? place.path ≠ some .directory ∧
        tree.put place.path (.file (.text text)) = later) := by
    intro place hplace
    unfold write
    rw [hplace, ← node_of_locate hplace]
    obtain ⟨names, node, above⟩ := place
    rcases node with _ | (content | children)
    · simp [bind, Except.bind, pure_eq_ok]
    · simp [bind, Except.bind, pure_eq_ok, Node.entry]
    · simp [bind, Except.bind, throw_ne_ok, Node.entry]
  constructor
  · intro h
    obtain ⟨place, hplace, -⟩ := bind_eq_ok.mp h
    exact ⟨place.path, ⟨place, hplace, rfl⟩, (hwrite place hplace).mp h⟩
  · rintro ⟨path, ⟨place, hplace, rfl⟩, h⟩
    exact (hwrite place hplace).mpr h

/-- Writing a file keeps all but the file that the text leads to. -/
theorem keeps_write {s text : String} (h : tree.write s text = .ok later) :
    Keeps tree later (later.LeadsTo s) := by
  obtain ⟨path, ⟨place, hplace, rfl⟩, hat, rfl⟩ := write_eq_ok.mp h
  have hput : Keeps tree (tree.put place.path (.file (.text text))) (· = place.path) :=
    keeps_put hplace (.inr hat)
  refine hput.mono ?_
  intro p hp
  exact hput.leadsTo ⟨place, hplace, hp.symm⟩

end FileTree

open FileTree

/-! ## Writing several files -/

theorem keeps_writeFiles (files : List (String × String)) (tree : FileTree)
    (log : List LogLine) : Keeps tree (writeFiles tree log files).1 fun path =>
      ∃ file ∈ files, (writeFiles tree log files).1.LeadsTo file.1 path := by
  induction files generalizing tree log with
  | nil => exact .refl tree _
  | cons file rest ih =>
    obtain ⟨name, text⟩ := file
    unfold writeFiles
    dsimp only
    cases hwrite : tree.write name text with
    | error fault => exact .refl tree _
    | ok next =>
      have hrest := ih next (log ++ [.ofProgram .info ("Writing to " ++ name)])
      dsimp only
      generalize (writeFiles next _ rest).1 = result at hrest ⊢
      have hfirst : Keeps tree next fun path =>
          ∃ file ∈ (name, text) :: rest, result.LeadsTo file.1 path :=
        (keeps_write hwrite).mono fun path hpath =>
          ⟨(name, text), List.mem_cons_self, hrest.leadsTo hpath⟩
      refine hfirst.trans (hrest.mono ?_)
      rintro path ⟨file, hfile, hpath⟩
      exact ⟨file, List.mem_cons_of_mem _ hfile, hpath⟩

end FitProfile.CommandLine
