import FitProfile.Proofs.CommandLine.Joining
import FitProfile.Proofs.CommandLine.Keeping
/-!
# FitProfile.Proofs.CommandLine.Writing -- what file operations write

The other side of what file operations keep: a file in the tree that is left was there before, or
holds a text that was written to it (`WritesOnly`), and making directories leaves the same files
(`SameFiles`). A text that was written is read back, also after files of other names have been
written next to it; and where it is read, writing it again changes nothing at all.
-/

namespace FitProfile.CommandLine

open FitProfile.Outcome

/-! ## Putting in place, seen from the tree that is left -/

namespace Node

/-- A file elsewhere was there before something was put in place. -/
theorem file_of_put {entry : Entry} {path other : Path} {old : Option Node} {content : Content}
    (h : ((put entry path old).get? other).map Node.entry = some (.file content))
    (hne : other ≠ path) :
    (old.bind fun node => node.get? other).map Node.entry = some (.file content) := by
  induction path generalizing old other with
  | nil =>
    obtain ⟨name, rest, rfl⟩ := List.exists_cons_of_ne_nil hne
    cases entry with
    | file new => simp [put, renew, get?, child?, children] at h
    | directory =>
      cases old with
      | none => simp [put, renew, get?, child?, children] at h
      | some node => exact h
  | cons name rest ih =>
    cases other with
    | nil => simp [put, get?, Node.entry] at h
    | cons first others =>
      have hold : ∀ found : Option Node,
          (old.elim [] children).lookup first = found →
          (old.bind fun node => node.get? (first :: others)) =
            found.bind fun child => child.get? others := by
        rintro found rfl
        cases old <;> rfl
      by_cases hfirst : first = name
      · subst hfirst
        rw [put, get?, child?, children, lookup_putChild_self] at h
        rw [hold _ rfl]
        exact ih h fun heq => hne (by rw [heq])
      · rw [put, get?, child?, children, lookup_putChild_of_ne hfirst] at h
        rw [hold _ rfl]
        exact h

theorem putChild_same {name : String} {child : Node} {children : List (String × Node)}
    (h : children.lookup name = some child) : putChild name child children = children := by
  induction children with
  | nil => cases h
  | cons c rest ih =>
    obtain ⟨other, node⟩ := c
    unfold putChild
    by_cases hname : other = name
    · subst hname
      rw [List.lookup_cons_self] at h
      cases h
      exact if_pos rfl
    · have hne : (name == other) = false := beq_eq_false_iff_ne.mpr fun heq => hname heq.symm
      rw [List.lookup_cons, hne] at h
      rw [if_neg hname, ih h]

/-- Putting a file where it is already changes nothing. -/
theorem put_same {path : Path} {node : Node} {content : Content}
    (h : (node.get? path).map Node.entry = some (.file content)) :
    put (.file content) path (some node) = node := by
  induction path generalizing node with
  | nil =>
    cases node with
    | file found =>
      cases h
      rfl
    | directory children => cases h
  | cons name rest ih =>
    cases node with
    | file found => simp [get?, child?, children] at h
    | directory present =>
      rw [get?, child?, children] at h
      cases hchild : present.lookup name with
      | none => simp [hchild] at h
      | some child =>
        rw [hchild, Option.bind_some] at h
        simp only [put, Option.elim, children, hchild]
        rw [ih h, putChild_same hchild]

end Node

namespace FileTree

variable {tree later last : FileTree} {written more : Path → String → Prop}

/-- A later tree in which each file was there before, or holds a text that was written to it. -/
def WritesOnly (tree later : FileTree) (written : Path → String → Prop) : Prop :=
  ∀ path content, later.get? path = some (.file content) →
    tree.get? path = some (.file content) ∨ ∃ text, content = .text text ∧ written path text

namespace WritesOnly

theorem refl (tree : FileTree) (written : Path → String → Prop) : WritesOnly tree tree written :=
  fun _ _ h => .inl h

theorem mono (h : WritesOnly tree later written)
    (hmore : ∀ path text, written path text → more path text) : WritesOnly tree later more := by
  intro path content hfile
  refine (h path content hfile).imp_right ?_
  rintro ⟨text, rfl, hwritten⟩
  exact ⟨text, rfl, hmore path text hwritten⟩

theorem trans (h : WritesOnly tree later written) (h' : WritesOnly later last written) :
    WritesOnly tree last written := by
  intro path content hfile
  rcases h' path content hfile with hstill | hwritten
  · exact h path content hstill
  · exact .inr hwritten

end WritesOnly

/-- The same files with the same content; there may be other directories. -/
def SameFiles (tree later : FileTree) : Prop :=
  ∀ path content, later.get? path = some (.file content) ↔ tree.get? path = some (.file content)

/-! ## Single operations -/

theorem writesOnly_makeDirectory (tree : FileTree) (s : String)
    (written : Path → String → Prop) : WritesOnly tree (tree.makeDirectory s).1 written := by
  unfold makeDirectory
  split
  next => exact .refl tree written
  next place hplace =>
    split
    next =>
      intro path content hfile
      by_cases hpath : path = place.path
      · rw [hpath, get?_put_self] at hfile
        cases hfile
      · exact .inl (Node.file_of_put hfile hpath)
    next => exact .refl tree written

theorem writesOnly_makeDirectories (tree : FileTree) (s : String)
    (written : Path → String → Prop) : WritesOnly tree (tree.makeDirectories s).1 written :=
  makeNested_of_steps (R := fun tree later => WritesOnly tree later written) (fun _ => .refl _ _)
    (fun h h' => h.trans h') (fun tree s => writesOnly_makeDirectory tree s written) _ tree _

theorem sameFiles_makeDirectories (tree : FileTree) (s : String) :
    SameFiles tree (tree.makeDirectories s).1 := by
  intro path content
  constructor
  · intro hfile
    rcases writesOnly_makeDirectories tree s (fun _ _ => False) path content hfile with
      hstill | ⟨text, -, hwritten⟩
    · exact hstill
    · exact hwritten.elim
  · intro hfile
    exact ((keeps_makeDirectories tree s fun _ => False).files path content hfile).resolve_right id

/-- Making a directory that is there changes nothing. -/
theorem makeDirectories_same {s : String} (h : tree.hasDirectory s = true) :
    tree.makeDirectories s = (tree, none) := by
  have hmake : tree.makeDirectory s = (tree, none) := by
    obtain ⟨path, ⟨place, hplace, rfl⟩, hat⟩ := hasDirectory_iff.mp h
    rw [← node_of_locate hplace] at hat
    obtain ⟨node, hnode, -⟩ := Option.map_eq_some_iff.mp hat
    unfold makeDirectory
    rw [hplace]
    dsimp only
    rw [hnode]
    dsimp only
    rw [if_pos h]
  -- the directory that it lies in is there as well, so nothing above it is made
  have habove : ((Path.parent s.toList).1.isEmpty || (Path.parent s.toList).2.isEmpty ||
      tree.contains (String.ofList (Path.parent s.toList).1)) = true := by
    simp only [Bool.or_eq_true, List.isEmpty_iff]
    by_cases habove : (Path.parent s.toList).1 = []
    · exact .inl (.inl habove)
    · by_cases hlast : (Path.parent s.toList).2 = []
      · exact .inl (.inr hlast)
      · refine .inr ?_
        obtain ⟨path, hpath⟩ := hasDirectory_iff.mp (hasDirectory_parent h habove hlast)
        unfold contains
        rw [find_eq_ok.mpr ⟨⟨path, hpath⟩, .inl rfl⟩]
        rfl
  unfold makeDirectories deepestNesting
  rw [makeNested, String.ofList_toList, hmake]
  exact if_pos habove

theorem read_eq_ok {s : String} {content : Content} : tree.read s = .ok content ↔
    (∃ path, tree.LeadsTo s path ∧ tree.get? path = some (.file content)) ∧
      Path.endsInSlash s = false := by
  have hfind : tree.read s = .ok content ↔ tree.find s = .ok (.file content) := by
    unfold read
    rcases tree.find s with fault | (_ | found) <;>
      simp [bind, Except.bind, throw_ne_ok, pure_eq_ok]
  rw [hfind, find_eq_ok]
  simp

theorem writesOnly_write {s text : String} (h : tree.write s text = .ok later) :
    WritesOnly tree later fun path t => t = text ∧ later.LeadsTo s path := by
  have hkeeps := keeps_write h
  obtain ⟨place, hplace, -, rfl⟩ := write_eq_ok.mp h
  intro path content hfile
  by_cases hpath : path = place
  · rw [hpath, get?_put_self] at hfile
    cases hfile
    rw [hpath]
    exact .inr ⟨text, rfl, rfl, hkeeps.leadsTo hplace⟩
  · exact .inl (Node.file_of_put hfile hpath)

/-- What has been written is read. -/
theorem read_of_write {s text : String} (h : tree.write s text = .ok later)
    (hslash : Path.endsInSlash s = false) : later.read s = .ok (.text text) := by
  have hkeeps := keeps_write h
  obtain ⟨path, hpath, -, rfl⟩ := write_eq_ok.mp h
  exact read_eq_ok.mpr ⟨⟨path, hkeeps.leadsTo hpath, get?_put_self tree path _⟩, hslash⟩

/-- What is read is still read after other files have been written. -/
theorem Keeps.read {written : Path → Prop} (h : Keeps tree later written) {s : String}
    {content : Content} (hread : tree.read s = .ok content)
    (hother : ∀ path, later.LeadsTo s path → ¬ written path) : later.read s = .ok content := by
  obtain ⟨⟨path, hleads, hfile⟩, hslash⟩ := read_eq_ok.mp hread
  have hlater := h.leadsTo hleads
  have hstill := (h.files path content hfile).resolve_right (hother path hlater)
  exact read_eq_ok.mpr ⟨⟨path, hlater, hstill⟩, hslash⟩

/-- Writing what is there already changes nothing. -/
theorem write_same {s text : String} (h : tree.read s = .ok (.text text)) :
    tree.write s text = .ok tree := by
  obtain ⟨⟨path, hleads, hfile⟩, -⟩ := read_eq_ok.mp h
  refine write_eq_ok.mpr ⟨path, hleads, by simp [hfile], ?_⟩
  unfold put
  rw [Node.put_same hfile]

/-- Behind a text in a directory stands a directory, if the file cannot be written though the
text is not too long. -/
theorem hasDirectory_of_write_error {directory name text : String} {fault : FileFault}
    (hdirectory : directory.toList ≠ []) (hthere : tree.hasDirectory directory = true)
    (hname : Path.IsName name) (h : tree.write (Path.join directory name) text = .error fault)
    (hlong : (Path.join directory name).utf8ByteSize ≤ longestPath) :
    tree.hasDirectory (Path.join directory name) = true := by
  obtain ⟨above, hleads, hat⟩ := hasDirectory_iff.mp hthere
  have hjoin : tree.LeadsTo (Path.join directory name) (above ++ [name]) :=
    (leadsTo_join_iff hdirectory hname).mpr ⟨hlong, above, rfl, hleads, hat⟩
  refine hasDirectory_iff.mpr ⟨_, hjoin, ?_⟩
  by_contra hfree
  rw [write_eq_ok.mpr ⟨_, hjoin, hfree, rfl⟩] at h
  cases h

end FileTree

open FileTree

/-! ## Several files -/

theorem writesOnly_writeFiles (files : List (String × String)) (tree : FileTree)
    (log : List LogLine) : WritesOnly tree (writeFiles tree log files).1 fun path text =>
      ∃ file ∈ files, text = file.2 ∧ (writeFiles tree log files).1.LeadsTo file.1 path := by
  induction files generalizing tree log with
  | nil => exact .refl tree _
  | cons file rest ih =>
    obtain ⟨name, text⟩ := file
    unfold writeFiles
    dsimp only
    cases hwrite : tree.write name text with
    | error fault => exact .refl tree _
    | ok next =>
      have hrest := ih next (log ++ [.ofProgram .info ("Writing to " ++ name)])
      have hkeeps := keeps_writeFiles rest next (log ++ [.ofProgram .info ("Writing to " ++ name)])
      dsimp only
      generalize (writeFiles next _ rest).1 = result at hrest hkeeps ⊢
      have hfirst : WritesOnly tree next fun path t =>
          ∃ file ∈ (name, text) :: rest, t = file.2 ∧ result.LeadsTo file.1 path :=
        (writesOnly_write hwrite).mono fun path t hpath =>
          ⟨(name, text), List.mem_cons_self, hpath.1, hkeeps.leadsTo hpath.2⟩
      refine hfirst.trans (hrest.mono ?_)
      rintro path t ⟨file, hfile, htext, hpath⟩
      exact ⟨file, List.mem_cons_of_mem _ hfile, htext, hpath⟩

theorem writeFiles_append (files more : List (String × String)) (tree : FileTree)
    (log : List LogLine) : writeFiles tree log (files ++ more) =
      match writeFiles tree log files with
      | (next, log', none) => writeFiles next log' more
      | failed => failed := by
  induction files generalizing tree log with
  | nil => rfl
  | cons file rest ih =>
    obtain ⟨name, text⟩ := file
    rw [List.cons_append, writeFiles, writeFiles]
    cases tree.write name text with
    | error fault => rfl
    | ok next => exact ih next _

/-- Where writing stops, the file in question cannot be written, and those before it have been. -/
theorem exists_of_writeFiles_error {files : List (String × String)} {tree : FileTree}
    {log : List LogLine} {fault : FileFault}
    (h : (writeFiles tree log files).2.2 = some fault) :
    ∃ done file rest, files = done ++ file :: rest ∧
      (writeFiles tree log files).1.write file.1 file.2 = .error fault ∧
      (∀ earlier ∈ done, ∃ path, (writeFiles tree log files).1.LeadsTo earlier.1 path) ∧
      (done = [] → (writeFiles tree log files).1 = tree) := by
  induction files generalizing tree log with
  | nil => cases h
  | cons file rest ih =>
    obtain ⟨name, text⟩ := file
    unfold writeFiles at h ⊢
    dsimp only at h ⊢
    cases hwrite : tree.write name text with
    | error stop =>
      rw [hwrite] at h
      cases h
      exact ⟨[], (name, text), rest, rfl, hwrite, by simp, fun _ => rfl⟩
    | ok next =>
      rw [hwrite] at h
      dsimp only at h ⊢
      obtain ⟨done, stop, others, hrest, herror, hdone, -⟩ := ih h
      have hkeeps := keeps_write hwrite
      obtain ⟨path, hpath, -, -⟩ := write_eq_ok.mp hwrite
      refine ⟨(name, text) :: done, stop, others, ?_, herror, ?_, ?_⟩
      · rw [hrest, List.cons_append]
      · rw [List.forall_mem_cons]
        exact ⟨⟨path, (keeps_writeFiles rest next _).leadsTo (hkeeps.leadsTo hpath)⟩, hdone⟩
      · intro hnil
        cases hnil

/-- Files that have all been written are read, if no two of them are the same. -/
theorem read_of_writeFiles {files : List (String × String)} {tree : FileTree}
    {log : List LogLine} (h : (writeFiles tree log files).2.2 = none)
    (hslash : ∀ file ∈ files, Path.endsInSlash file.1 = false)
    (hother : files.Pairwise fun file other =>
      ∀ (tree : FileTree) path, tree.LeadsTo file.1 path → ¬ tree.LeadsTo other.1 path) :
    ∀ file ∈ files, (writeFiles tree log files).1.read file.1 = .ok (.text file.2) := by
  induction files generalizing tree log with
  | nil => simp
  | cons file rest ih =>
    obtain ⟨name, text⟩ := file
    rw [List.forall_mem_cons] at hslash
    obtain ⟨hname, hrest⟩ := List.pairwise_cons.mp hother
    unfold writeFiles at h ⊢
    dsimp only at h ⊢
    cases hwrite : tree.write name text with
    | error fault =>
      rw [hwrite] at h
      cases h
    | ok next =>
      rw [hwrite] at h
      dsimp only at h ⊢
      rw [List.forall_mem_cons]
      refine ⟨?_, ih h hslash.2 hrest⟩
      refine (keeps_writeFiles rest next _).read (read_of_write hwrite hslash.1) ?_
      rintro path hleads ⟨other, hmem, hpath⟩
      exact hname other hmem _ path hleads hpath

/-- Writing files that are all there already changes nothing. -/
theorem writeFiles_same {files : List (String × String)} {tree : FileTree}
    (h : ∀ file ∈ files, tree.read file.1 = .ok (.text file.2)) (log : List LogLine) :
    (writeFiles tree log files).1 = tree ∧ (writeFiles tree log files).2.2 = none := by
  induction files generalizing log with
  | nil => exact ⟨rfl, rfl⟩
  | cons file rest ih =>
    obtain ⟨name, text⟩ := file
    rw [List.forall_mem_cons] at h
    unfold writeFiles
    dsimp only
    rw [write_same h.1]
    exact ih h.2 _

end FitProfile.CommandLine
