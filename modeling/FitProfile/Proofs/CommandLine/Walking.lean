import FitProfile.CommandLine.FileTree
import FitProfile.Proofs.Outcome
/-!
# FitProfile.Proofs.CommandLine.Walking -- the way along the text of a path

The way through a file tree is taken here by paths alone: `Walks` says which directories are
passed, and where the names lead. A place that is reached knows its node and the directories
above it (`Place.Stands`), so locating a text and walking along its names come to the same
(`locate_eq_ok`, `leadsTo_iff`). What is walked once is walked again as long as the directories
stay, and what is put at one path changes no other one (`get?_put_of_ne`).
-/

namespace FitProfile.CommandLine

open FitProfile.Outcome

/-! ## What stands at other paths -/

namespace Node

theorem get?_append (node : Node) (p q : Path) :
    node.get? (p ++ q) = (node.get? p).bind fun below => below.get? q := by
  induction p generalizing node with
  | nil => rfl
  | cons name p ih =>
    rw [List.cons_append, get?, get?]
    cases node.child? name with
    | none => rfl
    | some child => exact ih child

/-- What is put at a path that directories lead to leaves all other paths as they are, unless a
file replaces a directory. -/
theorem entry_put_of_ne {entry found : Entry} {path other : Path} {node : Node}
    (habove : ∀ p q, path = p ++ q → q ≠ [] → (node.get? p).map Node.entry = some .directory)
    (hat : entry = .directory ∨ (node.get? path).map Node.entry ≠ some .directory)
    (hother : (node.get? other).map Node.entry = some found) (hne : other ≠ path) :
    ((put entry path (some node)).get? other).map Node.entry = some found := by
  induction path generalizing node other with
  | nil =>
    cases other with
    | nil => exact absurd rfl hne
    | cons name rest =>
      cases entry with
      | directory => exact hother
      | file content =>
        -- a file holds nothing that could stand further on
        cases node with
        | file old => simp [get?, child?, children] at hother
        | directory children => simp [get?, Node.entry] at hat
  | cons name rest ih =>
    have hdirectory := habove [] (name :: rest) rfl (by simp)
    cases node with
    | file content => simp [get?, Node.entry] at hdirectory
    | directory present =>
      cases other with
      | nil => exact hother
      | cons first others =>
        by_cases hfirst : first = name
        · subst hfirst
          simp only [get?, child?, children] at hother
          cases hchild : present.lookup first with
          | none => simp [hchild] at hother
          | some child =>
            have hget : ∀ p, (Node.directory present).get? (first :: p) = child.get? p := by
              intro p
              simp [get?, child?, children, hchild]
            rw [hchild] at hother
            simp only [put, get?, child?, children, Option.elim, hchild, lookup_putChild_self,
              Option.bind_some]
            apply ih
            · intro p q hpath hq
              rw [← hget]
              exact habove (first :: p) q (by rw [hpath, List.cons_append]) hq
            · rw [← hget]
              exact hat
            · exact hother
            · intro heq
              exact hne (by rw [heq])
        · simp only [put, get?, child?, children, Option.elim, lookup_putChild_of_ne hfirst]
          exact hother

end Node

namespace FileTree

variable {tree : FileTree}

theorem get?_put_of_ne {path other : Path} {entry found : Entry}
    (habove : ∀ p q, path = p ++ q → q ≠ [] → tree.get? p = some .directory)
    (hat : entry = .directory ∨ tree.get? path ≠ some .directory)
    (hother : tree.get? other = some found) (hne : other ≠ path) :
    (tree.put path entry).get? other = some found :=
  Node.entry_put_of_ne habove hat hother hne

/-- Only directories stand on the way to something. -/
theorem directory_of_get?_append {p q : Path} {entry : Entry}
    (h : tree.get? (p ++ q) = some entry) (hq : q ≠ []) : tree.get? p = some .directory := by
  obtain ⟨name, rest, rfl⟩ := List.exists_cons_of_ne_nil hq
  unfold get? at h ⊢
  rw [Node.get?_append] at h
  cases hnode : tree.root.get? p with
  | none => simp [hnode] at h
  | some node =>
    cases node with
    | file content => simp [hnode, Node.get?, Node.child?, Node.children] at h
    | directory children => rfl

end FileTree

/-! ## Places on the way -/

/-- Places that are reached from a root: each lies in a directory, which is the last one passed. -/
inductive Place.Stands (root : Node) : Place → Prop where
  | root : Stands root ⟨[], some root, []⟩
  | inside {names : List String} {directory : Node} {above : List Node} (name : String)
      (h : Stands root ⟨names, some directory, above⟩) (hdirectory : directory.entry = .directory) :
      Stands root ⟨name :: names, directory.child? name, directory :: above⟩

namespace Place.Stands

variable {root : Node} {place next : Place} {name : String}

/-- A place knows what stands at its path. -/
theorem node_eq (h : Stands root place) : place.node = root.get? place.path := by
  induction h with
  | root => rfl
  | @inside names directory above name _ _ ih =>
    have hnode : root.get? names.reverse = some directory := ih.symm
    show directory.child? name = root.get? (name :: names).reverse
    rw [List.reverse_cons, Node.get?_append, hnode, Option.bind_some, Node.get?]
    cases directory.child? name <;> rfl

/-- Directories lead to a place. -/
theorem directory (h : Stands root place) {p q : Path} (hpath : place.path = p ++ q)
    (hq : q ≠ []) : (root.get? p).map Node.entry = some .directory := by
  induction h generalizing q with
  | root =>
    have hnil : [] = p ++ q := hpath
    exact absurd (List.append_eq_nil_iff.mp hnil.symm).2 hq
  | @inside names directory above name h hdirectory ih =>
    obtain ⟨rest, last, rfl⟩ := List.eq_nil_or_concat q |>.resolve_left hq
    have hnames : names.reverse = p ++ rest := by
      have hconcat : names.reverse ++ [name] = (p ++ rest) ++ [last] := by
        rw [← List.reverse_cons, List.append_assoc, ← List.concat_eq_append]
        exact hpath
      exact (List.append_inj' hconcat rfl).1
    cases rest with
    | nil =>
      have hnode : root.get? p = some directory := by
        rw [← List.append_nil p, ← hnames]
        exact h.node_eq.symm
      rw [hnode, Option.map_some, hdirectory]
    | cons first rest => exact ih hnames (by simp)

theorem leave (h : Stands root place) :
    Stands root place.leave ∧ place.leave.path = place.path.dropLast := by
  cases h with
  | root => exact ⟨.root, rfl⟩
  | @inside names directory above name h hdirectory =>
    refine ⟨h, ?_⟩
    show names.reverse = (name :: names).reverse.dropLast
    rw [List.reverse_cons, List.dropLast_concat]

theorem enter (h : Stands root place) {directory : Node} (hnode : place.node = some directory)
    (hdirectory : directory.entry = .directory) (name : String) :
    Stands root (place.enter directory name) ∧
      (place.enter directory name).path = place.path.enter name := by
  obtain ⟨names, node, above⟩ := place
  obtain rfl : node = some directory := hnode
  unfold Place.enter Path.enter
  split
  · exact ⟨h, rfl⟩
  · split
    · exact h.leave
    · refine ⟨.inside name h hdirectory, ?_⟩
      exact List.reverse_cons

/-- A name that is taken is taken in a directory. -/
theorem of_step (h : Stands root place) (hstep : place.step name = .ok next) :
    (root.get? place.path).map Node.entry = some .directory ∧
      name.utf8ByteSize ≤ Place.longestName ∧ Stands root next ∧
      next.path = place.path.enter name := by
  rw [← h.node_eq]
  unfold Place.step at hstep
  split at hstep
  next => cases hstep
  next => cases hstep
  next directory hfile hnode =>
    split at hstep
    next => cases hstep
    next hshort =>
      cases hstep
      have hdirectory : directory.entry = .directory := by
        cases directory with
        | file content => exact (hfile content rfl).elim
        | directory children => rfl
      obtain ⟨hstands, hpath⟩ := h.enter hnode hdirectory name
      refine ⟨?_, Nat.le_of_not_lt hshort, hstands, hpath⟩
      rw [hnode, Option.map_some, hdirectory]

/-- Where a directory stands a name can be taken, if it is not too long. -/
theorem exists_step (h : Stands root place)
    (hdirectory : (root.get? place.path).map Node.entry = some .directory)
    (hname : name.utf8ByteSize ≤ Place.longestName) : ∃ next, place.step name = .ok next := by
  rw [← h.node_eq] at hdirectory
  unfold Place.step
  split
  next hnode => simp [hnode] at hdirectory
  next hnode => simp [hnode, Node.entry] at hdirectory
  next directory _ _ => exact ⟨place.enter directory name, if_neg (Nat.not_lt.mpr hname)⟩

end Place.Stands

namespace FileTree

variable {tree : FileTree}

/-! ## Walking along names -/

/-- Names that lead from one path to another, past directories only. -/
inductive Walks (tree : FileTree) : Path → List String → Path → Prop where
  | stop (path : Path) : Walks tree path [] path
  | step {path last : Path} {name : String} {names : List String}
      (hdirectory : tree.get? path = some .directory)
      (hname : name.utf8ByteSize ≤ Place.longestName)
      (h : Walks tree (path.enter name) names last) : Walks tree path (name :: names) last

namespace Walks

variable {later : FileTree} {path last other : Path} {names more : List String}

theorem append_iff : Walks tree path (names ++ more) last ↔
    ∃ middle, Walks tree path names middle ∧ Walks tree middle more last := by
  constructor
  · intro h
    induction names generalizing path with
    | nil => exact ⟨path, .stop path, h⟩
    | cons name names ih =>
      cases h with
      | step hdirectory hname h =>
        obtain ⟨middle, hfirst, hsecond⟩ := ih h
        exact ⟨middle, .step hdirectory hname hfirst, hsecond⟩
  · rintro ⟨middle, hfirst, hsecond⟩
    induction hfirst with
    | stop path => exact hsecond
    | step hdirectory hname _ ih => exact .step hdirectory hname (ih hsecond)

/-- Names lead to one path only. -/
theorem unique (h : Walks tree path names last) (h' : Walks tree path names other) :
    last = other := by
  induction h with
  | stop path =>
    cases h'
    rfl
  | step _ _ _ ih =>
    cases h' with
    | step _ _ h' => exact ih h'

/-- A way stays as long as its directories stay. -/
theorem mono (h : Walks tree path names last)
    (hstay : ∀ p, tree.get? p = some .directory → later.get? p = some .directory) :
    Walks later path names last := by
  induction h with
  | stop path => exact .stop path
  | step hdirectory hname _ ih => exact .step (hstay _ hdirectory) hname ih

/-- Without a double dot a way only goes on. -/
theorem exists_append (h : Walks tree path names last) (hdots : ".." ∉ names) :
    ∃ rest, last = path ++ rest := by
  induction h with
  | stop path => exact ⟨[], (List.append_nil path).symm⟩
  | @step path last name names _ _ _ ih =>
    rw [List.mem_cons, not_or] at hdots
    obtain ⟨rest, rfl⟩ := ih hdots.2
    unfold Path.enter
    split
    · exact ⟨rest, rfl⟩
    · rw [if_neg (fun heq => hdots.1 heq.symm), List.append_assoc]
      exact ⟨[_] ++ rest, rfl⟩

/-- A way that only goes on to a directory passes directories that were there before. -/
theorem earlier (h : Walks later path names last) (hdots : ".." ∉ names)
    (hlast : tree.get? last = some .directory) : Walks tree path names last := by
  induction h with
  | stop path => exact .stop path
  | @step path last name names hdirectory hname h ih =>
    have hall : Walks later path (name :: names) last := .step hdirectory hname h
    obtain ⟨rest, rfl⟩ := hall.exists_append hdots
    refine .step ?_ hname (ih (fun hmem => hdots (List.mem_cons_of_mem _ hmem)) hlast)
    cases rest with
    | nil => rwa [List.append_nil] at hlast
    | cons first rest => exact directory_of_get?_append hlast (by simp)

end Walks

/-- Going on from a place is walking on from its path. -/
theorem walks_of_foldlM {place last : Place} {names : List String}
    (hplace : place.Stands tree.root) (h : names.foldlM Place.step place = .ok last) :
    last.Stands tree.root ∧ Walks tree place.path names last.path := by
  induction names generalizing place with
  | nil =>
    cases h
    exact ⟨hplace, .stop _⟩
  | cons name names ih =>
    rw [List.foldlM_cons] at h
    obtain ⟨next, hnext, h⟩ := bind_eq_ok.mp h
    obtain ⟨hdirectory, hname, hstands, hpath⟩ := hplace.of_step hnext
    obtain ⟨hlast, hwalks⟩ := ih hstands h
    rw [hpath] at hwalks
    exact ⟨hlast, .step hdirectory hname hwalks⟩

theorem exists_foldlM_of_walks {place : Place} {names : List String} {path : Path}
    (hplace : place.Stands tree.root) (h : Walks tree place.path names path) :
    ∃ last, names.foldlM Place.step place = .ok last := by
  induction names generalizing place with
  | nil => exact ⟨place, rfl⟩
  | cons name names ih =>
    cases h with
    | step hdirectory hname h =>
      obtain ⟨next, hnext⟩ := hplace.exists_step hdirectory hname
      obtain ⟨-, -, hstands, hpath⟩ := hplace.of_step hnext
      rw [← hpath] at h
      obtain ⟨last, hlast⟩ := ih hstands h
      exact ⟨last, by rw [List.foldlM_cons]; exact bind_eq_ok.mpr ⟨next, hnext, hlast⟩⟩

/-! ## Locating texts -/

/-- Texts that can be the text of a path. -/
def IsPathText (s : String) : Prop :=
  s.toList.contains '\x00' = false ∧ s.toList.isEmpty = false ∧ s.utf8ByteSize ≤ longestPath

/-- The names that a text leads along from the root. -/
def way (tree : FileTree) (s : String) : Path :=
  if Path.fromRoot s then Path.names s else tree.working ++ Path.names s

/-- A text that leads to a path. -/
def LeadsTo (tree : FileTree) (s : String) (path : Path) : Prop :=
  ∃ place, tree.locate s = .ok place ∧ place.path = path

theorem locate_eq_ok {s : String} {place : Place} : tree.locate s = .ok place ↔
    IsPathText s ∧ (tree.way s).foldlM Place.step (Place.root tree.root) = .ok place := by
  have hway : (tree.way s).foldlM Place.step (Place.root tree.root) =
      (tree.start s >>= fun place => (Path.names s).foldlM Place.step place) := by
    unfold way start
    split
    · rfl
    · exact List.foldlM_append
  rw [hway]
  unfold locate IsPathText
  cases s.toList.contains '\x00' with
  | true => simp [bind, Except.bind, throw, throwThe, MonadExceptOf.throw]
  | false =>
    cases s.toList.isEmpty with
    | true => simp [bind, Except.bind, throw, throwThe, MonadExceptOf.throw]
    | false =>
      by_cases hlong : longestPath < s.utf8ByteSize
      · simp [hlong, Nat.not_le.mpr hlong, bind, Except.bind, throw, throwThe,
          MonadExceptOf.throw]
      · simp [hlong, Nat.le_of_not_lt hlong, bind, Except.bind]

/-- The place that a text leads to knows what stands there. -/
theorem node_of_locate {s : String} {place : Place} (h : tree.locate s = .ok place) :
    place.node.map Node.entry = tree.get? place.path := by
  obtain ⟨hstands, -⟩ := walks_of_foldlM .root (locate_eq_ok.mp h).2
  rw [hstands.node_eq]
  rfl

/-- Directories lead to the place of a text. -/
theorem directory_of_locate {s : String} {place : Place} (h : tree.locate s = .ok place)
    {p q : Path} (hpath : place.path = p ++ q) (hq : q ≠ []) : tree.get? p = some .directory :=
  (walks_of_foldlM .root (locate_eq_ok.mp h).2).1.directory hpath hq

theorem leadsTo_iff {s : String} {path : Path} :
    tree.LeadsTo s path ↔ IsPathText s ∧ Walks tree [] (tree.way s) path := by
  constructor
  · rintro ⟨place, hplace, rfl⟩
    obtain ⟨htext, hfold⟩ := locate_eq_ok.mp hplace
    exact ⟨htext, (walks_of_foldlM .root hfold).2⟩
  · rintro ⟨htext, hwalks⟩
    have hroot : Place.Stands tree.root (Place.root tree.root) := .root
    obtain ⟨place, hfold⟩ := exists_foldlM_of_walks hroot hwalks
    refine ⟨place, locate_eq_ok.mpr ⟨htext, hfold⟩, ?_⟩
    exact (walks_of_foldlM hroot hfold).2.unique hwalks

theorem find_of_locate {s : String} {place : Place} (h : tree.locate s = .ok place) :
    tree.find s = match place.node with
      | none => .error .notFound
      | some (.directory _) => .ok .directory
      | some (.file content) =>
        if Path.endsInSlash s then .error .notADirectory else .ok (.file content) := by
  unfold find
  rw [h]
  rfl

/-- A text leads to one path only. -/
theorem LeadsTo.unique {s : String} {path other : Path} (h : tree.LeadsTo s path)
    (h' : tree.LeadsTo s other) : path = other :=
  (leadsTo_iff.mp h).2.unique (leadsTo_iff.mp h').2

/-- A text finds what stands where it leads to; behind a slash only a directory is found. -/
theorem find_eq_ok {s : String} {entry : Entry} : tree.find s = .ok entry ↔
    (∃ path, tree.LeadsTo s path ∧ tree.get? path = some entry) ∧
      (entry = .directory ∨ Path.endsInSlash s = false) := by
  have hnode : ∀ place, tree.locate s = .ok place → (tree.find s = .ok entry ↔
      place.node.map Node.entry = some entry ∧
        (entry = .directory ∨ Path.endsInSlash s = false)) := by
    intro place hplace
    rw [find_of_locate hplace]
    rcases place.node with _ | (content | children)
    · simp
    · cases Path.endsInSlash s <;> cases entry <;> simp [Node.entry]
    · cases entry <;> simp [Node.entry]
  constructor
  · intro hfind
    obtain ⟨place, hplace, -⟩ := bind_eq_ok.mp hfind
    obtain ⟨hentry, hslash⟩ := (hnode place hplace).mp hfind
    rw [node_of_locate hplace] at hentry
    exact ⟨⟨place.path, ⟨place, hplace, rfl⟩, hentry⟩, hslash⟩
  · rintro ⟨⟨path, ⟨place, hplace, rfl⟩, hentry⟩, hslash⟩
    rw [← node_of_locate hplace] at hentry
    exact (hnode place hplace).mpr ⟨hentry, hslash⟩

theorem hasDirectory_iff {s : String} : tree.hasDirectory s = true ↔
    ∃ path, tree.LeadsTo s path ∧ tree.get? path = some .directory := by
  have hfind : tree.hasDirectory s = true ↔ tree.find s = .ok .directory := by
    unfold hasDirectory
    cases tree.find s <;> simp [Except.toOption]
  rw [hfind, find_eq_ok]
  simp

end FileTree

end FitProfile.CommandLine
