import FitProfile.Proofs.CommandLine.Walking
import Mathlib.Data.List.TakeWhile
/-!
# FitProfile.Proofs.CommandLine.Joining -- files in a directory

The text of a file in a directory is the text of the directory and a name behind it. It leads to
the place of that name below the path of the directory, and it does so just when the directory is
there and the text is not too long (`leadsTo_join_iff`). So files of different names are different
files, whatever text names the directory. The other way round, the text of a directory can be cut
in front of its last name, and what is left leads to a directory too (`hasDirectory_parent`).
-/

namespace FitProfile.CommandLine

open FitProfile.Text

/-! ## Texts of files in a directory -/

namespace Path

/-- The names in the text of a path, as characters. -/
def pieces (cs : List Char) : List (List Char) :=
  (splitAtChar '/' cs).filter fun piece => !piece.isEmpty

theorem pieces_append (cs ds : List Char) : pieces (cs ++ '/' :: ds) = pieces cs ++ pieces ds := by
  unfold pieces
  rw [splitAtChar_append, List.filter_append]

theorem pieces_slash (cs : List Char) : pieces (cs ++ ['/']) = pieces cs := by
  rw [pieces_append]
  exact List.append_nil _

theorem pieces_of_notMem {cs : List Char} (h : '/' ∉ cs) (hne : cs ≠ []) : pieces cs = [cs] := by
  unfold pieces
  rw [splitAtChar_of_notMem h]
  simp [hne]

/-- Names that lead on by one step. -/
structure IsName (name : String) : Prop where
  slashless : '/' ∉ name.toList
  nulless : '\x00' ∉ name.toList
  nonempty : name.toList ≠ []
  short : name.utf8ByteSize ≤ Place.longestName
  single : name ≠ "."
  double : name ≠ ".."

variable {directory name : String}

/-- The text of a file in a directory, with the slash between the two in sight. -/
theorem toList_join (directory name : String) : ∃ head : List Char,
    (join directory name).toList = head ++ '/' :: name.toList ∧
      (directory.toList = head ++ ['/'] ∨ directory.toList = head) := by
  unfold join
  by_cases hslash : endsInSlash directory = true
  · rw [if_pos hslash]
    obtain ⟨head, hhead⟩ := List.getLast?_eq_some_iff.mp (beq_iff_eq.mp hslash)
    exact ⟨head, by rw [String.toList_append, hhead, List.append_assoc]; rfl, .inl hhead⟩
  · rw [if_neg hslash]
    refine ⟨directory.toList, ?_, .inr rfl⟩
    rw [String.toList_append, String.toList_append, List.append_assoc]
    rfl

theorem names_join (hname : IsName name) :
    names (join directory name) = names directory ++ [name] := by
  obtain ⟨head, hjoin, hdirectory⟩ := toList_join directory name
  have hhead : pieces directory.toList = pieces head := by
    rcases hdirectory with hslash | hplain
    · rw [hslash, pieces_slash]
    · rw [hplain]
  show (pieces (join directory name).toList).map String.ofList =
    (pieces directory.toList).map String.ofList ++ [name]
  rw [hjoin, pieces_append, pieces_of_notMem hname.slashless hname.nonempty, hhead,
    List.map_append, List.map_singleton, String.ofList_toList]

theorem fromRoot_join (hdirectory : directory.toList ≠ []) :
    fromRoot (join directory name) = fromRoot directory := by
  unfold fromRoot join
  split
  · rw [String.toList_append, List.head?_append_of_ne_nil _ hdirectory]
  · rw [String.toList_append, String.toList_append, List.append_assoc,
      List.head?_append_of_ne_nil _ hdirectory]

theorem endsInSlash_join (hname : IsName name) : endsInSlash (join directory name) = false := by
  obtain ⟨head, hjoin, -⟩ := toList_join directory name
  unfold endsInSlash
  rw [hjoin, List.append_cons, List.getLast?_append_of_ne_nil _ hname.nonempty]
  rw [beq_eq_false_iff_ne]
  intro hlast
  exact hname.slashless (List.mem_of_getLast? hlast)

/-! ## The directory that a directory lies in -/

theorem trimSlashes_isPrefix (cs : List Char) : trimSlashes cs <+: cs := by
  unfold trimSlashes
  split
  · exact List.prefix_rfl
  · rw [← List.reverse_suffix, List.reverse_reverse]
    exact List.dropWhile_suffix _

theorem pieces_trimSlashes (cs : List Char) : pieces (trimSlashes cs) = pieces cs := by
  have hstrip : ∀ back : List Char,
      pieces (back.dropWhile (· == '/')).reverse = pieces back.reverse := by
    intro back
    induction back with
    | nil => rfl
    | cons c back ih =>
      rw [List.dropWhile_cons]
      split
      next hslash =>
        rw [List.reverse_cons, beq_iff_eq.mp hslash, pieces_slash]
        exact ih
      next => rfl
  unfold trimSlashes
  split
  · rfl
  · rw [hstrip, List.reverse_reverse]

/-- The last piece of a text, behind the slash that ends the way to it. -/
theorem exists_splitLast (cs : List Char) : ∃ head, cs = head ++ (splitLast cs).2 ∧
    (splitLast cs).1 = trimSlashes head ∧ '/' ∉ (splitLast cs).2 ∧
      (head = [] ∨ ∃ front, head = front ++ ['/']) := by
  refine ⟨(cs.reverse.dropWhile (· != '/')).reverse, ?_, rfl, ?_, ?_⟩
  · rw [splitLast, ← List.reverse_append, List.takeWhile_append_dropWhile, List.reverse_reverse]
  · intro hmem
    have hslash := List.mem_takeWhile_imp (List.mem_reverse.mp hmem)
    simp at hslash
  · cases hback : cs.reverse.dropWhile (· != '/') with
    | nil => exact .inl rfl
    | cons c back =>
      have hslash := List.head?_dropWhile_not (· != '/') cs.reverse
      rw [hback] at hslash
      obtain rfl : c = '/' := by simpa using hslash
      exact .inr ⟨back.reverse, List.reverse_cons⟩

theorem pieces_splitLast (cs : List Char) : (splitLast cs).1 <+: cs ∧
    pieces cs = pieces (splitLast cs).1 ++ [(splitLast cs).2].filter fun p => !p.isEmpty := by
  obtain ⟨head, hcs, htrim, hslash, hhead⟩ := exists_splitLast cs
  rw [htrim, pieces_trimSlashes]
  refine ⟨(trimSlashes_isPrefix head).trans ⟨_, hcs.symm⟩, ?_⟩
  have hlast : pieces (splitLast cs).2 = [(splitLast cs).2].filter fun p => !p.isEmpty := by
    unfold pieces
    rw [splitAtChar_of_notMem hslash]
  rw [← hlast]
  rcases hhead with rfl | ⟨front, rfl⟩
  · exact congrArg pieces hcs
  · rw [pieces_slash]
    conv_lhs => rw [hcs]
    rw [List.append_assoc, List.singleton_append, pieces_append]

/-- The directory that a directory lies in, and the name that leads on from it. -/
theorem pieces_parent {cs : List Char} (h : (parent cs).2 ≠ []) : (parent cs).1 <+: cs ∧
    pieces cs = pieces (parent cs).1 ++ [(parent cs).2] := by
  obtain ⟨hfront, hpieces⟩ := pieces_splitLast cs
  unfold parent at h ⊢
  generalize splitLast cs = parts at h hfront hpieces
  obtain ⟨head, last⟩ := parts
  cases last with
  | nil =>
    -- the text ends in a slash, so the name stands in front of it
    obtain ⟨hfront', hpieces'⟩ := pieces_splitLast head
    refine ⟨hfront'.trans hfront, ?_⟩
    rw [hpieces, hpieces']
    simpa using h
  | cons c last => exact ⟨hfront, hpieces⟩

end Path

namespace FileTree

variable {tree : FileTree} {directory name : String} {path : Path}

theorem way_join (hdirectory : directory.toList ≠ []) (hname : Path.IsName name) :
    tree.way (Path.join directory name) = tree.way directory ++ [name] := by
  unfold way
  rw [Path.fromRoot_join hdirectory, Path.names_join hname]
  split
  · rfl
  · exact (List.append_assoc _ _ _).symm

theorem IsPathText.of_isPrefix {s t : String} (h : IsPathText t) (hne : s.toList ≠ [])
    (hfront : s.toList <+: t.toList) : IsPathText s := by
  obtain ⟨hnull, -, hshort⟩ := h
  obtain ⟨rest, hrest⟩ := hfront
  obtain rfl : s ++ String.ofList rest = t := by
    apply String.toList_inj.mp
    rw [String.toList_append, String.toList_ofList, hrest]
  rw [String.toList_append] at hnull
  rw [String.utf8ByteSize_append] at hshort
  simp only [List.contains_eq_mem, decide_eq_false_iff_not, List.mem_append, not_or] at hnull
  exact ⟨by simpa using hnull.1, by simpa using hne, by omega⟩

/-- The text of a directory is the text of a path when that of a file in it is. -/
theorem isPathText_of_join (hdirectory : directory.toList ≠ [])
    (h : IsPathText (Path.join directory name)) : IsPathText directory := by
  refine h.of_isPrefix hdirectory ?_
  obtain ⟨head, hjoin, hhead⟩ := Path.toList_join directory name
  rw [hjoin]
  rcases hhead with hslash | hplain
  · rw [hslash]
    exact ⟨name.toList, by simp⟩
  · rw [hplain]
    exact ⟨'/' :: name.toList, rfl⟩

theorem isPathText_join (hdirectory : IsPathText directory) (hname : Path.IsName name)
    (hlong : (Path.join directory name).utf8ByteSize ≤ longestPath) :
    IsPathText (Path.join directory name) := by
  have hmem : ∀ c ∈ (Path.join directory name).toList,
      c ∈ directory.toList ∨ c = '/' ∨ c ∈ name.toList := by
    intro c hc
    obtain ⟨head, hjoin, hhead⟩ := Path.toList_join directory name
    rw [hjoin, List.mem_append, List.mem_cons] at hc
    refine hc.imp_left fun hhere => ?_
    rcases hhead with hslash | hplain
    · rw [hslash]
      exact List.mem_append_left _ hhere
    · rwa [hplain]
  refine ⟨?_, ?_, hlong⟩
  · rw [List.contains_eq_mem, decide_eq_false_iff_not]
    intro hnull
    rcases hmem _ hnull with hnull | hslash | hnull
    · have hnone := hdirectory.1
      rw [List.contains_eq_mem, decide_eq_false_iff_not] at hnone
      exact hnone hnull
    · cases hslash
    · exact hname.nulless hnull
  · obtain ⟨head, hjoin, -⟩ := Path.toList_join directory name
    rw [hjoin]
    simp

/-- The text of a file in a directory leads below the directory, if it is there. -/
theorem leadsTo_join_iff (hdirectory : directory.toList ≠ []) (hname : Path.IsName name) :
    tree.LeadsTo (Path.join directory name) path ↔
      (Path.join directory name).utf8ByteSize ≤ longestPath ∧
        ∃ above, path = above ++ [name] ∧ tree.LeadsTo directory above ∧
          tree.get? above = some .directory := by
  have henter : ∀ above : Path, above.enter name = above ++ [name] := by
    intro above
    unfold Path.enter
    rw [if_neg hname.single, if_neg hname.double]
  rw [leadsTo_iff, way_join hdirectory hname, Walks.append_iff]
  constructor
  · rintro ⟨htext, above, habove, hlast⟩
    cases hlast with
    | step hthere _ hstop =>
      cases hstop
      exact ⟨htext.2.2, above, henter above,
        leadsTo_iff.mpr ⟨isPathText_of_join hdirectory htext, habove⟩, hthere⟩
  · rintro ⟨hlong, above, rfl, hleads, hthere⟩
    obtain ⟨htext, habove⟩ := leadsTo_iff.mp hleads
    have hstep : Walks tree above [name] (above.enter name) :=
      .step hthere hname.short (.stop _)
    rw [henter] at hstep
    exact ⟨isPathText_join htext hname hlong, above, habove, hstep⟩

/-- The last name of a file in a directory is the name that its text ends with. -/
theorem getLast?_of_leadsTo_join (hdirectory : directory.toList ≠ []) (hname : Path.IsName name)
    (h : tree.LeadsTo (Path.join directory name) path) : path.getLast? = some name := by
  obtain ⟨-, above, rfl, -⟩ := (leadsTo_join_iff hdirectory hname).mp h
  exact List.getLast?_concat

/-- Where a directory is, there is the one that its text says it lies in. -/
theorem hasDirectory_parent {s : String} (h : tree.hasDirectory s = true)
    (habove : (Path.parent s.toList).1 ≠ []) (hlast : (Path.parent s.toList).2 ≠ []) :
    tree.hasDirectory (String.ofList (Path.parent s.toList).1) = true := by
  obtain ⟨hfront, hpieces⟩ := Path.pieces_parent hlast
  obtain ⟨last, hleads, -⟩ := hasDirectory_iff.mp h
  obtain ⟨htext, hwalks⟩ := leadsTo_iff.mp hleads
  have hroot : Path.fromRoot (String.ofList (Path.parent s.toList).1) = Path.fromRoot s := by
    obtain ⟨rest, hrest⟩ := hfront
    unfold Path.fromRoot
    rw [String.toList_ofList, ← List.head?_append_of_ne_nil _ habove, hrest]
  have hway : tree.way s = tree.way (String.ofList (Path.parent s.toList).1) ++
      [String.ofList (Path.parent s.toList).2] := by
    have hnames : Path.names s = Path.names (String.ofList (Path.parent s.toList).1) ++
        [String.ofList (Path.parent s.toList).2] := by
      show (Path.pieces s.toList).map String.ofList = (Path.pieces _).map String.ofList ++ _
      rw [hpieces, String.toList_ofList, List.map_append, List.map_singleton]
    unfold way
    rw [hroot, hnames]
    split
    · rfl
    · exact (List.append_assoc _ _ _).symm
  rw [hway] at hwalks
  obtain ⟨above, hfirst, hstep⟩ := Walks.append_iff.mp hwalks
  cases hstep with
  | step hthere _ _ =>
    refine hasDirectory_iff.mpr ⟨above, leadsTo_iff.mpr ⟨?_, hfirst⟩, hthere⟩
    refine htext.of_isPrefix ?_ ?_ <;> rwa [String.toList_ofList]

end FileTree

end FitProfile.CommandLine
