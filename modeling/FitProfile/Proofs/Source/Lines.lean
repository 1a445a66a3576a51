import FitProfile.Proofs.Text.Numerals
import FitProfile.Proofs.Text.Quoting
import FitProfile.Source.TypesModule
/-!
# FitProfile.Proofs.Source.Lines -- lines and blocks can be told apart

The lines of a source text are read back off it, as long as no line holds a line feed, and
a block is read back off a list of lines: its body is indented and its foot is not. To see
that generated lines hold no line feed, and later which tokens they are made of, `Line`
says how they are put together: of plain texts and quoted texts, with at most one bracket,
and a remark at the end.
-/

namespace FitProfile.Source

open FitProfile.Number FitProfile.Text

/-! ## Reading lines and blocks back -/

theorem toList_text (lines : List String) :
    (text lines).toList = lines.flatMap fun line => line.toList ++ ['\n'] := by
  rw [text, String.toList_join, List.flatMap_map]
  simp only [String.toList_append]
  rfl

/-- Text determines its lines. -/
theorem text_inj {lines others : List String} (hl : ∀ line ∈ lines, '\n' ∉ line.toList)
    (ho : ∀ line ∈ others, '\n' ∉ line.toList) (h : text lines = text others) :
    lines = others := by
  have hchars := congrArg String.toList h
  rw [toList_text, toList_text] at hchars
  clear h
  -- each line is read off in front of the first line feed
  induction lines generalizing others with
  | nil =>
    cases others with
    | nil => rfl
    | cons other others => simp at hchars
  | cons line lines ih =>
    cases others with
    | nil => simp at hchars
    | cons other others =>
      simp only [List.flatMap_cons, List.append_assoc, List.singleton_append] at hchars
      obtain ⟨hline, hrest⟩ := append_cons_inj (hl line (by simp)) (ho other (by simp)) hchars
      rw [String.toList_inj.mp hline, ih (fun l hmem => hl l (by simp [hmem]))
        (fun l hmem => ho l (by simp [hmem])) hrest]

/-- Lines that start a block or stand behind its body: neither empty nor indented. -/
def Outer (line : String) : Prop := line.toList.head?.any (· != ' ') = true

instance (line : String) : Decidable (Outer line) :=
  inferInstanceAs (Decidable (line.toList.head?.any (· != ' ') = true))

theorem toList_deeper (line : String) :
    (deeper line).toList = if line.toList = [] then [] else ' ' :: ' ' :: ' ' :: ' ' :: line.toList := by
  unfold deeper
  by_cases h : line.toList = []
  · rw [if_pos (by simpa using h), if_pos h, h]
  · rw [if_neg (by simpa using h), if_neg h, String.toList_append]
    rfl

theorem deeper_inj {a b : String} (h : deeper a = deeper b) : a = b := by
  have hchars := congrArg String.toList h
  rw [toList_deeper, toList_deeper] at hchars
  apply String.toList_inj.mp
  -- an empty line stays empty, so it differs from a line that was indented
  split at hchars <;> split at hchars
  next ha hb => rw [ha, hb]
  next => cases hchars
  next => cases hchars
  next => simpa using hchars

theorem deeper_ne_outer {line foot : String} (h : Outer foot) : deeper line ≠ foot := by
  rintro rfl
  unfold Outer at h
  rw [toList_deeper] at h
  split at h <;> simp at h

/-- An indented body ends in front of the first line that is not indented. -/
theorem body_append_inj {foot : String} (hfoot : Outer foot) {body other rest more : List String}
    (h : body.map deeper ++ foot :: rest = other.map deeper ++ foot :: more) :
    body = other ∧ rest = more := by
  induction body generalizing other with
  | nil =>
    cases other with
    | nil => exact ⟨rfl, (List.cons.inj h).2⟩
    | cons line other => exact absurd (List.cons.inj h).1.symm (deeper_ne_outer hfoot)
  | cons line body ih =>
    cases other with
    | nil => exact absurd (List.cons.inj h).1 (deeper_ne_outer hfoot)
    | cons first other =>
      obtain ⟨hline, htail⟩ := List.cons.inj h
      obtain ⟨rfl, hrest⟩ := ih htail
      exact ⟨by rw [deeper_inj hline], hrest⟩

/-- A block is read back off the lines it starts. -/
theorem block_append_inj {foot : String} (hfoot : Outer foot) {head top : String}
    {body other rest more : List String}
    (h : block head body foot ++ rest = block top other foot ++ more) :
    head = top ∧ body = other ∧ rest = more := by
  simp only [block, List.cons_append, List.append_assoc, List.nil_append] at h
  obtain ⟨hhead, htail⟩ := List.cons.inj h
  obtain ⟨hbody, hrest⟩ := body_append_inj hfoot htail
  exact ⟨hhead, hbody, hrest⟩

/-- A block determines its head and its body. -/
theorem block_inj {foot : String} (hfoot : Outer foot) {head top : String}
    {body other : List String} (h : block head body foot = block top other foot) :
    head = top ∧ body = other := by
  have happend : block head body foot ++ [] = block top other foot ++ [] := by rw [h]
  obtain ⟨hhead, hbody, -⟩ := block_append_inj hfoot happend
  exact ⟨hhead, hbody⟩

/-! ## How lines are put together -/

/-- A text made of plain texts and quoted texts. -/
inductive Fragment : String → Prop where
  | plain {s : String} (h : Plain s) : Fragment s
  | quoted (s : String) : Fragment (quoted s)
  | append {s t : String} (hs : Fragment s) (ht : Fragment t) : Fragment (s ++ t)

/-- Nothing, or a remark up to the end of the line. -/
def IsRemark (s : String) : Prop := s = "" ∨ ∃ rest, s = "#" ++ rest ∧ '\n' ∉ rest.toList

/-- The lines of generated modules. A bracket stands only behind the name of a dictionary:
that of the types, and then around one of the names `keys`, or that of the base types. -/
inductive Line (keys : List String) : String → Prop where
  | fragment {s r : String} (hs : Fragment s) (hr : IsRemark r) : Line keys (s ++ r)
  | lookup {s t key : String} (hs : Fragment s) (hkey : key ∈ keys) (ht : Fragment t) :
      Line keys (s ++ ("FIELD_TYPES[" ++ Text.quoted key ++ "]") ++ t)
  | base {s t r : String} (hs : Fragment s) (ht : Fragment t) (hr : IsRemark r) :
      Line keys (s ++ "BASE_TYPES[" ++ t ++ r)

variable {keys : List String}

theorem Fragment.append_plain {s t : String} (hs : Fragment s) (ht : Plain t) : Fragment (s ++ t) :=
  hs.append (.plain ht)

theorem newline_notMem_plain {s : String} (h : Plain s) : '\n' ∉ s.toList := by
  intro hmem
  exact absurd (h '\n' hmem) (by decide)

theorem newline_notMem_append {s t : String} (hs : '\n' ∉ s.toList) (ht : '\n' ∉ t.toList) :
    '\n' ∉ (s ++ t).toList := by
  rw [String.toList_append, List.mem_append, not_or]
  exact ⟨hs, ht⟩

theorem Fragment.newline_notMem {s : String} (h : Fragment s) : '\n' ∉ s.toList := by
  induction h with
  | plain h => exact newline_notMem_plain h
  | quoted s =>
    rw [Text.quoted, String.toList_ofList]
    exact newline_notMem_quoteChars _
  | append _ _ ihs iht => exact newline_notMem_append ihs iht

theorem IsRemark.newline_notMem {s : String} (h : IsRemark s) : '\n' ∉ s.toList := by
  rcases h with rfl | ⟨rest, rfl, hrest⟩
  · decide
  · exact newline_notMem_append (by decide) hrest

theorem Line.newline_notMem {line : String} (h : Line keys line) : '\n' ∉ line.toList := by
  cases h with
  | fragment hs hr => exact newline_notMem_append hs.newline_notMem hr.newline_notMem
  | @lookup s t key hs hkey ht =>
    have hquoted : '\n' ∉ (Text.quoted key).toList := (Fragment.quoted key).newline_notMem
    exact newline_notMem_append (newline_notMem_append hs.newline_notMem
      (newline_notMem_append (newline_notMem_append (by decide) hquoted) (by decide)))
      ht.newline_notMem
  | base hs ht hr =>
    exact newline_notMem_append (newline_notMem_append (newline_notMem_append hs.newline_notMem
      (by decide)) ht.newline_notMem) hr.newline_notMem

theorem Line.of_fragment {s : String} (h : Fragment s) : Line keys s := by
  have hline : Line keys (s ++ "") := .fragment h (.inl rfl)
  rwa [String.append_empty] at hline

theorem Line.of_plain {s : String} (h : Plain s) : Line keys s := .of_fragment (.plain h)

/-- Indentation does not change what a line is made of. -/
theorem Line.deeper {line : String} (h : Line keys line) : Line keys (deeper line) := by
  have hunit : Fragment indentUnit := .plain (by decide)
  unfold Source.deeper
  split
  · exact h
  · cases h with
    | fragment hs hr =>
      rw [← String.append_assoc]
      exact .fragment (hunit.append hs) hr
    | lookup hs hkey ht =>
      rw [← String.append_assoc, ← String.append_assoc]
      exact .lookup (hunit.append hs) hkey ht
    | base hs ht hr =>
      rw [← String.append_assoc, ← String.append_assoc, ← String.append_assoc]
      exact .base (hunit.append hs) ht hr

/-! ## Lists of lines -/

/-- Lists of such lines. -/
def Lines (keys : List String) (lines : List String) : Prop := ∀ line ∈ lines, Line keys line

theorem Lines.nil : Lines keys [] := by simp [Lines]

theorem Lines.cons {line : String} {lines : List String} (h : Line keys line)
    (hl : Lines keys lines) : Lines keys (line :: lines) := by
  intro other hmem
  rcases List.mem_cons.mp hmem with rfl | hmem
  · exact h
  · exact hl other hmem

theorem Lines.append {lines others : List String} (hl : Lines keys lines)
    (ho : Lines keys others) : Lines keys (lines ++ others) := by
  intro line hmem
  rcases List.mem_append.mp hmem with hmem | hmem
  · exact hl line hmem
  · exact ho line hmem

theorem Lines.flatMap {α : Type} {list : List α} {f : α → List String}
    (h : ∀ a ∈ list, Lines keys (f a)) : Lines keys (list.flatMap f) := by
  intro line hmem
  obtain ⟨a, ha, hline⟩ := List.mem_flatMap.mp hmem
  exact h a ha line hline

theorem Lines.map {α : Type} {list : List α} {f : α → String}
    (h : ∀ a ∈ list, Line keys (f a)) : Lines keys (list.map f) := by
  intro line hmem
  obtain ⟨a, ha, rfl⟩ := List.mem_map.mp hmem
  exact h a ha

theorem Lines.of_plain {lines : List String} (h : ∀ line ∈ lines, Plain line) :
    Lines keys lines := by
  intro line hmem
  exact .of_plain (h line hmem)

theorem Lines.block {head foot : String} {body : List String} (hhead : Line keys head)
    (hbody : Lines keys body) (hfoot : Line keys foot) : Lines keys (block head body foot) := by
  have hdeeper : Lines keys (body.map deeper) := .map fun line hmem => (hbody line hmem).deeper
  show Lines keys (head :: body.map deeper ++ [foot])
  exact (Lines.cons hhead hdeeper).append (.cons hfoot .nil)

/-- A block between two plain lines. -/
theorem Lines.block_plain {head foot : String} {body : List String}
    (h : Plain head ∧ Plain foot) (hbody : Lines keys body) :
    Lines keys (Source.block head body foot) :=
  .block (.of_plain h.1) hbody (.of_plain h.2)

theorem Lines.newline_notMem {lines : List String} (h : Lines keys lines) :
    ∀ line ∈ lines, '\n' ∉ line.toList := fun line hmem => (h line hmem).newline_notMem

/-! ## Lines of keyword arguments -/

theorem keyword_eq (name value : String) : keyword name value "" = name ++ "=" ++ value ++ "," := by
  unfold keyword remark
  rw [if_pos (by decide), String.append_empty]

theorem keyword_inj {name a b : String} (h : keyword name a "" = keyword name b "") : a = b := by
  rw [keyword_eq, keyword_eq] at h
  exact (String.append_right_inj _).mp ((String.append_left_inj _).mp h)

theorem line_keyword {name value : String} (hname : Plain name) (hvalue : Fragment value) :
    Line keys (keyword name value "") := by
  have hhead : Fragment (name ++ "=") := .plain (hname.append (by decide))
  rw [keyword_eq]
  exact .of_fragment ((hhead.append hvalue).append_plain (by decide))

theorem line_quotedKeyword {name : String} (hname : Plain name) (s : String) :
    Line keys (keyword name (Text.quoted s) "") :=
  line_keyword hname (.quoted s)

theorem line_decimalKeyword {name : String} (hname : Plain name) (n : Int) :
    Line keys (keyword name (decimal n) "") :=
  line_keyword hname (.plain (plain_decimal n))

end FitProfile.Source
