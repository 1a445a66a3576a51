import FitProfile.Proofs.Source.Lines
/-!
# FitProfile.Proofs.Source.Readability -- entries that can be read off lines

An entry is readable when the lines it starts determine what it shows and where it ends.
Blocks are readable as soon as their heads and bodies are, whatever follows them; lists of
readable entries are readable as a whole; and an entry that may be missing is readable when
the lines behind it do not start like it.
-/

namespace FitProfile.Source

open FitProfile.Number FitProfile.Text

variable {α β : Type}

/-- The lines `write a` of entries that fulfil `ok` determine `view a` and the lines behind
them. -/
structure Readable (ok : α → Prop) (write : α → List String) (view : α → β) : Prop where
  ne_nil : ∀ a, write a ≠ []
  append_inj : ∀ {a b : α} {rest more : List String}, ok a → ok b →
    write a ++ rest = write b ++ more → view a = view b ∧ rest = more

namespace Readable

variable {ok : α → Prop} {write : α → List String} {view : α → β}

/-- Blocks are readable when head and body together determine what they show. -/
theorem of_block {head : α → String} {body : α → List String} {foot : String} (hfoot : Outer foot)
    (h : ∀ {a b : α}, ok a → ok b → head a = head b → body a = body b → view a = view b) :
    Readable ok (fun a => block (head a) (body a) foot) view where
  ne_nil := fun a => by simp [block]
  append_inj := by
    intro a b rest more ha hb heq
    obtain ⟨hhead, hbody, hrest⟩ := block_append_inj hfoot heq
    exact ⟨h ha hb hhead hbody, hrest⟩

/-- Entries of one line are readable when the line determines what it shows. -/
theorem of_line {line : α → String}
    (h : ∀ {a b : α}, ok a → ok b → line a = line b → view a = view b) :
    Readable ok (fun a => [line a]) view where
  ne_nil := fun a => by simp
  append_inj := by
    intro a b rest more ha hb heq
    obtain ⟨hline, hrest⟩ := List.cons.inj heq
    exact ⟨h ha hb hline, hrest⟩

/-- With nothing behind it, an entry is determined by its lines. -/
theorem inj (h : Readable ok write view) {a b : α} (ha : ok a) (hb : ok b)
    (heq : write a = write b) : view a = view b := by
  have happend : write a ++ [] = write b ++ [] := by rw [heq]
  exact (h.append_inj ha hb happend).1

/-- A list of readable entries is read entry by entry. -/
theorem flatMap (h : Readable ok write view) {as bs : List α} (ha : ∀ a ∈ as, ok a)
    (hb : ∀ b ∈ bs, ok b) (heq : as.flatMap write = bs.flatMap write) :
    as.map view = bs.map view := by
  induction as generalizing bs with
  | nil =>
    cases bs with
    | nil => rfl
    | cons b bs =>
      rw [List.flatMap_nil, List.flatMap_cons] at heq
      exact absurd (List.append_eq_nil_iff.mp heq.symm).1 (h.ne_nil b)
  | cons a as ih =>
    cases bs with
    | nil =>
      rw [List.flatMap_nil, List.flatMap_cons] at heq
      exact absurd (List.append_eq_nil_iff.mp heq).1 (h.ne_nil a)
    | cons b bs =>
      rw [List.flatMap_cons, List.flatMap_cons] at heq
      obtain ⟨hview, hrest⟩ := h.append_inj (ha a (by simp)) (hb b (by simp)) heq
      rw [List.map_cons, List.map_cons, hview,
        ih (fun x hx => ha x (by simp [hx])) (fun x hx => hb x (by simp [hx])) hrest]

end Readable

/-! ## Entries that may be missing -/

/-- What a line starts with, up to the first equals sign. -/
def tag (line : String) : List Char := line.toList.takeWhile (· != '=')

theorem tag_keyword {name : String} (h : '=' ∉ name.toList) (value comment : String) :
    tag (keyword name value comment) = name.toList := by
  have hpos : ∀ c ∈ name.toList, (c != '=') = true := by
    intro c hc
    rw [bne_iff_ne]
    rintro rfl
    exact h hc
  have hchars : (keyword name value comment).toList =
      name.toList ++ '=' :: (value.toList ++ [','] ++ (remark comment).toList) := by
    rw [keyword, String.toList_append, String.toList_append, String.toList_append,
      String.toList_append]
    simp only [List.append_assoc]
    rfl
  rw [tag, hchars, List.takeWhile_append_of_pos hpos]
  simp

/-- No line starts with one of the tags. -/
def Off (tags : List String) (lines : List String) : Prop :=
  ∀ line ∈ lines, tag line ∉ tags.map String.toList

namespace Off

variable {tags : List String}

theorem nil : Off tags [] := by simp [Off]

theorem cons {line : String} {lines : List String} (h : tag line ∉ tags.map String.toList)
    (hl : Off tags lines) : Off tags (line :: lines) := by
  intro other hmem
  rcases List.mem_cons.mp hmem with rfl | hmem
  · exact h
  · exact hl other hmem

theorem append {lines others : List String} (hl : Off tags lines) (ho : Off tags others) :
    Off tags (lines ++ others) := by
  intro line hmem
  rcases List.mem_append.mp hmem with hmem | hmem
  · exact hl line hmem
  · exact ho line hmem

theorem mono {more : List String} {lines : List String} (h : Off more lines)
    (hsub : ∀ t ∈ tags, t ∈ more) : Off tags lines := by
  intro line hmem htag
  obtain ⟨t, ht, heq⟩ := List.mem_map.mp htag
  exact h line hmem (List.mem_map.mpr ⟨t, hsub t ht, heq⟩)

/-- The body of a block is indented, so only its head and foot can start with a tag. -/
theorem block {head foot : String} (body : List String)
    (htags : ∀ t ∈ tags, Outer t) (hhead : tag head ∉ tags.map String.toList)
    (hfoot : tag foot ∉ tags.map String.toList) : Off tags (block head body foot) := by
  refine Off.append (.cons hhead ?_) (.cons hfoot .nil)
  intro line hmem htag
  obtain ⟨inner, -, rfl⟩ := List.mem_map.mp hmem
  obtain ⟨t, ht, heq⟩ := List.mem_map.mp htag
  have hout := htags t ht
  unfold Outer at hout
  rw [heq, tag, toList_deeper] at hout
  split at hout <;> exact absurd hout (by simp)

end Off

/-- The lines of an entry that may be missing. -/
def optional (write : α → List String) (entry : Option α) : List String := entry.elim [] write

/-- A missing entry is told from one that is there by the tag of the first line. -/
theorem optional_append_inj {ok : α → Prop} {write : α → List String} {view : α → β}
    (hread : Readable ok write view) {name : String}
    (htag : ∀ a, (write a).head?.map tag = some name.toList) {o p : Option α}
    (ho : ∀ a ∈ o, ok a) (hp : ∀ a ∈ p, ok a) {rest more : List String}
    (hrest : Off [name] rest) (hmore : Off [name] more)
    (h : optional write o ++ rest = optional write p ++ more) :
    o.map view = p.map view ∧ rest = more := by
  -- the first line of an entry cannot stand where the lines do not start with its tag
  have hapart : ∀ {a : α} {tail others : List String}, Off [name] others →
      write a ++ tail ≠ others := by
    intro a tail others hoff heq
    cases hwrite : write a with
    | nil => exact hread.ne_nil a hwrite
    | cons line lines =>
      have hline := htag a
      rw [hwrite, List.head?_cons, Option.map_some] at hline
      have hmem : line ∈ others := by
        rw [← heq, hwrite]
        simp
      exact hoff line hmem (by rw [Option.some.inj hline]; simp)
  cases o with
  | none =>
    cases p with
    | none => exact ⟨rfl, h⟩
    | some b => exact absurd h.symm (hapart hrest)
  | some a =>
    cases p with
    | none => exact absurd h (hapart hmore)
    | some b =>
      obtain ⟨hview, hlines⟩ := hread.append_inj (ho a rfl) (hp b rfl) h
      exact ⟨congrArg some hview, hlines⟩

end FitProfile.Source
