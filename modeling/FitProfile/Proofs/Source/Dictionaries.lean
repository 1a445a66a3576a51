import FitProfile.Proofs.Source.Tokens
/-!
# FitProfile.Proofs.Source.Dictionaries -- dictionaries in source text

A reader of the code takes what stands between braces as a dictionary: keys with a colon
behind them, each with a value up to the next comma that is not inside brackets of the
value. `entries` reads a dictionary from behind its opening brace on, whatever the text
looks like.

Code in which every bracket is closed again, and in which braces stand around entries with
distinct keys alone, is `Nested`. A reader who comes upon such code inside a value goes on
behind it, and at every opening brace of it finds a dictionary with distinct keys.
-/

namespace FitProfile.Source

open FitProfile.Text

/-! ## Reading dictionaries -/

/-- An entry of a dictionary: its key and its value, as they are written. -/
structure Entry where
  key : List Token
  value : List Token
  deriving DecidableEq, Repr

/-- Tokens with something to see; white space in code means nothing to a reader. -/
def Token.isVisible (t : Token) : Bool := t != .code ' ' && t != .code '\n'

/-- The tokens of a source text without white space. -/
def code (source : String) : List Token := (tokens source).filter Token.isVisible

/-- Opening brackets. -/
def Token.opens (t : Token) : Bool := t == .code '(' || t == .code '[' || t == .code '\x7b'

/-- Closing brackets. -/
def Token.closes (t : Token) : Bool := t == .code ')' || t == .code ']' || t == .code '\x7d'

/-- Where the reader of a dictionary stands: in a key, or in the value of a key below some
brackets of the value. -/
inductive Place where
  | key (read : List Token)
  | value (key read : List Token) (depth : Nat)
  deriving DecidableEq, Repr

/-- Reads a dictionary up to its closing brace. -/
def entriesFrom : Place → List Token → List Entry
  | _, [] => []
  | .key read, t :: rest =>
    if t = .code ':' then entriesFrom (.value read [] 0) rest
    else if t.closes then []
    else entriesFrom (.key (read ++ [t])) rest
  | .value key read depth, t :: rest =>
    if t.opens then entriesFrom (.value key (read ++ [t]) (depth + 1)) rest
    else if t.closes then
      match depth with
      | 0 => [⟨key, read⟩]
      | depth + 1 => entriesFrom (.value key (read ++ [t]) depth) rest
    else if t = .code ',' ∧ depth = 0 then ⟨key, read⟩ :: entriesFrom (.key []) rest
    else entriesFrom (.value key (read ++ [t]) depth) rest

/-- The entries of a dictionary, from behind its opening brace on. -/
def entries (after : List Token) : List Entry := entriesFrom (.key []) after

/-- Whether the keys of the dictionary behind an opening brace are distinct. -/
def DistinctKeys (after : List Token) : Prop := ((entries after).map Entry.key).Nodup

/-- Code in which a name stands for the dictionary with certain entries. -/
def Binds (ts : List Token) (name : String) (dictionary : List Entry) : Prop :=
  ∃ before after, ts = before ++ codeTokens name ++ .code '=' :: .code '\x7b' :: after ∧
    entries after = dictionary

/-! ## Tokens that a reader passes over -/

/-- Tokens that are no brackets. -/
def Flat (ts : List Token) : Prop := ∀ t ∈ ts, t.opens = false ∧ t.closes = false

instance (ts : List Token) : Decidable (Flat ts) :=
  inferInstanceAs (Decidable (∀ t ∈ ts, t.opens = false ∧ t.closes = false))

theorem flat_literal (s : String) : Flat [literalToken s] := by
  intro t hmem
  rw [List.mem_singleton.mp hmem]
  exact ⟨rfl, rfl⟩

/-- Keys: no bracket and no colon. -/
structure IsKey (key : List Token) : Prop where
  flat : Flat key
  colon : Token.code ':' ∉ key

/-- Values: a reader who meets one in front of a comma takes all of it, and goes on with
the next key. -/
def IsValue (value : List Token) : Prop := ∀ key read rest,
  entriesFrom (.value key read 0) (value ++ .code ',' :: rest) =
    ⟨key, read ++ value⟩ :: entriesFrom (.key []) rest

/-- An entry as it is written. -/
def Entry.written (entry : Entry) : List Token :=
  entry.key ++ .code ':' :: entry.value ++ [.code ',']

/-- Code with closed brackets, and with distinct keys in all its dictionaries. -/
inductive Nested : List Token → Prop where
  | flat {ts : List Token} (h : Flat ts) : Nested ts
  | append {ts us : List Token} (ht : Nested ts) (hu : Nested us) : Nested (ts ++ us)
  | parens {ts : List Token} (h : Nested ts) : Nested (.code '(' :: ts ++ [.code ')'])
  | brackets {ts : List Token} (h : Nested ts) : Nested (.code '[' :: ts ++ [.code ']'])
  | braces {dictionary : List Entry} (keys : ∀ entry ∈ dictionary, IsKey entry.key)
      (values : ∀ entry ∈ dictionary, IsValue entry.value)
      (nested : ∀ entry ∈ dictionary, Nested entry.value)
      (apart : (dictionary.map Entry.key).Nodup) :
      Nested (.code '\x7b' :: dictionary.flatMap Entry.written ++ [.code '\x7d'])

/-! ## Inside the brackets of a value -/

/-- Code that a reader inside brackets of a value takes as it comes. -/
def Passed (ts : List Token) : Prop := ∀ key read depth rest,
  entriesFrom (.value key read (depth + 1)) (ts ++ rest) =
    entriesFrom (.value key (read ++ ts) (depth + 1)) rest

theorem passed_nil : Passed [] := by
  intro key read depth rest
  rw [List.nil_append, List.append_nil]

theorem Passed.append {ts us : List Token} (ht : Passed ts) (hu : Passed us) :
    Passed (ts ++ us) := by
  intro key read depth rest
  rw [List.append_assoc, ht, hu, List.append_assoc]

theorem passed_flatMap {α : Type} {list : List α} {f : α → List Token}
    (h : ∀ a ∈ list, Passed (f a)) : Passed (list.flatMap f) := by
  induction list with
  | nil => exact passed_nil
  | cons a list ih =>
    obtain ⟨ha, hlist⟩ := List.forall_mem_cons.mp h
    rw [List.flatMap_cons]
    exact ha.append (ih hlist)

theorem Flat.passed {ts : List Token} (h : Flat ts) : Passed ts := by
  induction ts with
  | nil => exact passed_nil
  | cons t ts ih =>
    obtain ⟨⟨hopens, hcloses⟩, hts⟩ := List.forall_mem_cons.mp h
    have hstep : Passed [t] := by
      intro key read depth rest
      simp [entriesFrom, hopens, hcloses]
    exact hstep.append (ih hts)

/-- A bracket leads one level down, and its partner back. -/
theorem Passed.wrap {left right : Token} {ts : List Token} (hleft : left.opens = true)
    (hopens : right.opens = false) (hright : right.closes = true) (h : Passed ts) :
    Passed (left :: ts ++ [right]) := by
  intro key read depth rest
  have hdown : entriesFrom (.value key read (depth + 1)) (left :: (ts ++ right :: rest)) =
      entriesFrom (.value key (read ++ [left]) (depth + 1 + 1)) (ts ++ right :: rest) := by
    simp [entriesFrom, hleft]
  have hback : ∀ read, entriesFrom (.value key read (depth + 1 + 1)) (right :: rest) =
      entriesFrom (.value key (read ++ [right]) (depth + 1)) rest := by
    intro read
    simp [entriesFrom, hopens, hright]
  simp only [List.cons_append, List.append_assoc, List.nil_append]
  rw [hdown, h, hback]
  simp

/-- A reader inside brackets of a value goes on behind nested code. -/
theorem Nested.passed {ts : List Token} (h : Nested ts) : Passed ts := by
  induction h with
  | flat h => exact h.passed
  | append _ _ iht ihu => exact iht.append ihu
  | parens _ ih => exact ih.wrap rfl rfl rfl
  | brackets _ ih => exact ih.wrap rfl rfl rfl
  | @braces dictionary keys _ _ _ ih =>
    refine Passed.wrap rfl rfl rfl (passed_flatMap fun entry hmem => ?_)
    have hcolon : Flat [.code ':'] := by decide
    have hcomma : Flat [.code ','] := by decide
    exact ((keys entry hmem).flat.passed.append (hcolon.passed.append (ih entry hmem))).append
      hcomma.passed

/-! ## Reading entries -/

/-- In front of all brackets of a value, a reader takes what is neither bracket nor comma. -/
theorem entriesFrom_flat {ts : List Token} (h : Flat ts) (hcomma : Token.code ',' ∉ ts)
    (key read rest : List Token) : entriesFrom (.value key read 0) (ts ++ rest) =
      entriesFrom (.value key (read ++ ts) 0) rest := by
  induction ts generalizing read with
  | nil => rw [List.nil_append, List.append_nil]
  | cons t ts ih =>
    obtain ⟨⟨hopens, hcloses⟩, hts⟩ := List.forall_mem_cons.mp h
    rw [List.mem_cons, not_or] at hcomma
    have hne : ¬ t = .code ',' := fun heq => hcomma.1 heq.symm
    have hstep : entriesFrom (.value key read 0) (t :: (ts ++ rest)) =
        entriesFrom (.value key (read ++ [t]) 0) (ts ++ rest) := by
      simp [entriesFrom, hopens, hcloses, hne]
    rw [List.cons_append, hstep, ih hts hcomma.2, List.append_assoc, List.singleton_append]

/-- A key is read up to its colon. -/
theorem entriesFrom_key {key : List Token} (h : IsKey key) (read rest : List Token) :
    entriesFrom (.key read) (key ++ .code ':' :: rest) =
      entriesFrom (.value (read ++ key) [] 0) rest := by
  obtain ⟨hflat, hcolon⟩ := h
  induction key generalizing read with
  | nil => simp [entriesFrom]
  | cons t ts ih =>
    obtain ⟨⟨-, hcloses⟩, hts⟩ := List.forall_mem_cons.mp hflat
    rw [List.mem_cons, not_or] at hcolon
    have hne : ¬ t = .code ':' := fun heq => hcolon.1 heq.symm
    have hstep : entriesFrom (.key read) (t :: (ts ++ .code ':' :: rest)) =
        entriesFrom (.key (read ++ [t])) (ts ++ .code ':' :: rest) := by
      simp [entriesFrom, hcloses, hne]
    rw [List.cons_append, hstep, ih (read ++ [t]) hts hcolon.2, List.append_assoc, List.singleton_append]

/-- A dictionary is read as the entries that were written. -/
theorem entries_written {dictionary : List Entry}
    (keys : ∀ entry ∈ dictionary, IsKey entry.key)
    (values : ∀ entry ∈ dictionary, IsValue entry.value) (rest : List Token) :
    entries (dictionary.flatMap Entry.written ++ .code '\x7d' :: rest) = dictionary := by
  unfold entries
  induction dictionary with
  | nil => rfl
  | cons entry dictionary ih =>
    obtain ⟨hkey, hkeys⟩ := List.forall_mem_cons.mp keys
    obtain ⟨hvalue, hvalues⟩ := List.forall_mem_cons.mp values
    simp only [List.flatMap_cons, Entry.written, List.append_assoc, List.cons_append,
      List.nil_append]
    rw [entriesFrom_key hkey, hvalue, List.nil_append, List.nil_append, ih hkeys hvalues]

/-- Tokens without brackets and commas are values. -/
theorem IsValue.flat {ts : List Token} (h : Flat ts) (hcomma : Token.code ',' ∉ ts) :
    IsValue ts := by
  intro key read rest
  rw [entriesFrom_flat h hcomma]
  simp [entriesFrom, Token.opens, Token.closes]

/-- A call with nested code between its parentheses is a value. -/
theorem IsValue.call {name ts : List Token} (h : Flat name) (hcomma : Token.code ',' ∉ name)
    (ht : Nested ts) : IsValue (name ++ .code '(' :: ts ++ [.code ')']) := by
  intro key read rest
  rw [List.append_assoc, List.append_assoc, entriesFrom_flat h hcomma]
  have hopen : ∀ rest, entriesFrom (.value key (read ++ name) 0) (.code '(' :: rest) =
      entriesFrom (.value key (read ++ name ++ [.code '(']) 1) rest := by
    intro rest
    simp [entriesFrom, Token.opens]
  rw [List.cons_append, hopen, ht.passed]
  simp [entriesFrom, Token.opens, Token.closes]

/-! ## Dictionaries inside nested code -/

/-- Code that opens dictionaries with distinct keys alone, whatever follows it. -/
inductive Keyed : List Token → Prop where
  | nil : Keyed []
  | cons {t : Token} {after : List Token}
      (h : t = .code '\x7b' → ∀ rest, DistinctKeys (after ++ rest)) (hafter : Keyed after) :
      Keyed (t :: after)

theorem Keyed.append {ts us : List Token} (ht : Keyed ts) (hu : Keyed us) : Keyed (ts ++ us) := by
  induction ht with
  | nil => exact hu
  | @cons t after h _ ih =>
    refine .cons ?_ ih
    intro heq rest
    show DistinctKeys (after ++ us ++ rest)
    rw [List.append_assoc]
    exact h heq (us ++ rest)

theorem keyed_of_notMem {ts : List Token} (h : Token.code '\x7b' ∉ ts) : Keyed ts := by
  induction ts with
  | nil => exact .nil
  | cons t ts ih =>
    rw [List.mem_cons, not_or] at h
    exact .cons (fun heq => absurd heq.symm h.1) (ih h.2)

theorem Flat.keyed {ts : List Token} (h : Flat ts) : Keyed ts := by
  apply keyed_of_notMem
  intro hmem
  exact absurd (h _ hmem).1 (by decide)

theorem keyed_flatMap {α : Type} {list : List α} {f : α → List Token}
    (h : ∀ a ∈ list, Keyed (f a)) : Keyed (list.flatMap f) := by
  induction list with
  | nil => exact .nil
  | cons a list ih =>
    obtain ⟨ha, hlist⟩ := List.forall_mem_cons.mp h
    rw [List.flatMap_cons]
    exact ha.append (ih hlist)

/-- Every opening brace of nested code opens a dictionary with distinct keys. -/
theorem Nested.keyed {ts : List Token} (h : Nested ts) : Keyed ts := by
  have hnone : ∀ {c : Char}, c ≠ '\x7b' → Keyed [.code c] := by
    intro c hc
    refine keyed_of_notMem ?_
    simpa using fun heq => hc heq.symm
  induction h with
  | flat h => exact h.keyed
  | append _ _ iht ihu => exact iht.append ihu
  | parens _ ih => exact (hnone (by decide)).append (ih.append (hnone (by decide)))
  | brackets _ ih => exact (hnone (by decide)).append (ih.append (hnone (by decide)))
  | @braces dictionary keys values _ apart ih =>
    refine .cons ?_ (Keyed.append (keyed_flatMap ?_) (hnone (by decide)))
    · intro _ rest
      show DistinctKeys (dictionary.flatMap Entry.written ++ [.code '\x7d'] ++ rest)
      rw [DistinctKeys, List.append_assoc, List.singleton_append, entries_written keys values]
      exact apart
    · intro entry hmem
      have hcolon : Keyed (.code ':' :: entry.value) := (hnone (by decide)).append (ih entry hmem)
      exact ((keys entry hmem).flat.keyed.append hcolon).append (hnone (by decide))

theorem Keyed.distinctKeys {ts before after : List Token} (h : Keyed ts)
    (hsplit : ts = before ++ .code '\x7b' :: after) : DistinctKeys after := by
  induction before generalizing ts with
  | nil =>
    rw [hsplit] at h
    cases h with
    | cons hkeys _ =>
      have hafter := hkeys rfl []
      rwa [List.append_nil] at hafter
  | cons t before ih =>
    rw [hsplit] at h
    cases h with
    | cons _ hrest => exact ih hrest rfl

end FitProfile.Source
