import FitProfile.Proofs.Source.Lines
/-!
# FitProfile.Proofs.Source.Tokens -- source text as a reader takes it

To say what stands in the code of a source text, and not in a string or in a remark, the
text is cut into tokens: the characters of the code, and strings as they are spelled.
Remarks leave no token. A reader goes through the text character by character and knows
where it stands; between two lines it always stands in code.

In generated lines an opening bracket stands in code only behind the name of one of the
two dictionaries. So wherever the code looks a type up, it is a string that stands between
the brackets, and the name in it is one of the keys of the line.
-/

namespace FitProfile.Source

open FitProfile.Text

/-- A character of code, or a string with its quote and what is written between the
quotes. -/
inductive Token where
  | code (c : Char)
  | literal (quote : Char) (spelling : List Char)
  deriving DecidableEq, Repr

/-- Where a reader stands: in code, in a remark, or in a string of which a part has been
read, perhaps up to a backslash. -/
inductive Mode where
  | code
  | remark
  | literal (quote : Char) (spelling : List Char) (escaped : Bool)
  deriving DecidableEq, Repr

/-- Reads a character. -/
def Mode.step : Mode → Char → Mode × List Token
  | .code, c =>
    if c = '\'' ∨ c = '"' then (.literal c [] false, [])
    else if c = '#' then (.remark, [])
    else (.code, [.code c])
  | .remark, c => if c = '\n' then (.code, [.code c]) else (.remark, [])
  | .literal quote spelling true, c => (.literal quote (spelling ++ [c]) false, [])
  | .literal quote spelling false, c =>
    if c = quote then (.code, [.literal quote spelling])
    else (.literal quote (spelling ++ [c]) (c == '\\'), [])

/-- Reads characters: where the reader stands behind them, and the tokens it has read. -/
def lex : Mode → List Char → Mode × List Token
  | mode, [] => (mode, [])
  | mode, c :: rest =>
    ((lex (mode.step c).1 rest).1, (mode.step c).2 ++ (lex (mode.step c).1 rest).2)

/-- The tokens of a source text. -/
def tokens (source : String) : List Token := (lex .code source.toList).2

/-- The characters of a text as code. -/
def codeTokens (s : String) : List Token := s.toList.map .code

/-- A quoted text as a token. -/
def literalToken (s : String) : Token :=
  .literal (quoteFor s.toList) (s.toList.flatMap (escapeChar (quoteFor s.toList)))

/-! ## Reading step by step -/

theorem lex_append {a b : Mode} {ts : List Token} {cs : List Char} (h : lex a cs = (b, ts))
    (ds : List Char) : lex a (cs ++ ds) = ((lex b ds).1, ts ++ (lex b ds).2) := by
  induction cs generalizing a ts with
  | nil =>
    cases h
    rfl
  | cons c cs ih =>
    rw [lex] at h
    obtain ⟨hmode, htokens⟩ := Prod.mk.inj h
    have hrest := ih (Prod.ext hmode rfl)
    rw [List.cons_append, lex, hrest, ← htokens, List.append_assoc]

/-- Characters that lead from code to code, with the tokens they are. -/
def Emits (cs : List Char) (ts : List Token) : Prop := lex .code cs = (.code, ts)

theorem Emits.append {cs ds : List Char} {ts us : List Token} (hc : Emits cs ts)
    (hd : Emits ds us) : Emits (cs ++ ds) (ts ++ us) := by
  unfold Emits at hd ⊢
  rw [lex_append hc, hd]

theorem emits_of_code {cs : List Char} (h : ∀ c ∈ cs, c ≠ '\'' ∧ c ≠ '"' ∧ c ≠ '#') :
    Emits cs (cs.map .code) := by
  induction cs with
  | nil => rfl
  | cons c cs ih =>
    obtain ⟨hsingle, hdouble, hhash⟩ := h c (by simp)
    have hstep : Mode.step .code c = (.code, [.code c]) := by
      simp only [Mode.step, hsingle, hdouble, hhash, or_self, if_false]
    have hrest : lex .code cs = (.code, cs.map .code) := ih fun d hd => h d (by simp [hd])
    unfold Emits
    rw [lex, hstep, hrest]
    rfl

theorem emits_plain {cs : List Char} (h : PlainChars cs) : Emits cs (cs.map .code) := by
  apply emits_of_code
  intro c hc
  have hplain := h c hc
  simp only [isPlain, Bool.and_eq_true, bne_iff_ne] at hplain
  exact ⟨hplain.1.1.1.1, hplain.1.1.1.2, hplain.1.1.2⟩

/-! ## Quoted texts -/

/-- Hexadecimal digits neither end a string nor escape anything. -/
theorem lex_hexDigits {quote : Char} (hquote : IsQuote quote) (spelling digits : List Char)
    (h : ∀ d ∈ digits, d ∈ hexDigits) :
    lex (.literal quote spelling false) digits = (.literal quote (spelling ++ digits) false, []) := by
  induction digits generalizing spelling with
  | nil => rw [lex, List.append_nil]
  | cons d digits ih =>
    have hd := h d (by simp)
    have hne : d ≠ quote := by
      rintro rfl
      rcases hquote with rfl | rfl <;> exact absurd hd (by decide)
    have hback : (d == '\\') = false := by
      rw [beq_eq_false_iff_ne]
      rintro rfl
      exact absurd hd (by decide)
    have hstep : Mode.step (.literal quote spelling false) d =
        (.literal quote (spelling ++ [d]) false, []) := by
      simp only [Mode.step, hne, if_false, hback]
    have hrest := ih (spelling ++ [d]) fun e he => h e (by simp [he])
    rw [lex, hstep, hrest, List.append_assoc, List.singleton_append, List.append_nil]

/-- An escaped character stays inside its string. -/
theorem lex_escapeChar {quote : Char} (hquote : IsQuote quote) (spelling : List Char) (c : Char) :
    lex (.literal quote spelling false) (escapeChar quote c) =
      (.literal quote (spelling ++ escapeChar quote c) false, []) := by
  rcases escapeChar_cases hquote c with ⟨heq, hne, hback, -⟩ | ⟨mark, digits, heq, -, hhex⟩
  · have hfalse : (c == '\\') = false := beq_eq_false_iff_ne.mpr hback
    rw [heq]
    simp only [lex, Mode.step, hne, if_false, hfalse, List.append_nil]
  · have hback : ¬ '\\' = quote := by
      rcases hquote with rfl | rfl <;> decide
    have hstep : lex (.literal quote spelling false) ['\\', mark] =
        (.literal quote (spelling ++ ['\\', mark]) false, []) := by
      simp [lex, Mode.step, hback]
    have hsplit : '\\' :: mark :: digits = ['\\', mark] ++ digits := rfl
    rw [heq, hsplit, lex_append hstep, lex_hexDigits hquote _ _ hhex, List.append_assoc,
      List.nil_append]

theorem lex_escaped {quote : Char} (hquote : IsQuote quote) (spelling cs : List Char) :
    lex (.literal quote spelling false) (cs.flatMap (escapeChar quote)) =
      (.literal quote (spelling ++ cs.flatMap (escapeChar quote)) false, []) := by
  induction cs generalizing spelling with
  | nil => rw [List.flatMap_nil, lex, List.append_nil]
  | cons c cs ih =>
    rw [List.flatMap_cons, lex_append (lex_escapeChar hquote spelling c), ih, List.append_assoc,
      List.nil_append]

/-- A quoted text is one token. -/
theorem emits_quoted (s : String) : Emits (Text.quoted s).toList [literalToken s] := by
  have hquote := isQuote_quoteFor s.toList
  have hopen : Mode.step .code (quoteFor s.toList) = (.literal (quoteFor s.toList) [] false, []) := by
    simp only [Mode.step]
    exact if_pos hquote
  have hclose : ∀ spelling, lex (.literal (quoteFor s.toList) spelling false)
      [quoteFor s.toList] = (.code, [.literal (quoteFor s.toList) spelling]) := by
    intro spelling
    simp [lex, Mode.step]
  unfold Emits
  rw [Text.quoted, String.toList_ofList]
  simp only [quoteChars, List.cons_append]
  rw [lex, hopen, lex_append (lex_escaped hquote [] s.toList), hclose]
  rfl

/-! ## Generated lines -/

theorem Fragment.emits {s : String} (h : Fragment s) :
    ∃ ts, Emits s.toList ts ∧ Token.code '[' ∉ ts := by
  induction h with
  | plain h =>
    refine ⟨_, emits_plain h, ?_⟩
    intro hmem
    obtain ⟨c, hc, heq⟩ := List.mem_map.mp hmem
    obtain rfl := Token.code.inj heq
    exact absurd (h _ hc) (by decide)
  | quoted s =>
    refine ⟨_, emits_quoted s, ?_⟩
    intro hmem
    have := List.mem_singleton.mp hmem
    cases this
  | append _ _ ihs iht =>
    obtain ⟨ts, hs, hts⟩ := ihs
    obtain ⟨us, ht, hus⟩ := iht
    refine ⟨ts ++ us, ?_, ?_⟩
    · rw [String.toList_append]
      exact hs.append ht
    · rw [List.mem_append, not_or]
      exact ⟨hts, hus⟩

/-- A remark ends with its line and leaves no token. -/
theorem IsRemark.emits {s : String} (h : IsRemark s) :
    Emits (s.toList ++ ['\n']) [.code '\n'] := by
  rcases h with rfl | ⟨rest, rfl, hrest⟩
  · rfl
  · have hremark : ∀ cs : List Char, '\n' ∉ cs →
        lex .remark (cs ++ ['\n']) = (.code, [.code '\n']) := by
      intro cs hcs
      induction cs with
      | nil => rfl
      | cons c cs ih =>
        rw [List.mem_cons, not_or] at hcs
        have hne : ¬ c = '\n' := fun heq => hcs.1 heq.symm
        rw [List.cons_append, lex, Mode.step, if_neg hne, ih hcs.2]
        rfl
    have hopen : lex .code "#".toList = (.remark, []) := by decide
    unfold Emits
    rw [String.toList_append, List.append_assoc, lex_append hopen, hremark _ hrest]
    rfl

/-! ## Looking types up -/

/-- Wherever the code looks a type up, a quoted text that fulfils `declared` stands between
the brackets. -/
def LooksUp (declared : String → Prop) (ts : List Token) : Prop :=
  ∀ before after, ts = before ++ codeTokens "FIELD_TYPES[" ++ after →
    ∃ key rest, declared key ∧ after = literalToken key :: .code ']' :: rest

theorem codeTokens_lookup :
    codeTokens "FIELD_TYPES[" = codeTokens "FIELD_TYPES" ++ [.code '['] := by decide

variable {declared : String → Prop}

/-- Code without opening brackets looks nothing up. -/
theorem LooksUp.of_notMem {ts : List Token} (h : Token.code '[' ∉ ts) : LooksUp declared ts := by
  intro before after heq
  have hmem : Token.code '[' ∈ ts := by
    rw [heq, codeTokens_lookup]
    simp
  exact absurd hmem h

/-- A token that occurs once splits a list in one way. -/
theorem append_cons_unique {α : Type} {a : α} {xs ys rest more : List α} (hys : a ∉ ys)
    (hmore : a ∉ more) (h : xs ++ a :: rest = ys ++ a :: more) : xs = ys ∧ rest = more := by
  rcases List.append_eq_append_iff.mp h with ⟨d, rfl, hd⟩ | ⟨d, rfl, hd⟩
  · cases d with
    | nil => exact ⟨(List.append_nil _).symm, (List.cons.inj hd).2⟩
    | cons b d =>
      obtain ⟨rfl, -⟩ := List.cons.inj hd
      exact absurd (by simp) hys
  · cases d with
    | nil => exact ⟨List.append_nil _, (List.cons.inj hd).2.symm⟩
    | cons b d =>
      obtain ⟨rfl, rfl⟩ := List.cons.inj hd
      exact absurd (by simp) hmore

/-- A single bracket with a quoted text behind it looks up what the text says. -/
theorem LooksUp.of_single {ts us : List Token} {key : String} (hkey : declared key)
    (ht : Token.code '[' ∉ ts) (hu : Token.code '[' ∉ us) :
    LooksUp declared
      (ts ++ (codeTokens "FIELD_TYPES[" ++ literalToken key :: .code ']' :: us)) := by
  intro before after heq
  rw [codeTokens_lookup] at heq
  simp only [List.append_assoc, List.singleton_append] at heq
  rw [← List.append_assoc, ← List.append_assoc] at heq
  have hys : Token.code '[' ∉ ts ++ codeTokens "FIELD_TYPES" := by
    rw [List.mem_append, not_or]
    exact ⟨ht, by decide⟩
  have hmore : Token.code '[' ∉ literalToken key :: .code ']' :: us := by
    simp [literalToken, hu]
  obtain ⟨-, hafter⟩ := append_cons_unique hys hmore heq.symm
  exact ⟨key, us, hkey, hafter⟩

/-- The bracket behind the name of the other dictionary looks no type up. -/
theorem LooksUp.of_base {ts us : List Token} (ht : Token.code '[' ∉ ts)
    (hu : Token.code '[' ∉ us) : LooksUp declared (ts ++ (codeTokens "BASE_TYPES[" ++ us)) := by
  have hbase : codeTokens "BASE_TYPES[" = codeTokens "BASE_TYPES" ++ [.code '['] := by decide
  intro before after heq
  rw [codeTokens_lookup, hbase] at heq
  simp only [List.append_assoc, List.singleton_append] at heq
  rw [← List.append_assoc, ← List.append_assoc] at heq
  have hys : Token.code '[' ∉ ts ++ codeTokens "BASE_TYPES" := by
    rw [List.mem_append, not_or]
    exact ⟨ht, by decide⟩
  obtain ⟨hnames, -⟩ := append_cons_unique hys hu heq.symm
  -- the two names end differently
  have hfield : codeTokens "FIELD_TYPES" = codeTokens "FIEL" ++ codeTokens "D_TYPES" := by decide
  have hother : codeTokens "BASE_TYPES" = codeTokens "BAS" ++ codeTokens "E_TYPES" := by decide
  rw [hfield, hother, ← List.append_assoc, ← List.append_assoc] at hnames
  exact absurd (List.append_inj_right' hnames (by decide)) (by decide)

/-- No lookup stretches over the end of a line. -/
theorem LooksUp.append_line {ts us : List Token} (ht : LooksUp declared ts)
    (hu : LooksUp declared us) : LooksUp declared (ts ++ .code '\n' :: us) := by
  have hnewline : Token.code '\n' ∉ codeTokens "FIELD_TYPES[" := by decide
  intro before after heq
  -- the bracket stands in front of the line feed or behind it
  rcases List.append_eq_append_iff.mp heq with ⟨d, hbefore, hrest⟩ | ⟨d, hts, hafter⟩
  · -- the name and the bracket end behind the first line, or together with it
    cases d with
    | nil =>
      rw [List.append_nil] at hbefore
      obtain ⟨key, rest, -, hnil⟩ := ht before [] (by rw [hbefore, List.append_nil])
      cases hnil
    | cons t d =>
      obtain ⟨rfl, rfl⟩ := List.cons.inj hrest
      rcases List.append_eq_append_iff.mp hbefore with ⟨e, -, he⟩ | ⟨e, -, he⟩
      · rw [he] at hnewline
        exact absurd (by simp) hnewline
      · cases e with
        | nil =>
          rw [List.nil_append] at he
          rw [← he] at hnewline
          exact absurd (by simp) hnewline
        | cons t e =>
          obtain ⟨-, rfl⟩ := List.cons.inj he
          exact hu e after rfl
  · obtain ⟨key, rest, hkey, rfl⟩ := ht before d hts
    exact ⟨key, _, hkey, hafter⟩

/-! ## Generated text -/

variable {keys : List String}

/-- The tokens of a generated line: it ends in code, and looks up keys alone. -/
theorem Line.emits {line : String} (h : Line keys line) :
    ∃ ts, Emits (line.toList ++ ['\n']) (ts ++ [.code '\n']) ∧ LooksUp (· ∈ keys) ts := by
  have hend : Emits ['\n'] [.code '\n'] := rfl
  cases h with
  | @fragment s r hs hr =>
    obtain ⟨ts, hemits, hts⟩ := hs.emits
    refine ⟨ts, ?_, .of_notMem hts⟩
    rw [String.toList_append, List.append_assoc]
    exact hemits.append hr.emits
  | @lookup s t key hs hkey ht =>
    obtain ⟨ts, hsEmits, hts⟩ := hs.emits
    obtain ⟨us, htEmits, hus⟩ := ht.emits
    have hopen : Emits "FIELD_TYPES[".toList (codeTokens "FIELD_TYPES[") := rfl
    have hclose : Emits "]".toList [.code ']'] := rfl
    refine ⟨ts ++ (codeTokens "FIELD_TYPES[" ++ literalToken key :: .code ']' :: us), ?_,
      .of_single hkey hts hus⟩
    have hemits := (hsEmits.append (((hopen.append (emits_quoted key)).append hclose).append
      htEmits)).append hend
    simpa only [String.toList_append, List.append_assoc, List.cons_append, List.nil_append]
      using hemits
  | @base s t r hs ht hr =>
    obtain ⟨ts, hsEmits, hts⟩ := hs.emits
    obtain ⟨us, htEmits, hus⟩ := ht.emits
    have hopen : Emits "BASE_TYPES[".toList (codeTokens "BASE_TYPES[") := rfl
    refine ⟨ts ++ (codeTokens "BASE_TYPES[" ++ us), ?_, .of_base hts hus⟩
    have hemits := hsEmits.append ((hopen.append htEmits).append hr.emits)
    simpa only [String.toList_append, List.append_assoc] using hemits

/-- Generated text looks up keys alone. -/
theorem looksUp_text {lines : List String} (h : Lines keys lines) :
    LooksUp (· ∈ keys) (tokens (text lines)) := by
  have hlex : ∃ ts, Emits (text lines).toList ts ∧ LooksUp (· ∈ keys) ts := by
    rw [toList_text]
    induction lines with
    | nil => exact ⟨[], rfl, .of_notMem (by simp)⟩
    | cons line lines ih =>
      obtain ⟨ts, hline, hts⟩ := (h line (by simp)).emits
      obtain ⟨us, hlines, hus⟩ := ih fun other hmem => h other (by simp [hmem])
      refine ⟨ts ++ .code '\n' :: us, ?_, hts.append_line hus⟩
      have hemits := hline.append hlines
      simpa only [List.flatMap_cons, List.append_assoc, List.singleton_append] using hemits
  obtain ⟨ts, hemits, hts⟩ := hlex
  unfold tokens
  rwa [hemits]

end FitProfile.Source
