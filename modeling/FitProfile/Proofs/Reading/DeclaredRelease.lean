import FitProfile.Proofs.Drafting
import FitProfile.Proofs.Text.Unbroken
import FitProfile.RuleSet.Registry
/-!
# FitProfile.Proofs.Reading.DeclaredRelease -- the release that a workbook declares

The text of a release reads back as that release, whatever white space stands in front of it and
whatever stands behind it, if that does not go on with a digit (`Version.read_text`). A workbook
declares the release in the first cell of its version sheet that holds a version text, row by row;
so a sheet with the text of a release in that place declares this release, and the workbook is
refused for every other one (`Draft.release_of_text`).
-/

namespace FitProfile

open FitProfile.Number

/-! ## Digits -/

namespace Text

theorem digitValue_of_isDigit {c : Char} (h : c.isDigit = true) :
    digitValue c = some (c.toNat - '0'.toNat) := by
  obtain ⟨hlow, hhigh⟩ := Char.isDigit_iff_toNat.mp h
  have hzero : '0'.toNat = 0x30 := rfl
  have hnine : '9'.toNat = 0x39 := rfl
  unfold digitValue digitValueCode
  rw [if_pos (by omega), if_pos (by omega), hzero]

theorem isDecimalDigit_of_isDigit {c : Char} (h : c.isDigit = true) : isDecimalDigit c = true := by
  rw [isDecimalDigit, digitValue_of_isDigit h]
  rfl

end Text

open FitProfile.Text

/-! ## Version texts -/

namespace Version

/-- A run of ASCII digits. -/
def IsDigitRun (cs : List Char) : Prop := cs ≠ [] ∧ ∀ c ∈ cs, c.isDigit = true

theorem isDigitRun_toDigits (n : Nat) : IsDigitRun (Nat.toDigits 10 n) :=
  ⟨Nat.toDigits_ne_nil, fun _ hc => Nat.isDigit_of_mem_toDigits (by omega) (by omega) hc⟩

theorem foldl_digitValue {cs : List Char} (h : ∀ c ∈ cs, c.isDigit = true) (n : Nat) :
    (cs.filterMap digitValue).foldl (fun n d => n * 10 + d) n = Nat.ofDigitChars 10 cs n := by
  induction cs generalizing n with
  | nil => rfl
  | cons c cs ih =>
    rw [List.forall_mem_cons] at h
    rw [List.filterMap_cons_some (digitValue_of_isDigit h.1), List.foldl_cons, ih h.2,
      Nat.ofDigitChars_cons, Nat.mul_comm n 10]

/-- Decimal text has the value of its number. -/
theorem runValue_toDigits (n : Nat) : runValue (Nat.toDigits 10 n) = n := by
  rw [runValue, ofDigits, foldl_digitValue (isDigitRun_toDigits n).2,
    Nat.ofDigitChars_ten_toDigits]

/-- The two runs of a version text, behind white space and in front of no further digit. -/
theorem digitRuns?_append {blanks major minor rest : List Char}
    (hblanks : ∀ c ∈ blanks, isBlank c = true) (hmajor : IsDigitRun major)
    (hminor : IsDigitRun minor) (hrest : ∀ c ∈ rest.head?, isDecimalDigit c = false) :
    digitRuns? (blanks ++ (major ++ '.' :: (minor ++ rest))) = some (major, minor) := by
  have hdigit : ∀ {run : List Char}, IsDigitRun run → ∀ c ∈ run, isDecimalDigit c = true :=
    fun hrun c hc => isDecimalDigit_of_isDigit (hrun.2 c hc)
  have hstart : ∀ c ∈ (major ++ '.' :: (minor ++ rest)).head?, isBlank c = false := by
    intro c hc
    rw [List.head?_append_of_ne_nil _ hmajor.1] at hc
    exact not_isBlank_of_isNumeral (isNumeral_of_isDigit (hmajor.2 c (List.mem_of_mem_head? hc)))
  have hpoint : ∀ c ∈ ('.' :: (minor ++ rest)).head?, isDecimalDigit c = false := by
    rintro _ ⟨⟩
    decide
  -- each of the three runs ends where the next one begins
  have hbody := (takeWhile_dropWhile_append hblanks hstart).2
  have hmajorRun := takeWhile_dropWhile_append (hdigit hmajor) hpoint
  have hminorRun := takeWhile_dropWhile_append (hdigit hminor) hrest
  simp only [digitRuns?, hbody, hmajorRun.1, hmajorRun.2, hminorRun.1,
    List.isEmpty_eq_false_iff.mpr hmajor.1, List.isEmpty_eq_false_iff.mpr hminor.1, Bool.or_self,
    Bool.false_eq_true, if_false]

theorem toList_decimal {n : Int} (h : 0 ≤ n) : (decimal n).toList = Nat.toDigits 10 n.natAbs := by
  rw [decimal, if_neg (by omega), Nat.toList_repr]

/-- A release of two numbers that are neither negative nor have too many digits. -/
structure IsReadable (version : Version) : Prop where
  major : 0 ≤ version.major ∧ isWritable version.major = true
  minor : 0 ≤ version.minor ∧ isWritable version.minor = true

/-- The text of a release reads back as the release. -/
theorem read_text {version : Version} (hreadable : version.IsReadable) {blanks rest : String}
    (hblanks : ∀ c ∈ blanks.toList, isBlank c = true)
    (hrest : ∀ c ∈ rest.toList.head?, isDecimalDigit c = false) :
    read (blanks ++ version.text ++ rest) = .found version := by
  obtain ⟨⟨hmajor, hmajorShort⟩, hminor, hminorShort⟩ := hreadable
  have hmark : ".".toList = ['.'] := by decide
  have hruns : digitRuns? (blanks ++ version.text ++ rest).toList =
      some (Nat.toDigits 10 version.major.natAbs, Nat.toDigits 10 version.minor.natAbs) := by
    simp only [text, String.toList_append, toList_decimal hmajor, toList_decimal hminor, hmark,
      List.append_assoc, List.cons_append, List.nil_append]
    exact digitRuns?_append hblanks (isDigitRun_toDigits _) (isDigitRun_toDigits _) hrest
  have hmajorLimit := of_decide_eq_true hmajorShort
  have hminorLimit := of_decide_eq_true hminorShort
  rw [read, hruns]
  dsimp only
  rw [if_neg (Nat.not_lt.mpr hmajorLimit), if_neg (Nat.not_lt.mpr hminorLimit),
    runValue_toDigits, runValue_toDigits, Int.natAbs_of_nonneg hmajor, Int.natAbs_of_nonneg hminor]

end Version

/-! ## The version sheet -/

namespace Draft

variable {rules : RuleSet} {book : Workbook} {text : String} {version : Version}

/-- `text` stands in the version sheet of a workbook, in the first cell, row by row, that has the
form of a version text, be it one with too many digits to be read: such a text is not passed over,
but ends the reading (`ofWorkbook_of_overlong`). -/
inductive HasVersionText (rules : RuleSet) (book : Workbook) (text : String) : Prop where
  | intro {name : String} {sheet : Sheet} {before after : List String}
      (named : rules.versionSheet = some name) (nonempty : name ≠ "")
      (found : book.sheet (some name) = .ok sheet)
      (cells : sheet.rows.flatMap Row.cells = before ++ text :: after)
      (first : ∀ cell ∈ before, Version.read cell = .absent)

/-- Cells without a version text are passed over. -/
theorem firstVersion?_append {before : List String}
    (h : ∀ cell ∈ before, Version.read cell = .absent) (cells : List String) :
    firstVersion? (before ++ cells) = firstVersion? cells := by
  induction before with
  | nil => rfl
  | cons cell before ih =>
    rw [List.forall_mem_cons] at h
    rw [List.cons_append, firstVersion?, h.1]
    exact ih h.2

/-- The first text with the form of a version text decides what a workbook declares; no cell behind
it is looked at. -/
theorem declaredVersion?_of_hasVersionText (h : HasVersionText rules book text) :
    (∀ version, Version.read text = .found version →
      declaredVersion? rules book = .ok (some version)) ∧
    ∀ n, Version.read text = .tooManyDigits n →
      declaredVersion? rules book = .error (.tooManyDigitsToRead n) := by
  obtain @⟨name, sheet, before, after, hname, hne, hsheet, hcells, hfirst⟩ := h
  have hhas : book.hasSheet name = true := by
    rw [Workbook.sheet, Option.bind_some, Workbook.sheet?] at hsheet
    cases hlookup : book.sheets.lookup name with
    | none =>
      rw [hlookup] at hsheet
      cases hsheet
    | some rows => rw [Workbook.hasSheet, hlookup, Option.isSome_some]
  have hversion : firstVersion? (sheet.rows.flatMap Row.cells) = firstVersion? (text :: after) := by
    rw [hcells, firstVersion?_append hfirst]
  simp only [declaredVersion?, hname, hne, hhas, hsheet, Bool.not_true, Bool.false_eq_true,
    or_self, if_false]
  show (∀ version, _ → (firstVersion? (sheet.rows.flatMap Row.cells) >>= _) = _) ∧
    ∀ n, _ → (firstVersion? (sheet.rows.flatMap Row.cells) >>= _) = _
  rw [hversion]
  refine ⟨fun version hread => ?_, fun n hread => ?_⟩
  · rw [firstVersion?, hread]
    rfl
  · rw [firstVersion?, hread]
    rfl

/-- A workbook whose first version text has too many digits is refused for every release, whatever
release a later cell declares. -/
theorem ofWorkbook_of_overlong {n : Nat} (h : HasVersionText rules book text)
    (hread : Version.read text = .tooManyDigits n) (requested : Version) :
    (ofWorkbook rules requested book).outcome = .error (.tooManyDigitsToRead n) := by
  rw [ofWorkbook_eq, (declaredVersion?_of_hasVersionText h).2 n hread]
  rfl

/-- A workbook that declares one release is refused for any other. -/
theorem ofWorkbook_of_declared {declared : Version}
    (hdeclared : declaredVersion? rules book = .ok (some declared)) (hne : version ≠ declared) :
    (ofWorkbook rules version book).outcome = .error (versionFault rules declared version) := by
  have hcheck : checkRelease rules version (some declared) =
      .error (versionFault rules declared version) := if_pos hne.symm
  rw [ofWorkbook_eq, hdeclared]
  show (Reported.ofExcept (checkRelease rules version (some declared)) >>= _).outcome = _
  rw [hcheck]
  rfl

/-- The text of a release reads back as the release, behind any white space and in front of
anything that does not go on with a digit. A workbook whose version sheet has it in the first cell
with a version text declares this release, and is refused for every other one. -/
theorem release_of_text {version : Version} (hreadable : version.IsReadable) {blanks rest : String}
    (hblanks : ∀ c ∈ blanks.toList, isBlank c = true)
    (hrest : ∀ c ∈ rest.toList.head?, isDecimalDigit c = false) :
    Version.read (blanks ++ version.text ++ rest) = .found version ∧
    ∀ (rules : RuleSet) (book : Workbook),
      HasVersionText rules book (blanks ++ version.text ++ rest) →
      declaredVersion? rules book = .ok (some version) ∧
      ∀ requested, requested ≠ version → (ofWorkbook rules requested book).outcome =
        .error (versionFault rules version requested) := by
  have hread : Version.read (blanks ++ version.text ++ rest) = .found version :=
    Version.read_text hreadable hblanks hrest
  refine ⟨hread, fun rules book htext => ?_⟩
  have hdeclared : declaredVersion? rules book = .ok (some version) :=
    (declaredVersion?_of_hasVersionText htext).1 version hread
  exact ⟨hdeclared, fun requested hne => ofWorkbook_of_declared hdeclared hne⟩

/-- A workbook with two version texts, the second one in the digits of another script. The year in
front of them is no version text. -/
def releaseBook : Workbook where
  sheets := [("Version", [["Profile", "2017"], [], ["", "\t\u200321.4-rc", "２０.１４"]])]

/-- The first version text is the one that counts. -/
theorem releaseBook_declares :
    Version.IsReadable ⟨21, 4⟩ ∧ HasVersionText .sdk20 releaseBook "\t\u200321.4-rc" ∧
      Version.read "\t\u200321.4-rc" = .found ⟨21, 4⟩ ∧
      declaredVersion? .sdk20 releaseBook = .ok (some ⟨21, 4⟩) ∧
      (ofWorkbook .sdk20 ⟨20, 14⟩ releaseBook).outcome =
        .error (.input (.versionDiffers ⟨21, 4⟩ ⟨20, 14⟩) { sheet := some "Version" }) := by
  have hreadable : Version.IsReadable ⟨21, 4⟩ := ⟨by decide, by decide⟩
  have hbefore : ∀ cell ∈ ["Profile", "2017", ""], Version.read cell = .absent := by decide
  have htext : HasVersionText .sdk20 releaseBook "\t\u200321.4-rc" :=
    .intro rfl (by decide) rfl rfl hbefore
  have hblanks : ∀ c ∈ "\t\u2003".toList, isBlank c = true := List.all_eq_true.mp (by decide)
  have hrest : ∀ c ∈ "-rc".toList.head?, isDecimalDigit c = false := by
    intro c hc
    obtain rfl : '-' = c := Option.some.inj hc
    decide
  have hparts : "\t\u2003" ++ Version.text ⟨21, 4⟩ ++ "-rc" = "\t\u200321.4-rc" := by decide
  obtain ⟨hread, hbooks⟩ := release_of_text hreadable hblanks hrest
  rw [hparts] at hread hbooks
  obtain ⟨hdeclared, hothers⟩ := hbooks .sdk20 releaseBook htext
  exact ⟨hreadable, htext, hread, hdeclared, hothers ⟨20, 14⟩ (by decide)⟩

end Draft

end FitProfile
