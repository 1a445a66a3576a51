import FitProfile.Proofs.Outcome
import FitProfile.Proofs.Sorting
import FitProfile.Proofs.Wording
import FitProfile.RuleSet.Registry
/-!
# FitProfile.Proofs.RuleSet.Selection -- sound registries and what is selected from them

A registry is sound when each rule set is well formed by itself and no release lies in two
ranges. The check of a registry looks at neighbours only, in the order of the least releases.
That is enough: a range that lies below the next one lies below all that follow, because no range
is empty (`pairwise_below`). In a sound registry at most one rule set has a given release in its
range, so the first one is the only one, and the order of the registry does not matter for
selecting it (`checkRegistry_decides`).

A release that no range holds is refused as unsupported. The refusal words the release and all
ranges, so with more digits in them than are written it is the limit on digits that is reported
(`registered_overlong`).
-/

namespace FitProfile

open FitProfile.Number FitProfile.Outcome

/-! ## Releases in order -/

namespace Version

variable {a b c : Version}

theorem lt_iff :
    a.lt b = true ↔ a.major < b.major ∨ (a.major = b.major ∧ a.minor < b.minor) := by
  simp [lt]

theorem le_iff :
    a.le b = true ↔ a.major < b.major ∨ (a.major = b.major ∧ a.minor ≤ b.minor) := by
  obtain ⟨major, minor⟩ := a
  obtain ⟨major', minor'⟩ := b
  simp only [le, Bool.or_eq_true, lt_iff, beq_iff_eq, mk.injEq]
  omega

theorem le_total (a b : Version) : a.le b = true ∨ b.le a = true := by
  rw [le_iff, le_iff]
  omega

theorem le_trans (hab : a.le b = true) (hbc : b.le c = true) : a.le c = true := by
  rw [le_iff] at hab hbc ⊢
  omega

theorem lt_of_lt_of_le (hab : a.lt b = true) (hbc : b.le c = true) : a.lt c = true := by
  rw [lt_iff] at hab ⊢
  rw [le_iff] at hbc
  omega

theorem lt_trans (hab : a.lt b = true) (hbc : b.lt c = true) : a.lt c = true := by
  rw [lt_iff] at hab hbc ⊢
  omega

/-- Of two releases one lies below the other one, or is at least as high. -/
theorem not_le_iff : ¬ a.le b = true ↔ b.lt a = true := by
  rw [le_iff, lt_iff]
  omega

end Version

theorem TypesColumn.mem_columns (column : TypesColumn) : column ∈ TypesColumn.all := by
  cases column <;> decide

theorem MessagesColumn.mem_columns (column : MessagesColumn) : column ∈ MessagesColumn.all := by
  cases column <;> decide

namespace RuleSet

variable {a b rules : RuleSet} {registry : List RuleSet} {version : Version}

/-! ## Rule sets by themselves -/

theorem supports_iff :
    rules.supports version = true ↔
      rules.minVersion.le version = true ∧ version.le rules.maxVersion = true := by
  simp [supports]

/-- No release with a greater major part than the last one of a range lies in it. -/
theorem not_supports_of_lt (h : rules.maxVersion.major < version.major) :
    ¬ rules.supports version = true := by
  rw [supports_iff, Version.le_iff, Version.le_iff]
  omega

/-- A rule set with a range that is not empty. It maps only columns that the sheets have, and
among them all that it requires. -/
structure WellFormed (rules : RuleSet) : Prop where
  range : rules.minVersion.le rules.maxVersion = true
  typesKnown : ∀ key ∈ rules.typesColumns.map Prod.fst, ∃ column : TypesColumn, column.key = key
  messagesKnown : ∀ key ∈ rules.messagesColumns.map Prod.fst,
    ∃ column : MessagesColumn, column.key = key
  typesMapped : ∀ key ∈ rules.requiredTypesColumns, key ∈ rules.typesColumns.map Prod.fst
  messagesMapped : ∀ key ∈ rules.requiredMessagesColumns, key ∈ rules.messagesColumns.map Prod.fst

/-- The keys of a rule set that are those of columns are those that are not filtered out. -/
theorem filter_unknown_eq_nil {γ : Type} {key : γ → String} {columns : List γ}
    (hall : ∀ column, column ∈ columns) {keys : List String} :
    (keys.filter fun k => !(columns.map key).contains k) = [] ↔
      ∀ k ∈ keys, ∃ column, key column = k := by
  simp [List.filter_eq_nil_iff, hall]

theorem unknownColumns_eq_nil :
    rules.unknownColumns = [] ↔
      (∀ key ∈ rules.typesColumns.map Prod.fst, ∃ column : TypesColumn, column.key = key) ∧
        ∀ key ∈ rules.messagesColumns.map Prod.fst,
          ∃ column : MessagesColumn, column.key = key := by
  rw [← filter_unknown_eq_nil TypesColumn.mem_columns,
    ← filter_unknown_eq_nil MessagesColumn.mem_columns]
  -- sorting and erasing repetitions leave nothing only where there was nothing
  simp only [unknownColumns, List.eq_nil_iff_forall_not_mem, Order.mem_sortBy,
    List.mem_eraseDups, List.mem_append, not_or, forall_and]

/-- A required column is mapped where its key is found. -/
theorem lookup_isNone_eq_false {columns : List (String × String)} {key : String} :
    (columns.lookup key).isNone = false ↔ key ∈ columns.map Prod.fst := by
  rw [Option.isNone_eq_false_iff, Option.isSome_iff_ne_none, ne_eq, List.lookup_eq_none_iff]
  simp

theorem check_eq_ok : rules.check = .ok () ↔ rules.WellFormed := by
  have hrequired : ∀ {keys : List String} {columns : List (String × String)},
      (keys.find? fun key => (columns.lookup key).isNone) = none ↔
        ∀ key ∈ keys, key ∈ columns.map Prod.fst := by
    intro keys columns
    simp only [List.find?_eq_none, Bool.not_eq_true, lookup_isNone_eq_false]
  unfold check
  -- the cases follow the checks: range, known columns, required columns of the two sheets
  by_cases hrange : rules.maxVersion.lt rules.minVersion = true
  · rw [if_pos hrange]
    refine iff_of_false nofun fun h => ?_
    exact Version.not_le_iff.mpr hrange h.range
  · rw [if_neg hrange]
    by_cases hknown : rules.unknownColumns = []
    · rw [if_neg (by simp [hknown])]
      obtain ⟨htypesKnown, hmessagesKnown⟩ := unknownColumns_eq_nil.mp hknown
      cases htypes : rules.requiredTypesColumns.find? fun key =>
          (rules.typesColumns.lookup key).isNone with
      | some key =>
        refine iff_of_false nofun fun h => ?_
        rw [hrequired.mpr h.typesMapped] at htypes
        cases htypes
      | none =>
        cases hmessages : rules.requiredMessagesColumns.find? fun key =>
            (rules.messagesColumns.lookup key).isNone with
        | some key =>
          refine iff_of_false nofun fun h => ?_
          rw [hrequired.mpr h.messagesMapped] at hmessages
          cases hmessages
        | none =>
          refine iff_of_true rfl ⟨?_, htypesKnown, hmessagesKnown, hrequired.mp htypes,
            hrequired.mp hmessages⟩
          by_contra hempty
          exact hrange (Version.not_le_iff.mp hempty)
    · rw [if_pos (by simpa using hknown)]
      refine iff_of_false nofun fun h => hknown ?_
      exact unknownColumns_eq_nil.mpr ⟨h.typesKnown, h.messagesKnown⟩

theorem checkEach_eq_ok :
    checkEach registry = .ok () ↔ ∀ rules ∈ registry, rules.WellFormed := by
  induction registry with
  | nil => simp [checkEach]
  | cons rules rest ih =>
    rw [checkEach, List.forall_mem_cons, ← ih, ← check_eq_ok]
    constructor
    · intro h
      obtain ⟨_, hfirst, hrest⟩ := bind_eq_ok.mp h
      exact ⟨hfirst, hrest⟩
    · rintro ⟨hfirst, hrest⟩
      exact bind_eq_ok.mpr ⟨(), hfirst, hrest⟩

/-! ## Ranges next to each other -/

/-- The range of a rule set ends before that of another one begins. -/
def Below (a b : RuleSet) : Prop := a.maxVersion.lt b.minVersion = true

/-- No release lies in the ranges of both rule sets. -/
def Apart (a b : RuleSet) : Prop :=
  ∀ version, ¬ (a.supports version = true ∧ b.supports version = true)

theorem Apart.symm (h : Apart a b) : Apart b a := fun version hboth => h version hboth.symm

theorem Below.apart (h : Below a b) : Apart a b := by
  rintro version ⟨ha, hb⟩
  have hbefore := Version.lt_of_lt_of_le h (supports_iff.mp hb).1
  exact Version.not_le_iff.mpr hbefore (supports_iff.mp ha).2

/-- Of two ranges without a common release, the one that begins first ends before the other. -/
theorem Apart.below (h : Apart a b) (hfirst : a.minVersion.le b.minVersion = true)
    (hb : b.minVersion.le b.maxVersion = true) : Below a b := by
  by_contra hmeets
  -- otherwise both hold the least release of the second one
  have hinside : b.minVersion.le a.maxVersion = true := by
    by_contra hbeyond
    exact hmeets (Version.not_le_iff.mp hbeyond)
  refine h b.minVersion ⟨supports_iff.mpr ⟨hfirst, hinside⟩, supports_iff.mpr ⟨?_, hb⟩⟩
  exact (Version.le_total _ _).elim id id

theorem checkAscending_eq_ok : checkAscending registry = .ok () ↔ registry.IsChain Below := by
  fun_induction checkAscending registry with
  | case1 lower upper rest hmeets =>
    refine iff_of_false nofun fun h => ?_
    exact Version.not_le_iff.mpr (List.isChain_cons_cons.mp h).1 hmeets
  | case2 lower upper rest hbelow ih =>
    rw [ih, List.isChain_cons_cons]
    exact ⟨fun h => ⟨Version.not_le_iff.mp hbelow, h⟩, fun h => h.2⟩
  | case3 list hshort =>
    refine iff_of_true rfl ?_
    match list, hshort with
    | [], _ => exact .nil
    | [rules], _ => exact .singleton rules
    | lower :: upper :: rest, hshort => exact absurd rfl (hshort lower upper rest)

/-- Where no range is empty, ranges each of which lies below the next one lie below all that
follow. -/
theorem pairwise_below (hranges : ∀ rules ∈ registry, rules.minVersion.le rules.maxVersion = true)
    (h : registry.IsChain Below) : registry.Pairwise Below := by
  induction registry with
  | nil => exact .nil
  | cons first rest ih =>
    cases rest with
    | nil => exact List.pairwise_singleton Below first
    | cons second rest =>
      obtain ⟨hnext, hchain⟩ := List.isChain_cons_cons.mp h
      have hrest := ih (fun rules hmem => hranges rules (List.mem_cons_of_mem _ hmem)) hchain
      refine List.pairwise_cons.mpr ⟨?_, hrest⟩
      intro later hlater
      rcases List.mem_cons.mp hlater with rfl | hlater
      · exact hnext
      · -- the range in between is passed from its least to its greatest release
        have hbetween := hranges second (List.mem_cons_of_mem _ List.mem_cons_self)
        have hlast : Below second later := (List.pairwise_cons.mp hrest).1 later hlater
        exact Version.lt_trans (Version.lt_of_lt_of_le hnext hbetween) hlast

/-- In ascending order of the least releases, neighbours that do not meet are enough. -/
theorem isChain_below_iff
    (hranges : ∀ rules ∈ registry, rules.minVersion.le rules.maxVersion = true)
    (hsorted : registry.Pairwise fun a b => a.minVersion.le b.minVersion = true) :
    registry.IsChain Below ↔ registry.Pairwise Apart := by
  constructor
  · intro h
    exact (pairwise_below hranges h).imp Below.apart
  · intro h
    refine List.Pairwise.isChain ((h.and hsorted).imp_of_mem ?_)
    intro a b _ hb hab
    exact hab.1.below hab.2 (hranges b hb)

/-! ## The check of a registry -/

/-- A registry of well formed rule sets, no two of which hold a release in common. -/
structure Sound (registry : List RuleSet) : Prop where
  wellFormed : ∀ rules ∈ registry, rules.WellFormed
  apart : registry.Pairwise Apart

/-- The order of a registry does not matter for whether it is sound. -/
theorem Sound.perm {other : List RuleSet} (h : Sound registry) (hperm : other.Perm registry) :
    Sound other where
  wellFormed rules hmem := h.wellFormed rules (hperm.mem_iff.mp hmem)
  apart := (hperm.pairwise_iff Apart.symm).mpr h.apart

theorem checkRegistry_eq_ok : checkRegistry registry = .ok () ↔ Sound registry := by
  have hperm := Order.sortBy_perm (fun a b : RuleSet => a.minVersion.le b.minVersion) registry
  have hsorted : (Order.sortBy (fun a b => a.minVersion.le b.minVersion) registry).Pairwise
      fun a b => a.minVersion.le b.minVersion = true := by
    refine Order.pairwise_sortBy ?_ ?_ registry
    · exact fun a b => Version.le_total a.minVersion b.minVersion
    · exact fun a b c => Version.le_trans
  have hsound : Sound registry ↔
      Sound (Order.sortBy (fun a b => a.minVersion.le b.minVersion) registry) :=
    ⟨fun h => h.perm hperm, fun h => h.perm hperm.symm⟩
  rw [hsound, checkRegistry]
  constructor
  · intro h
    obtain ⟨_, heach, hascending⟩ := bind_eq_ok.mp h
    have hwellFormed := checkEach_eq_ok.mp heach
    have hranges := fun rules hmem => (hwellFormed rules hmem).range
    exact ⟨hwellFormed, (isChain_below_iff hranges hsorted).mp (checkAscending_eq_ok.mp hascending)⟩
  · intro h
    have hranges := fun rules hmem => (h.wellFormed rules hmem).range
    have hchain := (isChain_below_iff hranges hsorted).mpr h.apart
    exact bind_eq_ok.mpr ⟨(), checkEach_eq_ok.mpr h.wellFormed, checkAscending_eq_ok.mpr hchain⟩

/-! ## Selection -/

/-- Of rule sets no two of which pass a test, the first one that passes is the only one, in
whatever order they stand. -/
theorem find?_decides {other : List RuleSet} {test : RuleSet → Bool}
    (h : registry.Pairwise fun a b => ¬ (test a = true ∧ test b = true))
    (hperm : other.Perm registry) :
    (∀ rules, other.find? test = some rules ↔ registry.filter test = [rules]) ∧
      (other.find? test = none ↔ ∀ rules ∈ registry, ¬ test rules = true) := by
  have hpassing := hperm.filter test
  have hapart := h.filter test
  have hpass : ∀ rules ∈ registry.filter test, test rules = true :=
    fun rules hmem => (List.mem_filter.mp hmem).2
  rw [← List.filter_eq_nil_iff, ← List.head?_filter]
  generalize registry.filter test = passing at hpassing hapart hpass ⊢
  match passing with
  | [] =>
    rw [List.perm_nil.mp hpassing]
    exact ⟨fun rules => by simp, by simp⟩
  | [only] =>
    rw [List.perm_singleton.mp hpassing]
    exact ⟨fun rules => by simp, by simp⟩
  | a :: b :: rest =>
    have hab := (List.pairwise_cons.mp hapart).1 b List.mem_cons_self
    exact absurd ⟨hpass a (by simp), hpass b (by simp)⟩ hab

/-- Selection takes the first of the rule sets whose ranges hold a release. -/
theorem select_eq_ok : select registry version = .ok rules ↔
    (registry.find? fun rules => rules.supports version) = some rules := by
  unfold select
  split <;> simp [*]

theorem select_eq_error {fault : Fault} : select registry version = .error fault ↔
    (registry.find? fun rules => rules.supports version) = none ∧
      unsupportedFault registry version = fault := by
  unfold select
  split <;> simp [*]

/-- A rule set is selected for the releases in the ranges of a registry. -/
theorem exists_select_iff : (∃ rules, select registry version = .ok rules) ↔
    ∃ rules ∈ registry, rules.supports version = true := by
  simp only [select_eq_ok, ← Option.isSome_iff_exists, List.find?_isSome]

/-- A release with too many digits is not refused as unsupported. -/
theorem select_of_overlong (hnone : ∀ rules ∈ registry, ¬ rules.supports version = true)
    (hlong : ∃ n ∈ version.numbers, isWritable n = false) :
    select registry version = .error .tooManyDigitsToWrite := by
  obtain ⟨n, hn, hfalse⟩ := hlong
  have hworded : unsupportedFault registry version = .tooManyDigitsToWrite :=
    Fault.worded_of_overlong ⟨n, List.mem_append_left _ hn, hfalse⟩
  exact select_eq_error.mpr ⟨List.find?_eq_none.mpr hnone, hworded⟩

/-- A release without a range is unsupported while the refusal can be worded, and beyond the limit
on digits otherwise. Which of the two it is does not depend on the order of the registry. -/
theorem unsupportedFault_eq_iff {other : List RuleSet} (hperm : other.Perm registry)
    {fault : Fault} : unsupportedFault other version = fault ↔
      (∀ n ∈ unsupportedNumbers registry version, isWritable n = true) ∧
          fault = .unsupportedVersion version (supportedRanges other) ∨
        (∃ n ∈ unsupportedNumbers registry version, isWritable n = false) ∧
          fault = .tooManyDigitsToWrite := by
  have hmem : ∀ n, n ∈ unsupportedNumbers other version ↔
      n ∈ unsupportedNumbers registry version := by
    intro n
    simp only [unsupportedNumbers, List.mem_append, List.mem_flatMap, hperm.mem_iff]
  by_cases hlong : ∃ n ∈ unsupportedNumbers registry version, isWritable n = false
  · have hsome : ¬ ∀ n ∈ unsupportedNumbers registry version, isWritable n = true := by
      intro hall
      obtain ⟨n, hn, hfalse⟩ := hlong
      rw [hall n hn] at hfalse
      cases hfalse
    have hother : ∃ n ∈ unsupportedNumbers other version, isWritable n = false := by
      simpa only [hmem] using hlong
    rw [unsupportedFault, Fault.worded_of_overlong hother]
    simp only [hsome, hlong, false_and, true_and, false_or]
    exact eq_comm
  · have hall : ∀ n ∈ unsupportedNumbers registry version, isWritable n = true :=
      fun n hn => eq_true_of_ne_false fun hfalse => hlong ⟨n, hn, hfalse⟩
    have hother : ∀ n ∈ unsupportedNumbers other version, isWritable n = true :=
      fun n hn => hall n ((hmem n).mp hn)
    rw [unsupportedFault, Fault.worded_of_writable hother]
    simp only [hlong, false_and, or_false]
    exact ⟨fun h => ⟨hall, h.symm⟩, fun h => h.2.symm⟩

/-- A registry passes its check just when it is sound: each rule set has a range that is not
empty, maps known columns only and all that it requires, and no release lies in the ranges of two
of them. In whatever order a registry that passes stands, the rule set selected for a release is
the one and only one whose range holds it, and the release is refused just when there is none. It
is refused as unsupported if the numbers of the release and of all ranges can be written; else the
refusal ends at the limit on digits before it is made. -/
theorem checkRegistry_decides (registry : List RuleSet) :
    (checkRegistry registry = .ok () ↔
      (∀ rules ∈ registry, rules.WellFormed) ∧ registry.Pairwise Apart) ∧
    (checkRegistry registry = .ok () → ∀ other : List RuleSet, other.Perm registry →
      ∀ version : Version,
        (∀ rules, select other version = .ok rules ↔
          (registry.filter fun rules => rules.supports version) = [rules]) ∧
        (∀ fault, select other version = .error fault ↔
          (∀ rules ∈ registry, ¬ rules.supports version = true) ∧
            ((∀ n ∈ unsupportedNumbers registry version, isWritable n = true) ∧
                fault = .unsupportedVersion version (supportedRanges other) ∨
              (∃ n ∈ unsupportedNumbers registry version, isWritable n = false) ∧
                fault = .tooManyDigitsToWrite))) := by
  refine ⟨?_, ?_⟩
  · rw [checkRegistry_eq_ok]
    exact ⟨fun h => ⟨h.wellFormed, h.apart⟩, fun h => ⟨h.1, h.2⟩⟩
  · intro hchecked other hperm version
    have hsound := checkRegistry_eq_ok.mp hchecked
    obtain ⟨hfound, hnone⟩ := find?_decides (hsound.apart.imp fun hab => hab version) hperm
    refine ⟨fun rules => select_eq_ok.trans (hfound rules), fun fault => ?_⟩
    rw [select_eq_error, hnone, unsupportedFault_eq_iff hperm]

/-- The registered rule sets pass, and in the other order the first one is still selected for
release 17.5, though it stands last, and none for release 22.0. -/
theorem registered_decided :
    checkRegistry registered = .ok () ∧ select [sdk20, sdk16] ⟨17, 5⟩ = .ok sdk16 ∧
      select [sdk20, sdk16] ⟨22, 0⟩ =
        .error (.unsupportedVersion ⟨22, 0⟩ ["20.0-21.99", "16.0-19.99"]) := by
  have hchecked : checkRegistry registered = .ok () := by decide +kernel
  have hperm : [sdk20, sdk16].Perm registered := .swap sdk16 sdk20 []
  have hdecides := (checkRegistry_decides registered).2 hchecked [sdk20, sdk16] hperm
  refine ⟨hchecked, ((hdecides ⟨17, 5⟩).1 sdk16).mpr (by decide), ?_⟩
  exact ((hdecides ⟨22, 0⟩).2 _).mpr ⟨by decide, .inl ⟨by decide +kernel, rfl⟩⟩

/-- The least release with too many digits in its major part lies in no registered range, and it
is not refused as unsupported. -/
theorem registered_overlong :
    checkRegistry registered = .ok () ∧
      (∀ rules ∈ registered, ¬ rules.supports ⟨(10 ^ digitLimit : Nat), 0⟩ = true) ∧
      select registered ⟨(10 ^ digitLimit : Nat), 0⟩ = .error .tooManyDigitsToWrite := by
  have hbeyond : 10 ^ 2 ≤ 10 ^ digitLimit := Nat.pow_le_pow_right (by decide) (by decide)
  have hnone : ∀ rules ∈ registered, ¬ rules.supports ⟨(10 ^ digitLimit : Nat), 0⟩ = true := by
    intro rules hmem
    have hmajor : ∀ rules ∈ registered, rules.maxVersion.major < (10 ^ 2 : Nat) := by decide
    exact not_supports_of_lt (Int.lt_of_lt_of_le (hmajor rules hmem) (Int.ofNat_le.mpr hbeyond))
  have hlong : isWritable (10 ^ digitLimit : Nat) = false :=
    isWritable_eq_false.mpr (Nat.le_of_eq (Int.natAbs_natCast _).symm)
  exact ⟨by decide +kernel, hnone, select_of_overlong hnone ⟨_, List.mem_cons_self, hlong⟩⟩

end RuleSet

end FitProfile
