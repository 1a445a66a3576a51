import FitProfile.Generator
import FitProfile.Proofs.Outcome
/-!
# FitProfile.Proofs.Generating -- the steps from a workbook to a profile

A profile is generated just when each step to it succeeds: the file is opened, a draft is read,
linked and rendered.
-/

namespace FitProfile.Generator

variable {rules : RuleSet} {version : Version} {moment : Option Moment} {book : Workbook}
variable {profile : Profile}

/-- A profile is rendered when a draft is read, linked and rendered. -/
theorem render_eq_ok :
    (render rules version moment book).outcome = .ok profile ↔
      ∃ draft model, (Draft.ofWorkbook rules version book).outcome = .ok draft ∧
        Model.ofDraft rules version draft = .ok model ∧ model.render moment = .ok profile := by
  constructor
  · intro h
    obtain ⟨model, hlink, h⟩ := Reported.outcome_bind_eq_ok.mp h
    obtain ⟨rendered, hrender, h⟩ := Reported.outcome_bind_eq_ok.mp h
    obtain ⟨_, -, hpure⟩ := Reported.outcome_bind_eq_ok.mp h
    cases hpure
    obtain ⟨draft, hdraft, h⟩ := Reported.outcome_bind_eq_ok.mp hlink
    obtain ⟨linked, hlinked, h⟩ := Reported.outcome_bind_eq_ok.mp h
    obtain ⟨_, -, hpure⟩ := Reported.outcome_bind_eq_ok.mp h
    cases hpure
    exact ⟨draft, model, hdraft, hlinked, hrender⟩
  · rintro ⟨draft, model, hdraft, hmodel, hrender⟩
    have hlink : (link rules version book).outcome = .ok model :=
      Reported.outcome_bind_eq_ok.mpr ⟨draft, hdraft,
        Reported.outcome_bind_eq_ok.mpr ⟨model, hmodel, rfl⟩⟩
    exact Reported.outcome_bind_eq_ok.mpr ⟨model, hlink,
      Reported.outcome_bind_eq_ok.mpr ⟨profile, hrender, rfl⟩⟩

/-- A generator renders the workbook that its file holds. -/
theorem generate_eq_ok {g : Generator} : (g.generate moment).outcome = .ok profile ↔
    ∃ book, g.payload.toWorkbook = .ok book ∧
      (render g.rules g.version moment book).outcome = .ok profile := by
  constructor
  · intro h
    obtain ⟨_, -, h⟩ := Reported.outcome_bind_eq_ok.mp h
    obtain ⟨book, hbook, h⟩ := Reported.outcome_bind_eq_ok.mp h
    obtain ⟨_, -, hrender⟩ := Reported.outcome_bind_eq_ok.mp h
    exact ⟨book, hbook, hrender⟩
  · rintro ⟨book, hbook, hrender⟩
    exact Reported.outcome_bind_eq_ok.mpr ⟨(), rfl, Reported.outcome_bind_eq_ok.mpr
      ⟨book, hbook, Reported.outcome_bind_eq_ok.mpr ⟨(), rfl, hrender⟩⟩⟩

end FitProfile.Generator
