import FitProfile.Main
import FitProfile.Model.Equality
import FitProfile.Model.Summary
import FitProfile.Proofs.Linking.Consistent
import FitProfile.Proofs.Linking.Types
import FitProfile.Proofs.Linking.Slices
import FitProfile.Proofs.Linking.References
import FitProfile.Proofs.Linking.Fields
import FitProfile.Proofs.Linking.Messages
import FitProfile.Proofs.Linking.Acceptance
import FitProfile.Proofs.Drafting
import FitProfile.Proofs.Linking.Integrity
import FitProfile.Proofs.Linking.Reordering
import FitProfile.Proofs.Linking.ReferenceValues
import FitProfile.Proofs.Linking.Removal
import FitProfile.Proofs.Linking.Values
import FitProfile.Proofs.Linking.TypePlaces
import FitProfile.Proofs.Linking.BitPositions
import FitProfile.Proofs.Linking.Tiling
import FitProfile.Proofs.Linking.Grouping
import FitProfile.Proofs.Linking.Expansion
import FitProfile.Proofs.Linking.Unmatched
import FitProfile.Proofs.Linking.NameLookups
import FitProfile.Proofs.Linking.IntegerReadings
import FitProfile.Proofs.RuleSet.Selection
import FitProfile.Proofs.RuleSet.Requests
import FitProfile.Proofs.Calendar.IsoText
import FitProfile.Proofs.Source.Lines
import FitProfile.Proofs.Source.Rendering
import FitProfile.Proofs.Source.Forms
import FitProfile.Proofs.Source.Readability
import FitProfile.Proofs.Source.Outline
import FitProfile.Proofs.Source.Lookups
import FitProfile.Proofs.Source.Refusal
import FitProfile.Proofs.Source.Removal
import FitProfile.Proofs.Source.Dictionaries
import FitProfile.Proofs.Source.Spelling
import FitProfile.Proofs.Source.Entries
import FitProfile.Proofs.Source.TypePlaces
import FitProfile.Proofs.Source.Printing
import FitProfile.Proofs.Source.References
import FitProfile.Proofs.Source.Splitting
import FitProfile.Proofs.Source.Scalings
import FitProfile.Proofs.Source.Release
import FitProfile.Proofs.Source.StringerInput
import FitProfile.Proofs.Reading.Correspondence
import FitProfile.Proofs.Reading.Layout
import FitProfile.Proofs.Reading.Relayout
import FitProfile.Proofs.Reading.Refusal
import FitProfile.Proofs.Reading.Rearrangement
import FitProfile.Proofs.Reading.Removal
import FitProfile.Proofs.Reading.Places
import FitProfile.Proofs.Reading.TypeRearrangement
import FitProfile.Proofs.Reading.FieldRows
import FitProfile.Proofs.Reading.TypeGrammar
import FitProfile.Proofs.Reading.TypeRows
import FitProfile.Proofs.Reading.Numbers
import FitProfile.Proofs.Reading.Components
import FitProfile.Proofs.Reading.DeclaredRelease
import FitProfile.Proofs.Reading.HeaderLabels
import FitProfile.Proofs.Generating
import FitProfile.Proofs.RowOrder
import FitProfile.Proofs.TypeOrder
import FitProfile.Proofs.Independence
import FitProfile.Proofs.FaultPlaces
import FitProfile.Proofs.Scalings
import FitProfile.Proofs.Fingerprint.Framing
import FitProfile.Proofs.CommandLine.Overwriting
import FitProfile.Proofs.CommandLine.Repeating
