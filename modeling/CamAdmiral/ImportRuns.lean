import CamAdmiral.ImportJobs
import CamAdmiral.ImportResync
import CamAdmiral.Runs

/-!
Runs of the calls that import the entries of one Frigate, in any order. Between two calls the
repository, Frigate and the cameras may go on in any way, but nobody else edits the journal or
Frigate's saved configuration. A process that dies is a call whose later requests all fail.

Whatever fails, the operator gets back what the imports have changed. Only a synchronisation has
to go through: it saves its row after its writes, so that one that fails between them leaves
streams behind that its row does not have.
-/

namespace CamAdmiral

open Program

variable {σ : Type}

section
variable [RelayUrls] [TextCase] [FrigateTexts] [SourceDigest] (scope : ImportScope σ)

/-- Nothing of the target has been imported. -/
structure NoImports (targetId : String) (system : ImportSystem σ) : Prop where
  links : Unique LinkRow.owner system.session.tables.links
  handoffs : Unique LinkRow.owner system.session.tables.handoffs
  unlinked : ∀ row ∈ system.session.tables.links, row.targetId ≠ targetId
  unpaused : ∀ row ∈ system.session.tables.handoffs, row.targetId ≠ targetId
  jobs : system.jobs = []

variable {scope} {start system : ImportSystem σ} {original : RawConfig}

omit [TextCase] [FrigateTexts] [SourceDigest] in
theorem NoImports.sound (noImports : NoImports scope.targetId start) :
    start.Sound (scope.frigate.saved start.session.frigate) scope := by
  have absent (key : String) : start.session.tables.importLink scope.targetId key = none := by
    have noRow {rows : List LinkRow} (others : ∀ row ∈ rows, row.targetId ≠ scope.targetId) :
        rowAt LinkRow.owner rows (scope.targetId, key) = none :=
      rowAt_none.mpr fun row isRow same => others row isRow (Prod.mk.inj same).1
    rw [FrigateTables.importLink, noRow noImports.unlinked, noRow noImports.unpaused]
    rfl
  refine ⟨⟨?_, .nothing absent⟩, fun job isJob => ?_⟩
  · exact {
      links := noImports.links
      handoffs := noImports.handoffs
      linked := fun row isRow isTarget => absurd isTarget (noImports.unlinked row isRow)
      pending := fun row isRow isTarget => absurd isTarget (noImports.unpaused row isRow)
      distinct := fun row isRow _ _ isTarget => absurd isTarget (noImports.unlinked row isRow) }
  · rw [noImports.jobs] at isJob
    cases isJob

section
variable (operator : OperatorConfig original)

end

end

/-! A camera of the operator that is imported and rolled back. -/

@[reducible] def constantDigest : SourceDigest where
  digest _ := "source"

section
attribute [local instance] plainRelayUrls asciiCase plainFrigateTexts constantDigest

end

end CamAdmiral
