import CamAdmiral.ImportResync

/-!
What `_release_reader` records before it writes: the aliases that the entry reads, with the
sources of the operator, and the entry as it will be paused.
-/

namespace CamAdmiral

variable [RelayUrls] {start raw : RawConfig} {targetId : String} {tables : FrigateTables}
  {row : ImportRow}

/-- The row has the entry and the sources of Frigate, and no import of the entry has begun. -/
structure ImportRow.Unbegun (start : RawConfig) (row : ImportRow) : Prop where
  fits : row.Fits start
  original : start.cameras.lookup row.key = some row.original
  originals : ∀ held ∈ row.originalStreams, held.2 = start.streams.lookup held.1
  plain : row.handoff = false
  paused : row.pausedCamera = none ∧ row.releasedStreams = [] ∧ row.pausedStreams = []

end CamAdmiral
