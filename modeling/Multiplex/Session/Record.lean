import Multiplex.Session.World

/-!
# Long texts

The long texts of frontends, managers and filters.
-/

namespace Multiplex.Session

open Multiplex.Text

/-- A frontend as long text. -/
def Frontend.recordText (f : Frontend) : String :=
  Text.recordText "FrontendController" [("info", f.info.recordText), ("open", boolText f.isOpen)]

/-- A manager as long text. -/
def Manager.recordText (m : Manager) : String :=
  Text.recordText "DemuxFilterManager" [("adapter", toString m.adapter.toNat),
    ("demux", toString m.demux.toNat), ("filters", toString m.filters.size)]

/-- A filter as long text. -/
def Filter.recordText (f : Filter) : String :=
  Text.recordText "Filter" [("id", f.id.recordText), ("kind", f.kind.text)]

end Multiplex.Session
