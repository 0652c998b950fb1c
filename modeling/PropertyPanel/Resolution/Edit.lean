/-
This file edits a business object in the way that a draft asks for.
-/

import PropertyPanel.Draft
import PropertyPanel.Resolution.Prune
import PropertyPanel.Resolution.Write

namespace PropertyPanel

namespace LocationTable

/-- The value of a draft is written, and the nodes that a cleared value leaves vacant are pruned. -/
def edit (table : LocationTable) (factory : NodeFactory) (draft : Draft)
    (node : BusinessObject) : BusinessObject × Except ApplyError Unit :=
  match table.write factory node draft.field draft.location draft.value with
  | (written, .ok ()) =>
      if draft.value.isNone then ((table.prune written draft.field draft.location).1, .ok ())
      else (written, .ok ())
  | (written, .error error) => (written, .error error)

end LocationTable

end PropertyPanel
