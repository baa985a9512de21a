import Scout.Playbook

/-!
# Search filters

A filter that is not set, or set to nothing, lets every playbook pass.
-/

namespace Scout

structure Filters where
  tags : Option (List String)
  author : Option String
  targetSite : Option String
  complexity : Option Complexity
  requiresAuth : Option Bool
  minSuccessRate : Option Float

def Filters.none : Filters :=
  ⟨.none, .none, .none, .none, .none, .none⟩

end Scout
