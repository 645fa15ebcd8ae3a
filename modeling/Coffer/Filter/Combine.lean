/-
**Filters put together.**

Filters are put together without nesting filters of the same kind, and a filter that is missing adds
nothing.

Main definitions: `Coffer.Filter.both`, `Coffer.Filter.anyOf`.
-/

import Coffer.Filter.Reader

set_option autoImplicit false

namespace Coffer.Filter

/-- The filter that asks for all of the parts, if there are any. -/
def joinAll? (parts : List Filter) : Option Filter :=
  if parts.isEmpty then none else some (joinAll parts)

/-- The filter that asks for any of the parts, if there are any. -/
def joinAny? (parts : List Filter) : Option Filter :=
  if parts.isEmpty then none else some (joinAny parts)

/-- **Both of two filters,** either of which may be missing. -/
def both (f g : Option Filter) : Option Filter :=
  joinAll? (f.toList.flatMap spliceAll ++ g.toList.flatMap spliceAll)

/-- **Any of the filters of a list,** of which some may be missing. -/
def anyOf (fs : List (Option Filter)) : Option Filter :=
  joinAny? (fs.flatMap fun f => f.toList.flatMap spliceAny)

end Coffer.Filter
