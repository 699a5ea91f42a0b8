import DocQuery.Value

/-!
# Default options of writes

Every write carries options.  The defaults name a safety key and say how many
documents are concerned; the options of the caller go over them.
-/

namespace DocQuery

/-- The default options of writes. -/
structure WriteDefaults where
  /-- The option that asks for an acknowledged write. -/
  safetyKey : String
  deriving DecidableEq, Repr, Inhabited

namespace WriteDefaults

/-- The safety key of a builder that was not configured. -/
def usualSafetyKey : String := "safe"

/-- The options of every write. -/
def base (defaults : WriteDefaults) : Document :=
  [(defaults.safetyKey, .boolean true)]

/-- The options of an insertion. -/
def insertion (defaults : WriteDefaults) : Document := defaults.base

/-- The options of an update of the first match or of all matches. -/
def update (defaults : WriteDefaults) (multiple : Bool) : Document :=
  defaults.base.insert "multiple" (.boolean multiple)

/-- The options of a removal of the first match or of all matches. -/
def removal (defaults : WriteDefaults) (justOne : Bool) : Document :=
  defaults.base.insert "justOne" (.boolean justOne)

@[simp]
theorem update_get?_multiple (defaults : WriteDefaults) (multiple : Bool) :
    (defaults.update multiple).get? "multiple" =
      some (.boolean multiple) := by
  simp [update]

@[simp]
theorem removal_get?_justOne (defaults : WriteDefaults) (justOne : Bool) :
    (defaults.removal justOne).get? "justOne" = some (.boolean justOne) := by
  simp [removal]

end WriteDefaults

end DocQuery
