namespace EntityBase

/-!
# Configuration of an engine

The settings say how often a transaction that met a conflict is run again,
and whether conflicts are worth a warning.  Warnings are the host's business;
the setting is only kept for it.
-/

structure Config where
  /-- How many times a body is run again after a conflict. -/
  maxCommitRetries : UInt32 := 8
  /-- Whether the host should be warned of conflicts. -/
  logConflicts : Bool := true
deriving DecidableEq, Repr

namespace Config

/-- The first conflict is reported at once. -/
def strict : Config :=
  { maxCommitRetries := 0 }

/-- Conflicts are frequent, so they are retried often and not logged. -/
def contended : Config :=
  { maxCommitRetries := 64, logConflicts := false }

end Config

end EntityBase
