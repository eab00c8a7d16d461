import PeerTelemetry.Log.Directive

/-!
# Which notices are logged

A filter is a list of directives, separated by commas. Of those that are for a notice the one
that says most decides, and of two that say as much the later. What no directive is for is not
logged, so a filter without directives logs nothing.

A text with a part that is no directive is no filter. It stands for the standard filter, as does
a missing text, and the standard filter logs what is informative.
-/

namespace PeerTelemetry

/-- **A filter** of notices. -/
structure LogFilter where
  directives : List Directive
  deriving DecidableEq, Repr

namespace LogFilter

/-- **Reads a filter.** -/
def parse? (text : List Char) : Option LogFilter :=
  (((text.splitOn ',').filter (· ≠ [])).mapM Directive.read?).map (⟨·⟩)

/-- The filter without a setting. -/
def standard : LogFilter := ⟨[{ rank := Severity.info.rank }]⟩

/-- **The filter of a setting**, which may be missing or no filter. -/
def ofSetting (setting : Option String) : LogFilter :=
  (setting.bind fun text => parse? text.toList).getD standard

/-- The directive that decides on the notices of a source. -/
def decisive? (filter : LogFilter) (source : List Char) : Option Directive :=
  (filter.directives.filter (·.isFor source)).foldl
    (fun best d =>
      match best with
      | none => some d
      | some b => if b.weight ≤ d.weight then some d else some b)
    none

/-- The rank up to which a source is logged. -/
def rankFor (filter : LogFilter) (source : List Char) : Nat :=
  ((filter.decisive? source).map Directive.rank).getD 0

/-- **Whether a notice is logged.** -/
def admits (filter : LogFilter) (n : Notice) : Bool :=
  n.severity.rank ≤ filter.rankFor n.source.toList

end LogFilter

end PeerTelemetry
