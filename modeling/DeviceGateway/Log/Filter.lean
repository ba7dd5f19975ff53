import DeviceGateway.Log.Directive

/-
  The filter that lets some log messages through: directives between commas, of which the one
  that says most closely what it is about counts.
-/

namespace DeviceGateway.Log

/-- A filter. -/
abbrev Filter := List Directive

/-- The filter of some directives; without any, errors come through. -/
def Filter.ofDirectives (ds : List Directive) : Filter :=
  if ds.isEmpty then [{ limit := .error }] else ds

/-- The texts of the directives in a text. -/
def directiveTexts (text : String) : List String :=
  ((Text.splitOn ',' text.toList).filter (!·.isEmpty)).map String.ofList

/-- The filter of a text in which every directive is right. -/
def Filter.parse? (text : String) : Option Filter :=
  match (directiveTexts text).mapM Directive.parse with
  | .ok ds => some (Filter.ofDirectives ds)
  | .error _ => none

/-- The filter of a text; directives that are wrong are left out, with a line about each. -/
def Filter.lenient (text : String) : Filter × List String :=
  let parsed := (directiveTexts text).map fun t => (t, Directive.parse t)
  (Filter.ofDirectives (parsed.filterMap fun (_, d) => d.toOption),
    parsed.filterMap fun (t, d) =>
      match d with
      | .ok _ => none
      | .error f => some ("ignoring `" ++ t ++ "`: " ++ f.message))

/-- Does one directive say less closely than another what it is about? -/
def Directive.isLooser (a b : Directive) : Bool :=
  a.closeness.1 < b.closeness.1 ||
    (a.closeness.1 == b.closeness.1 && a.closeness.2 < b.closeness.2)

/-- Does the filter let a message of a target through? Of two directives that are equally close
the later one counts. -/
def Filter.admits (f : Filter) (target : String) (m : Message) : Bool :=
  let fitting := f.filter fun d => d.isStatic && d.fits target
  let closest := fitting.foldl (fun (best : Option Directive) d =>
    if best.any d.isLooser then best else some d) none
  closest.any (m.severity.rank ≤ ·.limit.rank)

end DeviceGateway.Log
