import ApiStencil.Accumulator.Scope

/-!
What a run reports while it works: events with a level, a message and named fields.
-/

namespace ApiStencil

/-- Something worth reporting. -/
inductive Event where
  /-- A response status code has no wrapper. -/
  | unmappedStatus (code : String)
  /-- A key is new in its accumulator. -/
  | flagAdded (kind : FlagKind) (key : String)
  /-- An environment got its filters; the table is given as it lists itself. -/
  | filtersInstalled (filters : String) (autoescape : Bool)
  /-- The templates of a directory were read. -/
  | templatesLoaded (glob : String) (count : Nat)
  /-- A template was rendered; the counts are those of the scope. -/
  | rendered (template : String) (imports typeAliases : Nat)
deriving DecidableEq, Repr

namespace Event

/-- How important an event is. -/
def level : Event → String
  | .unmappedStatus _ => "WARN"
  | .flagAdded _ _ => "TRACE"
  | .filtersInstalled _ _ | .templatesLoaded _ _ | .rendered _ _ _ => "DEBUG"

/-- The message of an event. -/
def message : Event → String
  | .unmappedStatus _ => "Response status code has no wrapper mapping, emitting NotImplemented"
  | .flagAdded _ _ => "Accumulated flag"
  | .filtersInstalled _ _ => "Installing template filters"
  | .templatesLoaded _ _ => "Loaded templates"
  | .rendered _ _ _ => "Rendered template"

/-- The fields of an event as text. -/
def fields : Event → List (String × String)
  | .unmappedStatus code => [("status_code", code)]
  | .flagAdded kind key => [("kind", kind.text), ("key", key)]
  | .filtersInstalled filters autoescape =>
    [("filters", filters), ("autoescape", toString autoescape)]
  | .templatesLoaded glob count => [("glob", glob), ("templates", toString count)]
  | .rendered template imports typeAliases =>
    [("template", template), ("imports", toString imports),
      ("type_aliases", toString typeAliases)]

end Event

end ApiStencil
