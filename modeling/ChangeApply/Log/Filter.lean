import ChangeApply.Log.Directive

set_option autoImplicit false

namespace ChangeApply.Log

structure Filter where
  onEvents : List Directive
  onSpans : List Directive
deriving DecidableEq

namespace Filter

-- The greatest directive stands first. One that asks the same as another takes its place.
def place (directive : Directive) : List Directive → List Directive
  | [] => [directive]
  | other :: rest =>
    match directive.order other with
    | .gt => directive :: other :: rest
    | .eq => directive :: rest
    | .lt => other :: place directive rest

def placeAll (directives : List Directive) : List Directive :=
  directives.foldl (fun placed directive => place directive placed) []

def ofDirectives (directives : List Directive) : Filter :=
  let (spanned, plain) := directives.partition Directive.isSpanned
  ⟨placeAll (plain ++ spanned.filter Directive.isForEvents), placeAll spanned⟩

def parts : List Char → List (List Char)
  | [] => [[]]
  | c :: rest =>
    if c = ',' then [] :: parts rest
    else
      match parts rest with
      | [] => [[c]]
      | part :: others => (c :: part) :: others

def parse (text : String) : Except FilterError Filter := do
  let directives ← ((parts text.toList).filter fun part => !part.isEmpty).mapM Directive.parse
  return ofDirectives directives

def text (filter : Filter) : String :=
  String.intercalate "," ((filter.onEvents ++ filter.onSpans).map Directive.text)

def admits (filter : Filter) (event : Event) : Bool :=
  match filter.onEvents.find? fun directive => directive.matchesEvent event with
  | some directive => directive.verbosity.admits event.level
  | none => false

def quietTargets : List String := ["sqlx=warn", "hyper=warn", "rustls=warn"]

def build (level : String) (override : Option String) : Except (String × FilterError) Filter :=
  match override.map parse with
  | some (.ok filter) => .ok filter
  | _ =>
    let text := String.intercalate "," (level :: quietTargets)
    match parse text with
    | .ok filter => .ok filter
    | .error fault => .error (text, fault)

end Filter

end ChangeApply.Log
