import JBCenter.Rest.Core

/-! The validation of the journey graph: decisions and resources, and the views that place them. -/
namespace JBCenter.Journeys
open Rest

inductive EdgeKind where
  | back
  | cross

/-- The `to` of an edge is its `target`; the kind `return` is `back`. -/
structure JourneyEdge where
  target : String
  kind : Option EdgeKind

inductive NodeKind where
  | question
  | resource

structure JourneyLink where
  title : String
  url : String
  deriving DecidableEq

inductive NodeContent where
  | rpc | ipfs | pinning | mcp | repositories | webclients | wip

structure JourneyNode where
  id : String
  title : String
  prompt : Option String
  homeView : Option String
  kind : NodeKind
  links : Option (List JourneyLink)
  content : Option NodeContent
  edges : List JourneyEdge

structure JourneyCell where
  node : String
  column : Int
  row : Int

structure JourneyView where
  id : String
  entry : String
  layout : List JourneyCell

/-- What `trim` removes from the ends of a text. -/
def isBlankSpace (c : Char) : Bool :=
  inRange '\t' '\r' c || c ∈ [' ', '\u00a0', '\u1680', '\u2028', '\u2029', '\u202f', '\u205f', '\u3000', '\ufeff'] ||
    inRange '\u2000' '\u200a' c

/-- Nothing is left of the text when it is trimmed. -/
def isBlank (text : String) : Bool := text.toList.all isBlankSpace

/-- Matches `/^[a-z][a-z0-9-]*$/`. -/
def isSlug (text : String) : Bool :=
  match text.toList with
  | [] => false
  | first :: rest => inRange 'a' 'z' first && rest.all (fun c => inRange 'a' 'z' c || isDigit c || c = '-')

/-- How the validation fails: with an error of its own, or with one of the runtime. -/
inductive Thrown where
  | error (message : String)
  | typeError
  | exhausted
  deriving DecidableEq

/-- The scheme of a URL, where it is one. -/
abbrev Protocol := String → Option String

def assertNode (protocol : Protocol) (ids : List String) (node : JourneyNode) : Except Thrown (List String) := do
  refuse (!isSlug node.id || ids.contains node.id) (.error ("Invalid or duplicate journey node: " ++ node.id))
  refuse (isBlank node.title) (.error ("Untitled journey node: " ++ node.id))
  refuse (node.prompt.any isBlank) (.error ("Empty journey prompt: " ++ node.id))
  (node.links.getD []).forM fun link => do
    refuse (isBlank link.title) (.error ("Invalid resource link: " ++ node.id))
    match protocol link.url with
    | none => .error .typeError
    | some scheme => refuse (scheme != "https:") (.error ("Invalid resource link: " ++ node.id))
  return ids ++ [node.id]

def assertEdges (ids : List String) (node : JourneyNode) : Except Thrown Unit :=
  node.edges.forM fun edge =>
    refuse (!ids.contains edge.target) (.error ("Invalid journey edge: " ++ node.id ++ " -> " ++ edge.target))

def nodeById (nodes : List JourneyNode) (id : String) : Option JourneyNode := (nodes.filter (fun node => node.id = id)).getLast?

structure Sets where
  resolved : List String
  visiting : List String
  deriving DecidableEq

def JourneyNode.hasDestination (node : JourneyNode) : Bool := (node.links.getD []) != [] || node.content.isSome

/-- The calls nest no deeper than there are questions, which the fuel always covers. -/
def resolveQuestion (nodes : List JourneyNode) : Nat → List String → String → Sets → Except Thrown Sets
  | 0, _, _, _ => .error .exhausted
  | fuel + 1, path, id, s =>
    if s.resolved.contains id then .ok s
    else
      match nodeById nodes id with
      | none => .error .typeError
      | some node =>
        match node.kind with
        | .resource => do
          refuse (!node.hasDestination) (.error ("Journey resource has no destination: " ++ id))
          return { s with resolved := s.resolved ++ [id] }
        | .question => do
          refuse (s.visiting.contains id) (.error ("Unresolving question cycle: " ++ String.intercalate " -> " (path ++ [id])))
          refuse node.edges.isEmpty (.error ("Journey question has no destination: " ++ id))
          let after ← node.edges.foldlM (fun s edge => resolveQuestion nodes fuel (path ++ [id]) edge.target s)
            { s with visiting := s.visiting ++ [id] }
          return ⟨after.resolved ++ [id], after.visiting.filter (· ≠ id)⟩

def resolvePass (nodes : List JourneyNode) : Except Thrown Sets :=
  nodes.foldlM (fun s node => resolveQuestion nodes (nodes.length + 1) [] node.id s) ⟨[], []⟩

structure ViewSets where
  viewNodes : List String
  positions : List (Int × Int)
  placed : List String

def assertCell (ids : List String) (view : JourneyView) (s : ViewSets) (cell : JourneyCell) : Except Thrown ViewSets := do
  refuse (!ids.contains cell.node || s.viewNodes.contains cell.node || s.positions.contains (cell.column, cell.row) ||
      !([1, 2, 3] : List Int).contains cell.column || cell.row < 1)
    (.error ("Invalid journey placement: " ++ view.id ++ "/" ++ cell.node))
  return ⟨s.viewNodes ++ [cell.node], s.positions ++ [(cell.column, cell.row)], s.placed ++ [cell.node]⟩

/-- The identifiers of the views so far, and the nodes they place. -/
def assertView (ids : List String) (s : List String × List String) (view : JourneyView) :
    Except Thrown (List String × List String) := do
  refuse (!isSlug view.id || s.1.contains view.id) (.error ("Invalid or duplicate journey view: " ++ view.id))
  let after ← view.layout.foldlM (assertCell ids view) ⟨[], [], s.2⟩
  refuse (!after.viewNodes.contains view.entry) (.error ("Missing journey entry: " ++ view.id))
  return (s.1 ++ [view.id], after.placed)

def assertHome (views : List JourneyView) (node : JourneyNode) : Except Thrown Unit := do
  let containing := views.filter (fun view => view.layout.any (fun cell => cell.node = node.id))
  refuse (1 < containing.length && node.homeView.isNone) (.error ("Shared journey node needs a home view: " ++ node.id))
  match node.homeView with
  | none => return
  | some home =>
    refuse (!containing.any (fun view => view.id = home))
      (.error ("Invalid journey home view: " ++ node.id ++ "/" ++ home))

def validateJourneyGraph (protocol : Protocol) (nodes : List JourneyNode) (views : List JourneyView) : Except Thrown Unit := do
  let ids ← nodes.foldlM (assertNode protocol) []
  nodes.forM (assertEdges ids)
  discard (resolvePass nodes)
  let (_, placed) ← views.foldlM (assertView ids) ([], [])
  ids.forM fun id => refuse (!placed.contains id) (.error ("Journey node has no view: " ++ id))
  nodes.forM (assertHome views)

end JBCenter.Journeys
