import Mathlib.Data.List.Infix

/-! Document trees, and the XPath 1.0 location paths that name elements by tag, position,
attributes and text. An element is kept with its ancestors and with the siblings before
it, so that a path can be followed upwards from it. -/
namespace Lib

inductive Node where
  | text (content : String)
  | element (tag : String) (attributes : List (String × String)) (children : List Node)

namespace XPath

/-- An element among its siblings. -/
structure Placed where
  tag : String
  attributes : List (String × String)
  children : List Node
  before : List Node

/-- An element of a document, its ancestors innermost first. -/
structure Element where
  self : Placed
  ancestors : List Placed

mutual

/-- The elements of a node in document order. -/
def nodeElements (ancestors : List Placed) (before : List Node) : Node → List Element
  | .text _ => []
  | .element tag attributes children =>
    ⟨⟨tag, attributes, children, before⟩, ancestors⟩ ::
      elements (⟨tag, attributes, children, before⟩ :: ancestors) [] children

def elements (ancestors : List Placed) (before : List Node) : List Node → List Element
  | [] => []
  | n :: ns => nodeElements ancestors before n ++ elements ancestors (before ++ [n]) ns

end

mutual

/-- The string-value of a node: the text below it. -/
def nodeString : Node → List Char
  | .text content => content.toList
  | .element _ _ children => stringValue children

def stringValue : List Node → List Char
  | [] => []
  | n :: ns => nodeString n ++ stringValue ns

end

/-- The whitespace of XML. -/
def isSpace (c : Char) : Bool := c = ' ' ∨ c = '\t' ∨ c = '\n' ∨ c = '\r'

/-- `normalize-space`. -/
def normalizeSpace (s : List Char) : List Char :=
  [' '].intercalate ((s.splitOnP isSpace).filter (· ≠ []))

/-! ## Expressions -/

/-- A string that a predicate computes: `@name`, `.`, or one of them normalized. -/
inductive StringExpr where
  | attribute (name : String)
  | string
  | normalizeSpace (e : StringExpr)
  deriving DecidableEq

def StringExpr.eval (x : Placed) : StringExpr → List Char
  | .attribute name => ((x.attributes.lookup name).getD "").toList
  | .string => stringValue x.children
  | .normalizeSpace e => XPath.normalizeSpace (e.eval x)

inductive Predicate where
  /-- `@name` -/
  | has (name : String)
  /-- `@name='value'`, which an absent attribute fails -/
  | attributeIs (name value : String)
  /-- `e='value'` for a string `e` -/
  | equals (e : StringExpr) (value : String)
  | contains (e : StringExpr) (value : String)
  | and (p q : Predicate)
  | or (p q : Predicate)
  deriving DecidableEq

def Predicate.eval (x : Placed) : Predicate → Bool
  | .has name => (x.attributes.lookup name).isSome
  | .attributeIs name value => x.attributes.lookup name = some value
  | .equals e value => e.eval x = value.toList
  | .contains e value => value.toList <:+: e.eval x
  | .and p q => p.eval x && q.eval x
  | .or p q => p.eval x || q.eval x

/-! ## Location paths -/

/-- `/` or `//` before a step. -/
inductive Axis where
  | child
  | descendant
  deriving DecidableEq

/-- A step: a tag or `*`, then a position among the siblings of that tag, or a predicate. -/
structure Step where
  axis : Axis
  tag : Option String := none
  position : Option Nat := none
  predicate : Option Predicate := none
  deriving DecidableEq

def Step.passes (s : Step) : Node → Bool
  | .text _ => false
  | .element tag _ _ => s.tag.all (· = tag)

def Step.accepts (s : Step) (x : Placed) : Bool :=
  s.tag.all (· = x.tag) && s.position.all (· = x.before.countP s.passes + 1) &&
    s.predicate.all (·.eval x)

/-- The steps, last one first, lead to the innermost of these elements. No element is the
document, where a path starts. -/
def selects : List Step → List Placed → Bool
  | [], chain => chain.isEmpty
  | _ :: _, [] => false
  | s :: steps, x :: chain =>
    s.accepts x && match s.axis with
      | .child => selects steps chain
      | .descendant => chain.tails.any (selects steps)

/-- What a driver is asked for: an id, or the union of some paths. -/
inductive Locator where
  | id (value : String)
  | xpath (paths : List (List Step))
  deriving DecidableEq

/-- The locator matches this element. -/
def Locator.selects : Locator → Element → Bool
  | .id value, el => el.self.attributes.lookup "id" = some value
  | .xpath paths, el =>
    paths.any fun path => XPath.selects path.reverse (el.self :: el.ancestors)

/-- `find_element`: the first match in document order. -/
def findElement (document : List Node) (l : Locator) : Option Element :=
  (elements [] [] document).find? l.selects

/-- `//*[p]`. -/
def anywhere (p : Predicate) : Locator := .xpath [[{ axis := .descendant, predicate := some p }]]

/-- `//*[p]` looks at nothing but the element. -/
theorem anywhere_selects (p : Predicate) (el : Element) :
    (anywhere p).selects el = p.eval el.self := by
  simp [anywhere, Locator.selects, selects, Step.accepts]

end XPath

end Lib
