import HighperfServer.Library.Markup
import HighperfServer.Library.Validation
import Mathlib.Data.List.Forall2

namespace HighperfServer.Library

/-- A variable with the fields that are read from it. -/
structure VariablePath where
  head : List Char
  fields : List (List Char)
  deriving DecidableEq, Repr

namespace VariablePath

def named (name : String) : VariablePath := ⟨name.toList, []⟩

def member (name field : String) : VariablePath := ⟨name.toList, [field.toList]⟩

end VariablePath

/-- A template prints texts and variables, chooses, repeats, and names blocks. -/
inductive Template where
  | empty
  | text (text : List Char)
  | seq (first second : Template)
  | output (path : VariablePath) (default : Option (List Char))
  | choose (path : VariablePath) (yes no : Template)
  | each (name : List Char) (path : VariablePath) (body : Template)
  | block (name : List Char) (body : Template)

/-- The variables of a template and their values. -/
abbrev Scope (V : Type) := List Char → Option V

/-- What a template asks of a value: whether it counts as true, its fields, its elements, and how it is
printed; only strings are escaped. -/
structure Values (V : Type) where
  truthy : V → Bool
  field : V → List Char → Option V
  elements : V → Option (List V)
  string : V → Option (List Char)
  shown : V → List Char

/-- A rendering fails at a variable that is undefined or not a list. -/
inductive RenderError where
  | undefined (path : VariablePath)
  | notIterable (path : VariablePath)
  deriving DecidableEq, Repr

/-- A page consists of texts of the template, strings, and other values. -/
inductive Piece where
  | literal (text : List Char)
  | string (text : List Char)
  | plain (text : List Char)
  deriving DecidableEq, Repr

namespace Piece

/-- Strings are escaped. -/
def write : Piece → List Char
  | .literal text | .plain text => text
  | .string text => Markup.escape text

end Piece

/-- The pieces are written one after the other. -/
def writeAll (pieces : List Piece) : List Char := pieces.flatMap Piece.write

/-- The parts are computed in order up to the first error. -/
@[simp] def joinParts {E A : Type} : List (Except E (List A)) → Except E (List A)
  | [] => .ok []
  | part :: rest => do
      let first ← part
      let second ← joinParts rest
      return first ++ second

namespace Template

/-- A sequence of templates. -/
def all : List Template → Template
  | [] => .empty
  | first :: rest => .seq first (all rest)

/-- The lines of a fixed text. -/
def literal (lines : List String) : Template := all (lines.map fun line => .text line.toList)

/-- A template that extends this one replaces its blocks. -/
def override (blocks : List (List Char × Template)) : Template → Template
  | .empty => .empty
  | .text content => .text content
  | .seq first second => .seq (first.override blocks) (second.override blocks)
  | .output path default => .output path default
  | .choose path yes no => .choose path (yes.override blocks) (no.override blocks)
  | .each name path body => .each name path (body.override blocks)
  | .block name body => .block name ((blocks.lookup name).getD (body.override blocks))

section Semantics
variable {V : Type} (values : Values V)

/-- A field of an undefined value is undefined. -/
def resolve (scope : Scope V) (path : VariablePath) : Option V :=
  path.fields.foldl (fun value name => value.bind fun value => values.field value name)
    (scope path.head)

/-- A loop binds its variable over the scope. -/
def bindName (scope : Scope V) (name : List Char) (value : V) : Scope V :=
  fun key => if key = name then some value else scope key

def display (value : V) : Piece :=
  match values.string value with
  | some content => .string content
  | none => .plain (values.shown value)

/-- The pieces that the template prints; an undefined condition is false. -/
@[simp] def pieces : Template → Scope V → Except RenderError (List Piece)
  | .empty, _ => .ok []
  | .text content, _ => .ok [.literal content]
  | .seq first second, scope => do
      let before ← first.pieces scope
      let after ← second.pieces scope
      return before ++ after
  | .output path default, scope =>
      match resolve values scope path, default with
      | some value, _ => .ok [display values value]
      | none, some content => .ok [.string content]
      | none, none => .error (.undefined path)
  | .choose path yes no, scope =>
      if (resolve values scope path).any values.truthy then yes.pieces scope else no.pieces scope
  | .each name path body, scope =>
      match (resolve values scope path).bind values.elements with
      | some elements => joinParts (elements.map fun value => body.pieces (bindName scope name value))
      | none => .error (.notIterable path)
  | .block _ body, scope => body.pieces scope

/-- The rules of an engine that prints templates, one for each construct.

They say what is printed and never when an engine fails.  Undefined variables are spoken of by their
bare names, because an engine may know more fields of a value than `values` does. -/
structure Follows {E : Type} (print : Template → Scope V → Except E (List Char)) : Prop where
  empty : ∀ scope, print .empty scope = .ok []
  text : ∀ content scope, print (.text content) scope = .ok content
  seq : ∀ first second scope before after, print first scope = .ok before →
    print second scope = .ok after → print (.seq first second) scope = .ok (before ++ after)
  string : ∀ path default scope value content, resolve values scope path = some value →
    values.string value = some content →
    print (.output path default) scope = .ok (Markup.escape content)
  plain : ∀ path default scope value, resolve values scope path = some value →
    values.string value = none → print (.output path default) scope = .ok (values.shown value)
  default : ∀ name content scope, scope name = none →
    print (.output ⟨name, []⟩ (some content)) scope = .ok (Markup.escape content)
  yes : ∀ path yes no scope value, resolve values scope path = some value →
    values.truthy value = true → print (.choose path yes no) scope = print yes scope
  no : ∀ path yes no scope value, resolve values scope path = some value →
    values.truthy value = false → print (.choose path yes no) scope = print no scope
  undefined : ∀ name yes no scope, scope name = none →
    print (.choose ⟨name, []⟩ yes no) scope = print no scope
  each : ∀ name path body scope elements pages,
    (resolve values scope path).bind values.elements = some elements →
    List.Forall₂ (fun value page => print body (bindName scope name value) = .ok page) elements pages →
    print (.each name path body) scope = .ok pages.flatten
  block : ∀ name body scope, print (.block name body) scope = print body scope

end Semantics

end Template

end HighperfServer.Library
